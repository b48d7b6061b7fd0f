import SymbolDiff.CommandLine.Command
import SymbolDiff.Proofs.Outcome

/-!
# Uses of options

A form without positional words that leaves nothing over has read its words as
uses of options, one after the other.  This file says what a use looks like and
that the findings are the uses, so that later files can speak of what is
written on a command line and not of how it is collected.
-/

namespace SymbolDiff.CommandLine

open Outcome

/-- The name under which uses of an option are found. -/
def Switch.key (switch : Switch) : String :=
  switch.names.getLast?.getD ""

/-- A value is one of the choices, if there are choices. -/
def Switch.Allows (switch : Switch) (value : String) : Prop :=
  ∀ choices, switch.choices = some choices → value ∈ choices

def Attached.text? : Attached → Option String
  | .nothing => none
  | .equated value => some value
  | .appended value => some value

namespace Form

/-- Words that use an option once, with the value that they give it. -/
inductive Use (form : Form) : List String → Switch → String → Prop where
  | flag {word : String} {switch : Switch} {attached : Attached} :
      form.classify word = .ok (.option switch attached) →
      switch.takesValue = false → Use form [word] switch ""
  | joined {word value : String} {switch : Switch} {attached : Attached} :
      form.classify word = .ok (.option switch attached) →
      attached.text? = some value → switch.takesValue = true →
      switch.Allows value → Use form [word] switch value
  | apart {word value : String} {switch : Switch} :
      form.classify word = .ok (.option switch .nothing) →
      form.classify value = .ok (.plain value) → switch.takesValue = true →
      switch.Allows value → Use form [word, value] switch value

/-- Words that use options one after the other, with the names of the options
and the values that they give them. -/
inductive Uses (form : Form) : List String → List (String × String) → Prop where
  | nil : Uses form [] []
  | cons {taken rest : List String} {switch : Switch} {value : String}
      {uses : List (String × String)} :
      form.Use taken switch value → Uses form rest uses →
      Uses form (taken ++ rest) ((switch.key, value) :: uses)

variable {form : Form} {findings result : Findings} {switch : Switch}
  {value : String}

section Classified

theorem mem_switches_of_mem_names {name : String}
    (named : (name, switch) ∈ form.names) : switch ∈ form.switches := by
  obtain ⟨owner, member, listed⟩ := List.mem_flatMap.mp named
  obtain ⟨_, _, same⟩ := List.mem_map.mp listed
  cases same
  exact member

theorem mem_switches_of_named? {name : List Char}
    (named : form.named? name = some switch) : switch ∈ form.switches := by
  obtain ⟨⟨_, _⟩, found, rfl⟩ := Option.map_eq_some_iff.mp named
  exact mem_switches_of_mem_names (List.mem_of_find?_eq_some found)

theorem option_of_candidates {word : List Char} {name : String} {seen : Word}
    (listed : (name, seen) ∈ form.candidates word) :
    ∃ switch attached, seen = .option switch attached ∧
      switch ∈ form.switches := by
  have selected {fits : String × Switch → Prop} [DecidablePred fits]
      {attached : Attached}
      (kept : (name, seen) ∈ form.names.filterMap fun entry =>
        if fits entry then some (entry.1, Word.option entry.2 attached)
        else none) :
      ∃ switch attached, seen = .option switch attached ∧
        switch ∈ form.switches := by
    obtain ⟨⟨_, switch⟩, member, found⟩ := List.mem_filterMap.mp kept
    obtain ⟨_, same⟩ := Option.ite_none_right_eq_some.mp found
    cases same
    exact ⟨switch, _, rfl, mem_switches_of_mem_names member⟩
  unfold candidates at listed
  split at listed
  · exact selected listed
  · exact selected listed

/-- A word that starts with a dash and is no full name is a cut name, or else
it is left as it stands. -/
theorem cases_guess {text : String} {word : List Char} {seen : Word}
    (guessed : classify.guess form text word = .ok seen) :
    (∃ switch attached, seen = .option switch attached ∧ switch ∈ form.switches) ∨
      seen = .plain text ∨ seen = .unknown text := by
  unfold classify.guess at guessed
  split at guessed
  · rename_i name found single
    cases guessed
    exact .inl (option_of_candidates (single ▸ List.mem_singleton_self _))
  · split at guessed
    · cases guessed
      exact .inr (.inl rfl)
    · cases guessed
      exact .inr (.inr rfl)
  · cases guessed

/-- A word is one of the options of a form, or else it is left as it stands. -/
theorem cases_classify {word : String} {seen : Word}
    (classified : form.classify word = .ok seen) :
    (∃ switch attached, seen = .option switch attached ∧ switch ∈ form.switches) ∨
      seen = .plain word ∨ seen = .unknown word := by
  unfold classify at classified
  dsimp only at classified
  split at classified
  · cases classified
    exact .inr (.inl rfl)
  · split at classified
    · rename_i named
      cases classified
      exact .inl ⟨_, _, rfl, mem_switches_of_named? named⟩
    · split at classified
      · cases classified
        exact .inr (.inl rfl)
      · split at classified
        · split at classified
          · rename_i named
            cases classified
            exact .inl ⟨_, _, rfl, mem_switches_of_named? named⟩
          · exact cases_guess classified
        · exact cases_guess classified

theorem mem_switches_of_classify {word : String} {attached : Attached}
    (seen : form.classify word = .ok (.option switch attached)) :
    switch ∈ form.switches := by
  rcases cases_classify seen with ⟨_, _, same, member⟩ | plain | unknown
  · cases same
    exact member
  · cases plain
  · cases unknown

theorem eq_of_classify {word other : String}
    (seen : form.classify word = .ok (.plain other)) : other = word := by
  rcases cases_classify seen with ⟨_, _, same, _⟩ | plain | unknown
  · cases same
  · cases plain
    rfl
  · cases unknown

end Classified

theorem Use.ne_nil {taken : List String} (use : form.Use taken switch value) :
    taken ≠ [] := by
  cases use with
  | flag => exact List.cons_ne_nil _ _
  | joined => exact List.cons_ne_nil _ _
  | apart => exact List.cons_ne_nil _ _

section Collected

theorem accept_eq_ok_iff :
    form.accept findings switch value = .ok result ↔
      switch.Allows value ∧ findings.addOption switch value = result := by
  unfold accept Switch.Allows
  cases switch.choices with
  | none => simp
  | some choices =>
      by_cases allowed : value ∈ choices
      · simp [allowed]
      · simp [allowed]

theorem addOption_of_raise (raised : raise findings switch = .ok result) :
    findings.addOption switch "" = result := by
  unfold raise at raised
  split at raised
  · cases raised
  · cases raised
    rfl

theorem collect_flag (bare : switch.takesValue = false) (findings : Findings)
    (afterPositional : Bool) (others : List Word) :
    form.collect findings afterPositional (.option switch .nothing :: others) =
      (raise findings switch >>= fun next => form.collect next false others) := by
  cases others with
  | nil => simp [collect, bare]
  | cons next more => cases next <;> simp [collect, bare]

/-- An option that takes a value and has none attached takes the next word. -/
theorem collect_valued {afterPositional : Bool} {others : List Word}
    (takes : switch.takesValue = true)
    (collected : form.collect findings afterPositional
      (.option switch .nothing :: others) = .ok result) :
    ∃ value more next, others = .plain value :: more ∧
      form.accept findings switch value = .ok next ∧
      form.collect next false more = .ok result := by
  cases others with
  | nil => simp [collect, takes] at collected
  | cons following more =>
      cases following with
      | plain value =>
          rw [collect, if_pos takes] at collected
          obtain ⟨next, added, collected⟩ := bind_eq_ok_iff.mp collected
          exact ⟨value, more, next, rfl, added, collected⟩
      | separator => simp [collect, takes] at collected
      | unknown text => simp [collect, takes] at collected
      | option other attached => simp [collect, takes] at collected

/-- An option that was collected has a value: none to speak of, the one that is
attached to it, or the next word. -/
theorem exists_value_of_collect {attached : Attached} {afterPositional : Bool}
    {others : List Word}
    (collected : form.collect findings afterPositional
      (.option switch attached :: others) = .ok result) :
    ∃ value more,
      form.collect (findings.addOption switch value) false more = .ok result ∧
      ((switch.takesValue = false ∧ value = "" ∧ others = more) ∨
        switch.takesValue = true ∧ switch.Allows value ∧
          (attached.text? = some value ∧ others = more ∨
            attached = .nothing ∧ others = .plain value :: more)) := by
  cases attached with
  | equated value =>
      rw [collect] at collected
      split at collected
      · rename_i takes
        obtain ⟨next, added, collected⟩ := bind_eq_ok_iff.mp collected
        obtain ⟨allowed, rfl⟩ := accept_eq_ok_iff.mp added
        exact ⟨value, others, collected, .inr ⟨takes, allowed, .inl ⟨rfl, rfl⟩⟩⟩
      · cases collected
  | appended value =>
      rw [collect] at collected
      split at collected
      · rename_i takes
        obtain ⟨next, added, collected⟩ := bind_eq_ok_iff.mp collected
        obtain ⟨allowed, rfl⟩ := accept_eq_ok_iff.mp added
        exact ⟨value, others, collected, .inr ⟨takes, allowed, .inl ⟨rfl, rfl⟩⟩⟩
      · rename_i bare
        split at collected
        · cases collected
        · obtain ⟨next, raised, collected⟩ := bind_eq_ok_iff.mp collected
          cases addOption_of_raise raised
          exact ⟨"", others, collected, .inl ⟨by simpa using bare, rfl, rfl⟩⟩
  | nothing =>
      cases takes : switch.takesValue with
      | false =>
          rw [collect_flag takes] at collected
          obtain ⟨next, raised, collected⟩ := bind_eq_ok_iff.mp collected
          cases addOption_of_raise raised
          exact ⟨"", others, collected, .inl ⟨rfl, rfl, rfl⟩⟩
      | true =>
          obtain ⟨value, more, next, rfl, added, collected⟩ :=
            collect_valued takes collected
          obtain ⟨allowed, rfl⟩ := accept_eq_ok_iff.mp added
          exact ⟨value, more, collected, .inr ⟨rfl, allowed, .inr ⟨rfl, rfl⟩⟩⟩

/-- What is left over stays so. -/
theorem leftOver_prefix_of_collect {findings : Findings} {afterPositional : Bool}
    {words : List Word}
    (collected : form.collect findings afterPositional words = .ok result) :
    findings.leftOver <+: result.leftOver := by
  have leaves (text : String) :
      findings.leftOver <+: (findings.leave text).leftOver :=
    List.prefix_append _ _
  cases words with
  | nil =>
      rw [collect] at collected
      cases collected
      exact List.prefix_refl _
  | cons word others =>
      cases word with
      | plain text =>
          rw [collect] at collected
          split at collected
          · exact (leftOver_prefix_of_collect collected :)
          · exact (leaves text).trans (leftOver_prefix_of_collect collected)
      | separator =>
          rw [collect] at collected
          split at collected
          · exact leftOver_prefix_of_collect collected
          · exact (leaves "--").trans (leftOver_prefix_of_collect collected)
      | unknown text =>
          rw [collect] at collected
          exact (leaves text).trans (leftOver_prefix_of_collect collected)
      | option switch attached =>
          obtain ⟨value, more, collected, taken⟩ :=
            exists_value_of_collect collected
          have shorter : more.length ≤ others.length := by
            rcases taken with ⟨_, _, rfl⟩ | ⟨_, _, ⟨_, rfl⟩ | ⟨_, rfl⟩⟩
            · exact Nat.le_refl _
            · exact Nat.le_refl _
            · simp
          exact (leftOver_prefix_of_collect collected :)
termination_by words.length
decreasing_by
  all_goals
    subst_vars
    simp only [List.length_cons]
    omega

/-- A text that is left over is never forgotten. -/
theorem leave_ne_nil_of_collect {text : String} {afterPositional : Bool}
    {words : List Word}
    (collected : form.collect (findings.leave text) afterPositional words =
      .ok result) :
    result.leftOver ≠ [] := by
  intro nothing
  have none := leftOver_prefix_of_collect collected
  rw [nothing, List.prefix_nil] at none
  simp [Findings.leave] at none

theorem classifyAll_cons_eq_ok {word : String} {rest : List String}
    {classified : List Word}
    (seen : form.classifyAll (word :: rest) = .ok classified) :
    (word = "--" ∧ classified = .separator :: rest.map .plain) ∨
      ∃ first others, form.classify word = .ok first ∧
        form.classifyAll rest = .ok others ∧ classified = first :: others := by
  rw [classifyAll] at seen
  split at seen
  · rename_i separates
    cases seen
    exact .inl ⟨separates, rfl⟩
  · obtain ⟨first, here, seen⟩ := bind_eq_ok_iff.mp seen
    obtain ⟨others, later, seen⟩ := bind_eq_ok_iff.mp seen
    cases seen
    exact .inr ⟨first, others, here, later, rfl⟩

variable (wordless : form.positionals = [])

include wordless

/-- The first of some words starts a use of an option, and the walk goes on
behind it. -/
theorem exists_use_of_collect {word : String} {rest : List String}
    {classified : List Word}
    (seen : form.classifyAll (word :: rest) = .ok classified)
    (collected : form.collect findings false classified = .ok result)
    (nothing : result.leftOver = []) :
    ∃ taken further switch value more,
      word :: rest = taken ++ further ∧ form.Use taken switch value ∧
      form.classifyAll further = .ok more ∧
      form.collect (findings.addOption switch value) false more = .ok result := by
  rcases classifyAll_cons_eq_ok seen with
    ⟨rfl, rfl⟩ | ⟨first, others, here, later, rfl⟩
  · rw [collect, if_neg (by simp [wordless])] at collected
    exact (leave_ne_nil_of_collect collected nothing).elim
  · cases first with
    | separator =>
        rcases cases_classify here with ⟨_, _, same, _⟩ | same | same
        · cases same
        · cases same
        · cases same
    | plain text =>
        rw [collect, if_neg (by simp [wordless])] at collected
        exact (leave_ne_nil_of_collect collected nothing).elim
    | unknown text =>
        rw [collect] at collected
        exact (leave_ne_nil_of_collect collected nothing).elim
    | option switch attached =>
        obtain ⟨value, more, goesOn, ⟨bare, rfl, rfl⟩ |
          ⟨takes, allowed, ⟨text, rfl⟩ | ⟨rfl, rfl⟩⟩⟩ :=
          exists_value_of_collect collected
        · exact ⟨[word], rest, switch, "", others, rfl, .flag here bare, later,
          goesOn⟩
        · exact ⟨[word], rest, switch, value, others, rfl,
            .joined here text takes allowed, later, goesOn⟩
        -- the value is the next word, so the walk goes on behind that one
        · cases rest with
          | nil => cases later
          | cons second tail =>
              rcases classifyAll_cons_eq_ok later with
                ⟨_, separates⟩ | ⟨_, _, plain, behind, same⟩
              · cases separates
              · cases same
                cases eq_of_classify plain
                exact ⟨[word, value], tail, switch, value, more, rfl,
                  .apart here plain takes allowed, behind, goesOn⟩

/-- Where nothing is left over, the options that were found are those that the
words use. -/
theorem uses_of_collect {words : List String} {classified : List Word}
    {findings : Findings} (seen : form.classifyAll words = .ok classified)
    (collected : form.collect findings false classified = .ok result)
    (nothing : result.leftOver = []) :
    result.positionals = findings.positionals ∧
      ∃ uses, form.Uses words uses ∧
        result.options = findings.options ++ uses := by
  cases words with
  | nil =>
      cases seen
      rw [collect] at collected
      cases collected
      exact ⟨rfl, [], .nil, (List.append_nil _).symm⟩
  | cons word rest =>
      obtain ⟨taken, further, switch, value, more, whole, use, later,
        collected⟩ :=
        exists_use_of_collect wordless seen collected nothing
      have shorter : further.length < (word :: rest).length := by
        rw [whole, List.length_append]
        exact Nat.lt_add_of_pos_left (List.length_pos_iff.mpr use.ne_nil)
      obtain ⟨positionals, uses, used, found⟩ :=
        uses_of_collect later collected nothing
      refine ⟨positionals, (switch.key, value) :: uses, whole ▸ .cons use used,
        ?_⟩
      rw [found]
      simp [Findings.addOption, Switch.key]
termination_by words.length

theorem uses_of_read {words : List String} (read : form.read words = .ok findings)
    (nothing : findings.leftOver = []) :
    findings.positionals = [] ∧ form.Uses words findings.options := by
  unfold Form.read at read
  split at read
  · cases read
  · rename_i classified seen
    obtain ⟨result, collected, read⟩ := bind_eq_ok_iff.mp read
    split at read
    · cases read
      obtain ⟨positionals, uses, used, found⟩ :=
        uses_of_collect wordless seen collected nothing
      rw [found]
      exact ⟨positionals, used⟩
    · cases read

end Collected

theorem Use.mem_switches {taken : List String}
    (use : form.Use taken switch value) :
    switch ∈ form.switches := by
  cases use with
  | flag named => exact mem_switches_of_classify named
  | joined named => exact mem_switches_of_classify named
  | apart named => exact mem_switches_of_classify named

theorem Use.allows {taken : List String} (use : form.Use taken switch value)
    (takes : switch.takesValue = true) : switch.Allows value := by
  cases use with
  | flag _ bare => exact absurd takes (by simp [bare])
  | joined _ _ _ allowed => exact allowed
  | apart _ _ _ allowed => exact allowed

/-- How an option is used is settled by its first word. -/
theorem Use.unique {first second rest others : List String}
    {other : Switch} {last : String} (use : form.Use first switch value)
    (again : form.Use second other last)
    (same : first ++ rest = second ++ others) :
    switch = other ∧ value = last ∧ rest = others := by
  cases use with
  | flag seen bare =>
      cases again with
      | flag read _ =>
          cases same
          cases seen.symm.trans read
          exact ⟨rfl, rfl, rfl⟩
      | joined read _ takes =>
          cases same
          cases seen.symm.trans read
          simp [bare] at takes
      | apart read _ takes =>
          cases same
          cases seen.symm.trans read
          simp [bare] at takes
  | joined seen text takes =>
      cases again with
      | flag read bare =>
          cases same
          cases seen.symm.trans read
          simp [bare] at takes
      | joined read written =>
          cases same
          cases seen.symm.trans read
          cases text.symm.trans written
          exact ⟨rfl, rfl, rfl⟩
      | apart read =>
          cases same
          cases seen.symm.trans read
          cases text
  | apart seen _ takes =>
      cases again with
      | flag read bare =>
          cases same
          cases seen.symm.trans read
          simp [bare] at takes
      | joined read written =>
          cases same
          cases seen.symm.trans read
          cases written
      | apart read =>
          cases same
          cases seen.symm.trans read
          exact ⟨rfl, rfl, rfl⟩

theorem Uses.unique {words : List String} {uses others : List (String × String)}
    (used : form.Uses words uses) (again : form.Uses words others) :
    others = uses := by
  induction used generalizing others with
  | nil =>
      generalize same : ([] : List String) = words at again
      cases again with
      | nil => rfl
      | cons use _ =>
          exact absurd (List.append_eq_nil_iff.mp same.symm).1 use.ne_nil
  | @cons first rest switch value uses use _ induction =>
      generalize same : first ++ rest = words at again
      cases again with
      | nil => exact absurd (List.append_eq_nil_iff.mp same).1 use.ne_nil
      | cons other later =>
          obtain ⟨rfl, rfl, rfl⟩ := use.unique other same
          rw [induction later]

/-- Every use is one of an option of the form, with a value that it allows. -/
theorem Uses.exists_switch {words : List String} {uses : List (String × String)}
    (used : form.Uses words uses) {name : String}
    (member : (name, value) ∈ uses) :
    ∃ switch ∈ form.switches, switch.key = name ∧
      (switch.takesValue = true → switch.Allows value) := by
  induction used with
  | nil => cases member
  | cons use _ induction =>
      rcases List.mem_cons.mp member with same | later
      · cases same
        exact ⟨_, use.mem_switches, rfl, use.allows⟩
      · exact induction later

end Form

section Named

variable {command : Command} {words : List String}

theorem collect_help_ne_ok (attached : Attached) (findings : Findings) :
    programForm.collect {} false [.option helpSwitch attached] ≠
      .ok findings := by
  intro collected
  cases attached with
  | nothing => cases collected
  | equated value => cases collected
  | appended value =>
      rw [Form.collect, if_neg (by decide)] at collected
      split at collected
      · cases collected
      · cases collected

/-- A command line of which nothing is left over starts with the name of its
command. -/
theorem readNamed_of_readProgram {leftOver : List String}
    (read : readProgram leftOver words = .ok (command, [])) :
    leftOver = [] ∧
      ∃ name rest, words = name :: rest ∧
        readNamed name rest = .ok (command, []) := by
  induction words generalizing leftOver with
  | nil => cases read
  | cons text rest induction =>
      rw [readProgram] at read
      split at read
      · rename_i separates
        split at read
        · cases read
        · subst separates
          cases read
      · split at read
        · rename_i name seen
          cases Form.eq_of_classify seen
          obtain ⟨⟨found, further⟩, named, whole⟩ := bind_eq_ok_iff.mp read
          simp only [pure_eq_ok, Except.ok.injEq, Prod.mk.injEq,
            List.append_eq_nil_iff] at whole
          obtain ⟨rfl, rfl, rfl⟩ := whole
          exact ⟨rfl, text, rest, rfl, named⟩
        · rename_i switch attached seen
          have help : switch = helpSwitch :=
            List.mem_singleton.mp (Form.mem_switches_of_classify seen)
          subst help
          obtain ⟨findings, collected, _⟩ := bind_eq_ok_iff.mp read
          exact (collect_help_ne_ok attached findings collected).elim
        · obtain ⟨none, _⟩ := induction read
          simp at none
        · cases read

theorem read_of_readNamed {name : String} {options : CompareOptions}
    (read : readNamed name words = .ok (.compare options, [])) :
    name = "compare" ∧ ∃ findings, compareForm.read words = .ok findings ∧
      findings.leftOver = [] ∧ compareCommand findings = .compare options := by
  unfold readNamed at read
  split at read
  · rename_i other form command found
    obtain ⟨findings, done, whole⟩ := bind_eq_ok_iff.mp read
    simp only [pure_eq_ok, Except.ok.injEq, Prod.mk.injEq] at whole
    obtain ⟨asked, nothing⟩ := whole
    have listed := List.mem_of_find?_eq_some found
    have same : other = name := by simpa using List.find?_some found
    subst same
    simp only [commands, List.mem_cons, List.not_mem_nil, or_false,
      Prod.mk.injEq] at listed
    rcases listed with ⟨rfl, rfl, rfl⟩ | ⟨rfl, rfl, rfl⟩ | ⟨rfl, rfl, rfl⟩
    · exact ⟨rfl, findings, done, nothing, asked⟩
    · cases asked
    · cases asked
  · cases read

/-- A command line that asks for `compare`, by the uses of options that are
written behind the name of the command. -/
theorem uses_of_read_compare {options : CompareOptions} {parts : Segments}
    (read : Command.read words = .ok (.compare options, parts)) :
    parts = segments words ∧
      ∃ rest uses, (segments words).program = "compare" :: rest ∧
        compareForm.Uses rest uses ∧
        compareCommand { options := uses } = .compare options := by
  unfold Command.read at read
  obtain ⟨⟨command, leftOver⟩, found, asked⟩ := bind_eq_ok_iff.mp read
  dsimp only at asked
  split at asked
  · cases asked
  · rename_i nothing
    have empty : leftOver = [] := by simpa using nothing
    subst empty
    cases command with
    | compare found =>
        cases asked
        obtain ⟨_, name, rest, program, named⟩ := readNamed_of_readProgram found
        obtain ⟨rfl, findings, done, none, same⟩ := read_of_readNamed named
        obtain ⟨positionals, used⟩ := Form.uses_of_read rfl done none
        refine ⟨rfl, rest, findings.options, program, used, ?_⟩
        rw [← same]
        rfl
    | baseline _ =>
        dsimp only at asked
        split at asked
        · cases asked
        · cases asked
    | diff _ =>
        dsimp only at asked
        split at asked
        · cases asked
        · cases asked

end Named

end SymbolDiff.CommandLine
