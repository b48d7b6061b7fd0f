import SymbolDiff.Proofs.Comparison.Summary
import SymbolDiff.Proofs.Report.Shape

/-!
# The shape of all reports

Every comparison, from that of two values up to a whole run, gives a
well-formed report.  The number of its levels is that of the deepest way down:
a run, a language, a specification, the output, a file, its classes, a class,
its methods, a method, its parameters, a parameter, one of its properties and
its old or new value.
-/

namespace SymbolDiff

open Node

section Symbols

theorem fitsIn_compareScalar (label : String) (old new : Scalar) :
    FitsIn 2 (compareScalar label old new) := by
  unfold compareScalar
  split
  · exact fitsIn_none 2
  · exact fitsIn_some.mpr (fits_replaced label _ _)

theorem fitsIn_changed {levels : Nat} {label : String}
    {results : List (Option Node)}
    (each : ∀ result ∈ results, FitsIn levels result) :
    FitsIn (levels + 1) (changed label results) :=
  fitsIn_gather label rfl each

theorem fitsIn_compareParameter (old new : Parameter) :
    FitsIn 3 (compareParameter old new) := by
  apply fitsIn_changed
  simp [fitsIn_compareScalar]

theorem fitsIn_compareField (old new : Field) :
    FitsIn 3 (compareField old new) := by
  apply fitsIn_changed
  simp [fitsIn_compareScalar]

theorem fitsIn_compareTypeAlias (old new : TypeAlias) :
    FitsIn 3 (compareTypeAlias old new) := by
  apply fitsIn_changed
  simp [fitsIn_compareScalar]

theorem fitsIn_compareVariable (old new : Variable) :
    FitsIn 3 (compareVariable old new) := by
  apply fitsIn_changed
  simp [fitsIn_compareScalar]

theorem gives_compareMethod (old new : Method) :
    Gives (FitsIn 5) (compareMethod old new) := by
  unfold compareMethod
  apply (gives_compareItems (fun first second =>
    Gives.of_pure (fitsIn_compareParameter first second)) _ _ _ _).bind
  intro parameters fits
  apply Gives.of_pure
  apply fitsIn_changed
  simp [fits.mono, (fitsIn_compareScalar _ _ _).mono]

theorem gives_compareMethods (old new : List Method) :
    Gives (FitsIn 6) (compareMethods old new) :=
  gives_compareItems gives_compareMethod _ _ _ _

theorem gives_compareFields (old new : List Field) :
    Gives (FitsIn 4) (compareFields old new) :=
  gives_compareItems (fun first second =>
    Gives.of_pure (fitsIn_compareField first second)) _ _ _ _

theorem gives_compareClass (old new : ClassSymbol) :
    Gives (FitsIn 7) (compareClass old new) := by
  unfold compareClass
  apply (gives_compareMethods _ _).bind
  intro methods methodsFit
  apply (gives_compareFields _ _).bind
  intro fields fieldsFit
  apply Gives.of_pure
  apply fitsIn_changed
  simp [methodsFit, fieldsFit.mono, (fitsIn_compareScalar _ _ _).mono]

theorem gives_compareInterface (old new : InterfaceSymbol) :
    Gives (FitsIn 7) (compareInterface old new) := by
  unfold compareInterface
  apply (gives_compareMethods _ _).bind
  intro methods methodsFit
  apply (gives_compareFields _ _).bind
  intro fields fieldsFit
  apply Gives.of_pure
  apply fitsIn_changed
  simp [methodsFit, fieldsFit.mono, (fitsIn_compareScalar _ _ _).mono]

theorem gives_compareSource (label : String) (old new : Source) :
    Gives (FitsIn 9) (compareSource label old new) := by
  unfold compareSource
  apply (gives_compareItems gives_compareClass _ _ _ _).bind
  intro classes classesFit
  apply (gives_compareItems gives_compareInterface _ _ _ _).bind
  intro interfaces interfacesFit
  apply (gives_compareItems (fun first second =>
    Gives.of_pure (fitsIn_compareTypeAlias first second)) _ _ _ _).bind
  intro types typesFit
  apply (gives_compareItems (fun first second =>
    Gives.of_pure (fitsIn_compareVariable first second)) _ _ _ _).bind
  intro bindings bindingsFit
  apply Gives.of_pure
  apply fitsIn_changed
  simp [classesFit.mono, interfacesFit.mono, typesFit.mono, bindingsFit.mono]

end Symbols

section Outputs

theorem Gives.lift {α : Type} {holds : α → Prop} {traced : Traced α}
    (gives : Gives holds traced) :
    Gives holds (ExceptT.lift traced : Attempt α) := by
  obtain ⟨inner, rfl⟩ := gives
  exact ⟨ExceptT.lift inner, rfl⟩

theorem Gives.of_outcome {α : Type} {holds : α → Prop} {attempt : Attempt α}
    (gives : Gives holds attempt) {value : α}
    (done : attempt.outcome = .ok value) : holds value := by
  obtain ⟨inner, rfl⟩ := gives
  rw [← bind_pure_comp, Attempt.outcome_bind] at done
  obtain ⟨result, _, same⟩ := Outcome.bind_eq_ok_iff.mp done
  cases same
  exact result.2

theorem gives_compareFile (system : FileSystem) (old new : OutputFile)
    (parse : Grammar.Parser) :
    Gives (FitsIn 9) (old.compare system new parse) := by
  unfold OutputFile.compare
  split
  · apply Gives.andThen
    intro _
    exact Gives.of_pure (fitsIn_none 9)
  · apply Gives.andThen
    intro oldSymbols
    apply Gives.andThen
    intro newSymbols
    exact (gives_compareSource _ _ _).lift

theorem fitsIn_compareOutputs {system : FileSystem} {old new : Output}
    {parse : Grammar.Parser} {report : Option Node}
    (done : (Output.compare system old new parse).outcome = .ok report) :
    FitsIn 10 report := by
  have files : Gives (FitsIn 10) (Output.compare system old new parse) := by
    unfold Output.compare
    apply Gives.andThen
    intro _
    exact gives_compareItems (fun first second =>
      gives_compareFile system first second parse) _ _ _ _
  exact files.of_outcome done

end Outputs

namespace Comparison

theorem Turns.fitsIn {generator : Generator} {parse : Grammar.Parser}
    {system last : FileSystem} {runs : List Planned} {specs : List SpecResult}
    (turns : Turns generator parse system runs specs last) :
    ∀ found ∈ specs, FitsIn 10 found.diff := by
  induction turns with
  | nil => simp
  | cons found _ induction =>
      obtain ⟨both, _, compared⟩ := Outcome.bind_eq_ok_iff.mp found
      rw [List.forall_mem_cons]
      exact ⟨fitsIn_compareOutputs compared, induction⟩

/-- The headings of a summary are three levels. -/
theorem fitsIn_summary {levels : Nat} {specs : List SpecResult}
    (each : ∀ found ∈ specs, FitsIn levels found.diff) :
    FitsIn (levels + 3) (summary specs) := by
  have spec : ∀ found ∈ specs, FitsIn (levels + 1) (specNode found) := by
    intro found member
    apply fitsIn_gather _ rfl
    simpa using each found member
  have language : ∀ language,
      FitsIn (levels + 2) (languageNode (groupOf specs language)) := by
    intro language
    apply fitsIn_gather _ rfl
    intro result member
    obtain ⟨found, listed, rfl⟩ := List.mem_map.mp member
    exact spec found (List.mem_of_mem_filter listed)
  rw [summary_eq]
  apply fitsIn_gather _ rfl
  intro result member
  obtain ⟨name, _, rfl⟩ := List.mem_map.mp member
  exact language name

/-- Whatever is compared, the report is well formed: `Node.check` accepts each
of its entries, and it has no more levels than the headings that can stand above
each other.  A reconciliation keeps what its own comparison gives and adds one
level to it. -/
theorem reports_wellFormed :
    (∀ label old new, WellFormedIn 2 (compareScalar label old new)) ∧
    (∀ old new, WellFormedIn 3 (compareParameter old new)) ∧
    (∀ old new, WellFormedIn 5 (compareMethod old new).value) ∧
    (∀ old new, WellFormedIn 3 (compareField old new)) ∧
    (∀ old new, WellFormedIn 7 (compareClass old new).value) ∧
    (∀ old new, WellFormedIn 7 (compareInterface old new).value) ∧
    (∀ old new, WellFormedIn 3 (compareTypeAlias old new)) ∧
    (∀ old new, WellFormedIn 3 (compareVariable old new)) ∧
    (∀ {α : Type} [Named α] {m : Type → Type} [Monad m] [LawfulMonad m]
        (levels : Nat) (remark : Remark → m Unit)
        (compare : α → α → m (Option Node)) orderSensitive label old new,
      (∀ first second, Gives (WellFormedIn levels) (compare first second)) →
      Gives (WellFormedIn (max 2 levels + 1))
        (compareItems remark compare orderSensitive label old new)) ∧
    (∀ label old new, WellFormedIn 9 (compareSource label old new).value) ∧
    (∀ system old new parse report,
      (Output.compare system old new parse).outcome = .ok report →
      WellFormedIn 10 report) ∧
    ∀ generator parse settings session later result,
      Run.on (run generator settings parse) session = (.ok result, later) →
      WellFormedIn 13 result.diff ∧
        ∀ found ∈ result.specs, WellFormedIn 10 found.diff := by
  simp only [wellFormedIn_eq_fitsIn]
  refine ⟨fitsIn_compareScalar, fitsIn_compareParameter, ?_, fitsIn_compareField,
    ?_, ?_, fitsIn_compareTypeAlias, fitsIn_compareVariable, ?_, ?_, ?_, ?_⟩
  · intro old new
    exact gives_iff_value.mp (gives_compareMethod old new)
  · intro old new
    exact gives_iff_value.mp (gives_compareClass old new)
  · intro old new
    exact gives_iff_value.mp (gives_compareInterface old new)
  · intro α _ m _ _ levels remark compare orderSensitive label old new each
    exact gives_compareItems each orderSensitive label old new
  · intro label old new
    exact gives_iff_value.mp (gives_compareSource label old new)
  · intro system old new parse report done
    exact fitsIn_compareOutputs done
  · intro generator parse settings session later result ended
    obtain ⟨last, turns, gathered⟩ := turns_of_run ended
    rw [gathered]
    exact ⟨fitsIn_summary turns.fitsIn, turns.fitsIn⟩

/-- A parameter that changes its type is reported on the ninth level of its
file, and the bounds for reconciliations and runs hold where these succeed. -/
theorem reports_wellFormed_deepest :
    let method (type : String) : Method := {
      name := "f", parameters := [{ name := "x", type := type, ordinal := 0 }] }
    let version (type : String) : Source := {
      classes := [{ name := "C", methods := [method type] }] }
    let differ (_ _ : Parameter) : Traced (Option Node) :=
      pure (some (.added "y"))
    let settings : Settings := {
      specs := [{ paths := ["x.json"] }]
      languages :=
        [{ language := .go, output := .ofString "g", reuse := .both }] }
    let session : Session := {
      system := {
        top := .directory [("g", .directory [("x", .directory [
          ("old", .directory [("a.txt", .file .empty)]),
          ("new", .directory [])])])]
        working := ⟨.root, []⟩
        home := .ofString "/" } }
    let idle : Generator := fun _ => .done (.exited 0 "" "")
    (∃ report,
      (compareSource "a.py" (version "int") (version "str")).value = some report ∧
      report.height = 9 ∧ WellFormed 9 report) ∧
    Gives (WellFormedIn 3) (compareItems Traced.remark differ true "Parameters"
      [⟨"x", "int", 0, false⟩] [⟨"x", "int", 0, false⟩]) ∧
    ∃ result later report,
      Run.on (run idle settings) session = (.ok result, later) ∧
      result.diff = some report ∧ report.height = 5 ∧ WellFormed 13 report := by
  intro method version differ settings session idle
  obtain ⟨_, _, _, _, _, _, _, _, items, source, _, whole⟩ := reports_wellFormed
  refine ⟨?_, ?_, ?_⟩
  · have found : ∃ report,
        (compareSource "a.py" (version "int") (version "str")).value =
          some report ∧
          report.height = 9 := ⟨_, by cbv, by rfl⟩
    obtain ⟨report, found, height⟩ := found
    exact ⟨report, found, height, source _ _ _ report found⟩
  · apply items 1
    intro first second
    apply Gives.of_pure
    rw [wellFormedIn_eq_fitsIn, fitsIn_some]
    exact fits_added "y"
  · have ended : ∃ result later report,
        Run.on (run idle settings) session = (.ok result, later) ∧
          result.diff = some report ∧ report.height = 5 :=
      ⟨_, _, _, by cbv, by rfl, by rfl⟩
    obtain ⟨result, later, report, ended, differs, height⟩ := ended
    have formed := (whole idle _ settings session later result ended).1
    exact ⟨result, later, report, ended, differs, height, formed report differs⟩

end Comparison

end SymbolDiff
