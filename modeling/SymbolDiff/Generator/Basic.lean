import SymbolDiff.Generator.Process
import SymbolDiff.Output

/-!
# Generators

A generator is a program that is started with a command line and writes files
into a folder.  Here it is any function from command lines to processes, so
that nothing is assumed about what it does.  `Request.generate` is one use of
it: the process of the generator, then a look whether the folder is there, then
the listing of the folder.
-/

namespace SymbolDiff

/-- How a started program came to its end. -/
inductive Ending where
  /-- It could not be started. -/
  | notStarted (reason : String)
  | exited (code : Int) (output errors : String)
  deriving DecidableEq, Repr

/-- What a program does, by its command line. -/
abbrev Generator := List String → Process Ending

/-- One generation that is asked for. -/
structure Request where
  spec : Path
  output : Path
  command : List String
  language : String
  arguments : List String := []
  deriving DecidableEq, Repr

namespace Request

/-- The command line of a generation. -/
def commandLine (request : Request) : List String :=
  request.command ++ request.arguments ++
    ["--" ++ request.language,
      "--" ++ request.language ++ ".output-folder=" ++ request.output.toText,
      "--" ++ request.language ++ ".clear-output-folder",
      request.spec.toText]

/-- The exit code that stands for a program that could not be started. -/
def notStartedCode : Int := 127

/-- A generation that failed with this code and output. -/
def failure (request : Request) (exitCode : Int) (output : String) : Failure :=
  .generator ⟨request.commandLine, exitCode, output⟩

/-- What a program has to say: its errors or, without any, its output. -/
def said (output errors : String) : String :=
  if errors.isEmpty then output else errors

/-- Lists the folder that a generation has left. -/
def collect (request : Request) (output : String) :
    Process (Except Failure Output) :=
  Process.look
    (fun system => Output.existing system request.output) fun listed =>
    .done (listed.map fun found => { found with messages := output })

/-- Looks for the folder after a generation that claims to have succeeded. -/
def inspect (request : Request) (output errors : String) :
    Process (Except Failure Output) :=
  Process.look (fun system => system.isDirectory request.output) fun isThere =>
    if isThere then request.collect output
    else
      .done (.error (request.failure 0
        ("generator produced no output folder at " ++ request.output.toText ++
          "\n" ++
          said output errors)))

/-- What is made of the end of the generator. -/
def conclude (request : Request) : Ending → Process (Except Failure Output)
  | .notStarted reason => .done (.error (request.failure notStartedCode reason))
  | .exited code output errors =>
    if code = 0 then request.inspect output errors
    else .done (.error (request.failure code (said output errors)))

/-- One generation: its output, or why there is none. -/
def generate (generator : Generator) (request : Request) :
    Process (Except Failure Output) :=
  (generator request.commandLine).andThen request.conclude

end Request

end SymbolDiff
