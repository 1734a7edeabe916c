import InputDemand.Command.Options
import InputDemand.Execution.Dispatch
import InputDemand.Session.LineMode

/-!
# Running the command

What the command does with its arguments, the files it can see and its input, and what it writes.
The part before the first question and the part behind the last one stand for themselves, so that
questions may also be put one by one.
-/

namespace InputDemand

/-- What a finished command has written, and the status it exits with. -/
structure Outcome where
  exit : Nat
  stdout : Text
  stderr : Text
deriving DecidableEq, Repr

/-- Files that a command can see, by name. -/
abbrev Files := List (Text × Text)

/-- The steps of a path, without those that stay in place. -/
def pathSteps (path : Text) : List Text :=
  (path.splitOn '/').filter fun step => !step.isEmpty && step ≠ ['.']

/-- Whether a path can only name a directory. -/
def namesDirectory (path : Text) : Bool :=
  match (path.splitOn '/').getLast? with
  | none => true
  | some last => last.isEmpty || last = ['.'] || last = ['.', '.']

/-- Whether two paths name the same file. -/
def samePath (first second : Text) : Bool :=
  pathSteps first = pathSteps second && (first.head? = some '/') = (second.head? = some '/')

namespace Files

/-- The contents of the file that a path names. -/
def read? (files : Files) (path : Text) : Option Text :=
  if namesDirectory path then none
  else (files.find? fun (name, _) => samePath name path).map Prod.snd

/-- The files behind the creation of an empty file. -/
def create (files : Files) (path : Text) : Files :=
  (path, []) :: files

end Files

/-- A command that has analysed its program: the session to drive and what was reported so far. -/
structure Opened where
  session : Session
  report : Text

namespace Command

/-- The end of a command whose arguments are refused. -/
def refused (program : Text) (error : OptionsError) : Outcome :=
  if error = .helpRequested then ⟨0, usage program ++ ['\n'], []⟩
  else ⟨1, [], "Error: ".toList ++ error.message ++ "\n\n".toList ++ usage program ++ ['\n']⟩

/-- The end of a command whose file is missing. -/
def fileMissing (path : Text) : Outcome :=
  ⟨1, [], "Error: File '".toList ++ path ++ "' not found\n".toList⟩

/-- The end of a command that cannot tell the language. -/
def languageMissing (error : UnsupportedLanguage) : Outcome :=
  ⟨1, [], "Error: ".toList ++ error.message ++
    "\nPass --lang <tag> to choose the language.\n".toList⟩

/-- What is reported of a program before its values are asked for. -/
def report (path : Text) (analysis : Analysis) : Text :=
  let inLoop := match analysis.outline.mainLoop? with
    | none => []
    | some _ => ", ".toList ++ Text.ofNat analysis.outline.loopReads ++ " inside a loop".toList
  "Analysing ".toList ++ path ++ " as ".toList ++ analysis.language.tag ++ "...\nFound ".toList ++
    Text.ofNat analysis.prompts.length ++ " input site(s)".toList ++ inLoop ++ ".\n".toList

/-- Analyses a source under the options, or ends if its language cannot be told. -/
def openSource (options : Options) (source : Text) :
    Except Misplaced (Except Outcome Opened) := do
  match options.languageOf source with
  | .error error => return .error (languageMissing error)
  | .ok language =>
      let analysis ← analyze language source
      return .ok ⟨Session.new analysis, report options.path analysis⟩

/-- The end of a command that has driven its session. -/
def close (opened : Opened) (driven : Driven) : Outcome :=
  let told := match driven.result with
    | .ok _ => opened.report
    | .error error => opened.report ++ ['\n'] ++ error.message ++ ['\n']
  let shown := LineMode.transcript driven
  match driven.session.request with
  | .ok request =>
      ⟨0, shown ++ request.toJson.pretty 0 ++ ['\n'],
        told ++ "Collected ".toList ++ Text.ofNat request.inputs.length ++ " value(s).\n".toList⟩
  | .error .cancelled => ⟨0, shown, told ++ "Run cancelled; nothing to execute.\n".toList⟩
  | .error error => ⟨1, shown, told ++ "Error: ".toList ++ error.message ++ ['\n']⟩

/-- Runs the command on an input that is no terminal.  A log file is created before the source is
read. -/
def run (program : Text) (arguments : List Text) (files : Files) (input : List UInt8) :
    Except Misplaced Outcome := do
  match Options.ofArguments arguments with
  | .error error => return refused program error
  | .ok options =>
      if (files.read? options.path).isNone then return fileMissing options.path
      let present := match options.log? with
        | none => files
        | some log => files.create log
      -- If the log is written to the source itself, the source read here is empty.
      match ← openSource options ((present.read? options.path).getD []) with
      | .error outcome => return outcome
      | .ok opened => return close opened (LineMode.drive opened.session input)

end Command

end InputDemand
