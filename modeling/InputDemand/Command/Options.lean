import InputDemand.Detection

/-!
# Command-line options

What the arguments of the command ask for, why they may be refused, and the language to assume for
a source under them.
-/

namespace InputDemand

/-- What the command is asked to do. -/
structure Options where
  path : Text
  /-- The tag of a language that is given explicitly. -/
  language? : Option Text
  /-- Whether to ask line by line even on a terminal. -/
  plain : Bool
  /-- Where to write a log. -/
  log? : Option Text
deriving DecidableEq, Repr

/-- Why arguments are refused. -/
inductive OptionsError where
  | missingFile
  | missingValue (flag : Text)
  | unknownFlag (flag : Text)
  /-- Help is asked for instead. -/
  | helpRequested
deriving DecidableEq, Repr

def OptionsError.message : OptionsError → Text
  | missingFile => "No input file provided".toList
  | missingValue flag => "Flag '".toList ++ flag ++ "' needs a value".toList
  | unknownFlag flag => "Unknown flag '".toList ++ flag ++ ['\'']
  | helpRequested => "Help requested".toList

/-- The options that the arguments so far ask for; the path may still be missing. -/
structure PartialOptions where
  path? : Option Text
  language? : Option Text
  plain : Bool
  log? : Option Text
deriving DecidableEq, Repr

namespace PartialOptions

def empty : PartialOptions :=
  ⟨none, none, false, none⟩

def complete (options : PartialOptions) : Except OptionsError Options :=
  match options.path? with
  | none => .error .missingFile
  | some path => .ok ⟨path, options.language?, options.plain, options.log?⟩

/-- Takes an argument that is no known flag: the path, unless it looks like a flag or there is a
path already. -/
def takePath (options : PartialOptions) (argument : Text) : Except OptionsError PartialOptions :=
  if argument.head? = some '-' && 1 < argument.length then .error (.unknownFlag argument)
  else if options.path?.isSome then .error (.unknownFlag argument)
  else .ok { options with path? := some argument }

end PartialOptions

def isFlag (spellings : List String) (argument : Text) : Bool :=
  spellings.any fun spelling => spelling.toList = argument

/-- Reads the arguments from left to right; the first that does not fit is the error. -/
def optionsFrom (options : PartialOptions) : List Text → Except OptionsError Options
  | [] => options.complete
  | argument :: arguments =>
      if isFlag ["-h", "--help"] argument then .error .helpRequested
      else if isFlag ["--plain"] argument then optionsFrom { options with plain := true } arguments
      else if isFlag ["-l", "--lang"] argument then
        match arguments with
        | [] => .error (.missingValue argument)
        | tag :: arguments => optionsFrom { options with language? := some tag } arguments
      else if isFlag ["--log"] argument then
        match arguments with
        | [] => .error (.missingValue argument)
        | path :: arguments => optionsFrom { options with log? := some path } arguments
      else
        match options.takePath argument with
        | .error error => .error error
        | .ok options => optionsFrom options arguments

namespace Options

def ofArguments (arguments : List Text) : Except OptionsError Options :=
  optionsFrom PartialOptions.empty arguments

end Options

/-- No grammar is known for the language of this name. -/
structure UnsupportedLanguage where
  name : Text
deriving DecidableEq, Repr

def UnsupportedLanguage.message (error : UnsupportedLanguage) : Text :=
  "Unsupported language '".toList ++ error.name ++ ['\'']

/-- The language that a tag names. -/
def Language.ofTag (tag : Text) : Except UnsupportedLanguage Language :=
  match Language.ofTag? tag with
  | some language => .ok language
  | none => .error ⟨tag⟩

/-- The language to assume for a source: the one given by its tag, or else the one that the path
tells, or else the one detected in the text. -/
def Options.languageOf (options : Options) (source : Text) : Except UnsupportedLanguage Language :=
  match options.language? with
  | some tag => Language.ofTag tag
  | none =>
      match (Language.ofPath? options.path).or ((detect source).map Detected.language) with
      | some language => .ok language
      | none => .error ⟨options.path⟩

/-- How the command is used, for a program of a name. -/
def usage (program : Text) : Text :=
  "Usage: ".toList ++ program ++ " <file> [--lang <tag>] [--plain] [--log <path>]\n\n".toList ++
  "Options:\n  -l, --lang <tag>   Source language (".toList ++
  (", ".toList).intercalate (Language.all.map Language.tag) ++
  ")\n      --plain        Ask for values line by line instead of the TUI\n".toList ++
  "      --log <path>   Write logs to a file (filter with RUNPROMPT_LOG)\n".toList ++
  "  -h, --help         Show this message\n\nExamples:\n  ".toList ++ program ++
  " sum.py\n  ".toList ++ program ++ " Main.txt --lang java --plain".toList

end InputDemand
