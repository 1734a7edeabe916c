import InputDemand.Language
import InputDemand.Source.Calls

/-!
# Reading and printing calls by language

The rules by which each language's reading calls, printing calls and assignments of numbers are
found in a source.
-/

namespace InputDemand

open Pattern

/-- A call of a function: its name behind a word edge, then the opening bracket. -/
def callOf (function : Pattern) : Pattern :=
  wordEdge ++ function ++ blanks ++ "("

def receiverDot : Pattern :=
  wordRun ++ "."

def dottedName : Pattern :=
  wordLetter ++ many (letter fun found => isWord found || found = '.')

namespace Language

/-- Reading calls of the standard library of C. -/
def consoleReads : List ReadRule := [
  .destinations (callOf "scanf") 1 none,
  .destinations (callOf "fscanf") 2 (some "stdin".toList),
  .call (callOf "gets") (.argument 0) none none,
  .call (callOf "fgets") (.argument 0) none (some "stdin".toList),
  .call (callOf "getchar") .assigned none none]

/-- Reading calls of scripts: prompts, questions, lines. -/
def scriptReads : List ReadRule := [
  .call (callOf "prompt") .assigned (some 0) none,
  .call (callOf (receiverDot ++ "question" ++ optional (oneOf ["Int", "Float"]))) .assigned
    (some 0) none,
  .call (callOf "readline") .assigned none none]

/-- The rules for a language's reading calls, in the order in which they claim places. -/
def readRules : Language → List ReadRule
  | python => [
      .call (callOf "input") .assigned (some 0) none,
      .call (callOf "raw_input") .assigned (some 0) none,
      .call (callOf "sys.stdin.readline") .assigned none none]
  | javascript | typescript => scriptReads
  | java => [
      .call (callOf (dottedName ++ ".next" ++
        optional (oneOf ["Int", "Line", "Double", "Float", "Long", "Short", "Byte", "Boolean",
          "BigInteger", "BigDecimal"]))) .assigned none none,
      .call (callOf (dottedName ++ optional ("(" ++ blanks ++ ")") ++ ".readLine"))
        .assigned (some 0) none]
  | c => consoleReads
  | cpp => consoleReads ++ [
      .extraction (wordEdge ++ "cin" ++ blanks ++ ">>"),
      .call (callOf "getline") (.argument 1) none (some "cin".toList)]
  | go => [
      .destinations (callOf ("fmt.Scan" ++ optional "ln")) 0 none,
      .destinations (callOf "fmt.Scanf") 1 none,
      .destinations (callOf ("fmt.Fscan" ++ optional "ln")) 1 none,
      .destinations (callOf "fmt.Fscanf") 2 none,
      .call (callOf (receiverDot ++ "ReadString")) .assigned none none,
      .call (callOf (receiverDot ++ "Scan")) .assigned none none]
  | php => [
      .call (callOf "readline") .assigned (some 0) none,
      .call (callOf "fgets") .assigned none (some "STDIN".toList),
      .destinations (callOf "fscanf") 2 (some "STDIN".toList)]
  | r => [
      .call (callOf "readline") .assigned (some 0) none,
      .call (callOf "readLines") .assigned none none,
      .call (callOf "scan") .assigned none none]
  | sql => []

def printOpenings : Language → List Pattern
  | python => [callOf "print"]
  | javascript | typescript => [callOf "console.log", callOf "process.stdout.write"]
  | java => [callOf ("System.out.print" ++ optional (oneOf ["ln", "f"]))]
  | c => [callOf "printf", callOf "puts"]
  | cpp => [callOf "printf", callOf "puts", wordEdge ++ "cout" ++ blanks ++ "<<"]
  | go => [callOf ("fmt.Print" ++ optional (oneOf ["ln", "f"]))]
  | php => [
      wordEdge ++ "echo" ++ wordEdge,
      wordEdge ++ "print" ++ wordEdge ++ blanks ++ optional "(",
      callOf "printf"]
  | r => [callOf "cat", callOf "print", callOf "message"]
  | sql => []

/-- The target of a site without one, where a scanner hands out the text that it has read by a
later call: the name that the first such call behind the site is assigned to. -/
def scannerTarget? (masked : Text) (site : Site) : Except Misplaced (Option Text) := do
  let call ← Text.slice masked site.span
  let behind ← Cursor.at? masked site.span.stop
  return (behind.find? (call.takeWhile (· ≠ '.') ++ ".Text()".toList)).bind assignedName?

def completeScannerSite (masked : Text) (site : Site) : Except Misplaced Site := do
  match site.target? with
  | some _ => return site
  | none => return { site with target? := ← scannerTarget? masked site }

/-- The places where a program reads values, in source order. -/
def reads (language : Language) (source : Text) : Except Misplaced (List Site) := do
  let masked := language.mask source
  let sites ← readSites source masked language.literalMarks language.readRules
  if language = go then sites.mapM (completeScannerSite masked) else return sites

def prints (language : Language) (source : Text) : Except Misplaced (List Print) :=
  InputDemand.prints source (language.mask source) language.literalMarks language.printOpenings

def bindings (language : Language) (source : Text) : List Binding :=
  if language = sql then [] else numberBindings (language.mask source)

end Language

end InputDemand
