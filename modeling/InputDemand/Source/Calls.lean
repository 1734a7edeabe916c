import InputDemand.Source.Assignment
import InputDemand.Source.Brackets
import InputDemand.Source.Literal

/-!
# Calls that read and calls that print

Reading calls are described by rules, applied in order to the masked source.  Each rule's pattern
matches up to and including the opening bracket of a call, or up to the operator of an extraction.
A place that an earlier rule has matched is not matched again.  Every value read becomes one site.
-/

namespace InputDemand

/-- A place where the program reads one value. -/
structure Site where
  span : Span
  /-- The name that receives the value. -/
  target? : Option Text
  /-- The prompt that the reading call itself carries. -/
  inline? : Option Text
deriving DecidableEq, Repr

/-- A printing statement, with its text if it prints exactly one literal. -/
structure Print where
  span : Span
  literal? : Option Text
deriving DecidableEq, Repr

/-- Where the value of a reading call goes. -/
inductive Receiver where
  | assigned
  /-- To the argument at an index. -/
  | argument (index : Nat)

/-- How a language reads values. -/
inductive ReadRule where
  /-- One value per call.  An argument may hold a prompt; some argument may have to name a
  stream. -/
  | call (opening : Pattern) (receiver : Receiver) (prompt? : Option Nat) (stream? : Option Text)
  /-- One value for every argument behind the first `leading` ones, or one for the call if there
  are no such arguments. -/
  | destinations (opening : Pattern) (leading : Nat) (stream? : Option Text)
  /-- One value for every operand up to the end of the statement. -/
  | extraction (opening : Pattern)

def ReadRule.opening : ReadRule → Pattern
  | call opening .. => opening
  | destinations opening .. => opening
  | extraction opening => opening

def argumentSpan (start : Nat) (argument : Text) : Span :=
  ⟨start, start + Text.size argument⟩

/-- A text without any number of leading standard-namespace qualifiers. -/
def withoutNamespace : Text → Text
  | 's' :: 't' :: 'd' :: ':' :: ':' :: rest => withoutNamespace rest
  | text => text

/-- Whether an argument names the stream that a rule asks for. -/
def namesStream (arguments : List (Nat × Text)) : Option Text → Bool
  | none => true
  | some stream => arguments.any fun (_, argument) => withoutNamespace argument = stream

/-- The name of a named argument, up to its value. -/
def argumentName : Pattern :=
  Pattern.wordRun ++ Pattern.blanks ++ "=" ++ Pattern.blanks

/-- The prompt in the argument at a position: its lone literal, unless that is blank. -/
def promptAt? (source masked : Text) (marks : List Char) (offset : Nat) :
    Except Misplaced (Option Text) := do
  let place ← Cursor.at? masked offset
  let value := ((argumentName.matchAt? place).map Match.stop).getD place
  let literal? ← value.soleLiteral? source marks
  return literal?.filter fun literal => !Text.blank literal

def callSite (source masked : Text) (marks : List Char) (found : Match)
    (arguments : List (Nat × Text)) (receiver : Receiver) (prompt? : Option Nat) :
    Except Misplaced Site := do
  let target? := match receiver with
    | .assigned => assignedName? found.start
    | .argument index => (arguments[index]?).bind fun (_, argument) => destinationName? argument
  let inline? ← match prompt?.bind fun index => arguments[index]? with
    | none => pure none
    | some (offset, _) => promptAt? source masked marks offset
  return ⟨Cursor.callSpan found.start found.last, target?, inline?⟩

def destinationSites (found : Match) (destinations : List (Nat × Text)) : List Site :=
  if destinations.isEmpty then
    [⟨Cursor.callSpan found.start found.last, assignedName? found.start, none⟩]
  else destinations.map fun (start, argument) =>
    ⟨argumentSpan start argument, destinationName? argument, none⟩

/-- The pieces of a text between double greater-than signs. -/
def splitOperands : Text → List Text
  | [] => [[]]
  | '>' :: '>' :: rest => [] :: splitOperands rest
  | letter :: rest =>
      match splitOperands rest with
      -- There is always a first piece, so this case never comes.
      | [] => [[letter]]
      | piece :: pieces => (letter :: piece) :: pieces

/-- The sites of operands that start at a position, each two bytes behind the one before. -/
def operandSites (start : Nat) : List Text → List Site
  | [] => []
  | operand :: operands =>
      let trimmed := Text.trim operand
      let others := operandSites (start + Text.size operand + 2) operands
      if trimmed.isEmpty then others
      else
        ⟨argumentSpan (start + Text.blankWidth operand) trimmed, destinationName? trimmed, none⟩
          :: others

def ReadRule.sites (source masked : Text) (marks : List Char) (found : Match) :
    ReadRule → Except Misplaced (List Site)
  | call _ receiver prompt? stream? => do
      let arguments := found.last.callArguments
      if namesStream arguments stream? then
        return [← callSite source masked marks found arguments receiver prompt?]
      else return []
  | destinations _ leading stream? =>
      let arguments := found.last.callArguments
      if namesStream arguments stream? then
        return destinationSites found (arguments.drop leading)
      else return []
  | extraction _ =>
      let chain := found.stop.rest.takeWhile (· ≠ ';')
      return operandSites found.stop.offset (splitOperands chain)

/-- The matches of patterns, each with what its pattern stands for, in the order of the patterns;
of several matches that start at one place only the first is left. -/
def claims {Rule : Type} (masked : Text) (opening : Rule → Pattern) (rules : List Rule) :
    List (Rule × Match) :=
  let found := rules.flatMap fun rule => ((opening rule).findAll masked).map fun hit => (rule, hit)
  found.eraseDupsBy fun one other => one.2.start.offset == other.2.start.offset

/-- All sites that the rules find, in source order. -/
def readSites (source masked : Text) (marks : List Char) (rules : List ReadRule) :
    Except Misplaced (List Site) := do
  let sites ← (claims masked ReadRule.opening rules).mapM fun (rule, found) =>
    rule.sites source masked marks found
  return sites.flatten.mergeSort fun one other => one.span.start ≤ other.span.start

def isNamedArgument (argument : Text) : Bool :=
  match argument.dropWhile (· ≠ '=') with
  | [] => false
  | _ :: value => Text.isName (Text.trim (argument.takeWhile (· ≠ '='))) && value.head? ≠ some '='

/-- The printing statement of a match: a call through its closing bracket, or a keyword up to the
end of its statement or line.  It counts as a literal only if no second argument without a name
follows. -/
def printOf (source : Text) (marks : List Char) (found : Match) : Except Misplaced Print := do
  let literal? ← found.stop.soleLiteral? source marks
  if found.stop.before.head? = some '(' then
    let others := found.last.callArguments.drop 1
    let single := others.all fun (_, argument) => isNamedArgument argument
    return ⟨Cursor.callSpan found.start found.last, if single then literal? else none⟩
  else
    -- Without a semicolon the search runs to the end of the source, and the line ends first.
    let statementStop := (found.stop.skipWhile (· ≠ ';')).next
    return ⟨⟨found.start.offset, min statementStop.offset found.stop.lineEnd.offset⟩, literal?⟩

def prints (source masked : Text) (marks : List Char) (openings : List Pattern) :
    Except Misplaced (List Print) := do
  let found ← (claims masked id openings).mapM fun (_, hit) => printOf source marks hit
  return found.mergeSort fun one other => one.span.start ≤ other.span.start

end InputDemand
