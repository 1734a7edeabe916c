import InputDemand.Json.Reader
import InputDemand.Language

/-!
# Requests and responses of a run

What is sent to have a program run, what comes back, and the JSON form of both.
-/

namespace InputDemand

/-- A program to run with the values it reads. -/
structure Request where
  code : Text
  language : Language
  /-- One entry for every value, in the order in which they are read. -/
  inputs : List Text
deriving DecidableEq, Repr

/-- A remark about a line of the program. -/
structure Diagnostic where
  lineNumber : Nat
  message : Text
  suggestion? : Option Text
deriving DecidableEq, Repr

/-- The result of a run. -/
structure Response where
  succeeded : Bool
  standardOutput : Text
  diagnostics : List Diagnostic
deriving DecidableEq, Repr

namespace Language

def toJson (language : Language) : Json :=
  .ofText language.tag

/-- Reads a language: its tag, or an object that has its tag as the name of a null. -/
def ofJson? : Json → Option Language
  | .string (some tag) => ofExactTag? tag
  | .object [(some tag, .null)] => ofExactTag? tag
  | _ => none

end Language

namespace Request

/-- The values as an input stream, one to a line. -/
def stdin (request : Request) : Text :=
  ['\n'].intercalate request.inputs

def toJson (request : Request) : Json :=
  .object [Json.field "code" (.ofText request.code),
    Json.field "language" request.language.toJson,
    Json.field "inputs" (.array (request.inputs.map Json.ofText))]

/-- Reads a request; all its fields have to be given. -/
def ofJson? (json : Json) : Option Request := do
  let [some code, some language, some inputs] ←
    json.record? ["code".toList, "language".toList, "inputs".toList] | none
  return ⟨← code.text?, ← Language.ofJson? language, ← Json.listOf? Json.text? inputs⟩

def ofText? (text : Text) : Option Request :=
  (Json.ofText? text).bind ofJson?

end Request

namespace Diagnostic

def toJson (diagnostic : Diagnostic) : Json :=
  .object ([Json.field "lineNumber" (.ofNat diagnostic.lineNumber),
    Json.field "message" (.ofText diagnostic.message)] ++
    match diagnostic.suggestion? with
    | none => []
    | some suggestion => [Json.field "suggestion" (.ofText suggestion)])

/-- Reads a remark; its suggestion may be missing or null. -/
def ofJson? (json : Json) : Option Diagnostic := do
  let [some lineNumber, some message, suggestion?] ←
    json.record? ["lineNumber".toList, "message".toList, "suggestion".toList] | none
  return ⟨← lineNumber.unsigned?, ← message.text?,
    ← Json.orDefault none (Json.nullable Json.text?) suggestion?⟩

end Diagnostic

namespace Response

def toJson (response : Response) : Json :=
  .object [Json.field "succeeded" (.bool response.succeeded),
    Json.field "standardOutput" (.ofText response.standardOutput),
    Json.field "diagnostics" (.array (response.diagnostics.map Diagnostic.toJson))]

/-- Reads a response; its output and its remarks may be missing. -/
def ofJson? (json : Json) : Option Response := do
  let [some succeeded, output?, diagnostics?] ←
    json.record? ["succeeded".toList, "standardOutput".toList, "diagnostics".toList] | none
  return ⟨← succeeded.bool?, ← Json.orDefault [] Json.text? output?,
    ← Json.orDefault [] (Json.listOf? Diagnostic.ofJson?) diagnostics?⟩

def ofText? (text : Text) : Option Response :=
  (Json.ofText? text).bind ofJson?

end Response

end InputDemand
