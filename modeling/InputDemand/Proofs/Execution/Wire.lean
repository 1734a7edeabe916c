import InputDemand.Execution.Request
import InputDemand.Proofs.Json.RoundTrip

/-!
# Requests and responses over the wire

A request is read back from its text as it was sent, and so is a response whose line numbers fit
into 64 bits.  A remark without a suggestion is written without that field, and read without it.
-/

namespace InputDemand

/-! ## Numbers and lists -/

theorem Text.unsigned?_ofNat (number : Nat) :
    unsigned? (ofNat number) = if number ≤ maxUnsigned then some number else none := by
  obtain ⟨first, more, split, digit⟩ := Json.exists_cons_ofNat number
  have noPlus : first ≠ '+' := by
    rintro rfl
    cases digit
  have digits : unsigned? (ofNat number) =
      (digitsValue? (ofNat number)).filter fun value => value ≤ maxUnsigned := by
    rw [split, unsigned?]
    exact fun _ same => noPlus (List.cons.inj same).1
  rw [digits, digitsValue?_ofNat, Option.filter_some]
  by_cases fits : number ≤ maxUnsigned <;> simp [fits]

namespace Json

theorem unsigned?_ofNat (number : Nat) :
    (Json.ofNat number).unsigned? = if number ≤ maxUnsigned then some number else none := by
  have digits : (Text.ofNat number).all Char.isDigit = true :=
    List.all_eq_true.mpr fun _ => Text.isDigit_of_mem_ofNat
  rw [ofNat, unsigned?, if_pos digits, Text.unsigned?_ofNat]

/-- A list is read back if and only if each of its items is. -/
theorem listOf?_map_iff {Item : Type} {read : Json → Option Item} {write : Item → Json}
    {items : List Item} :
    listOf? read (.array (items.map write)) = some items ↔
      ∀ item ∈ items, read (write item) = some item := by
  rw [listOf?]
  induction items with
  | nil => simp
  | cons item items inductionHypothesis =>
      rw [List.map_cons, List.mapM_cons, List.forall_mem_cons, ← inductionHypothesis]
      cases read (write item) <;> cases (items.map write).mapM read <;> simp

end Json

/-! ## Requests -/

section Requests

variable (language : Language) (request : Request)

theorem Language.ofJson?_toJson : Language.ofJson? language.toJson = some language := by
  cases language <;> rfl

theorem Request.isPlain_toJson : request.toJson.IsPlain := by
  refine .object (by simp [Json.field]) ?_
  simp only [List.forall_mem_cons, List.not_mem_nil, false_imp_iff, implies_true, and_true]
  refine ⟨.string request.code, .string request.language.tag, .array ?_⟩
  rw [List.forall_mem_map]
  exact fun input _ => .string input

theorem Request.ofJson?_toJson : Request.ofJson? request.toJson = some request := by
  have fields : request.toJson.record? ["code".toList, "language".toList, "inputs".toList] =
      some [some (.ofText request.code), some request.language.toJson,
        some (.array (request.inputs.map Json.ofText))] := rfl
  have inputs : Json.listOf? Json.text? (.array (request.inputs.map Json.ofText)) =
      some request.inputs := Json.listOf?_map_iff.mpr fun _ _ => rfl
  simp only [Request.ofJson?, fields, inputs, Language.ofJson?_toJson, Json.ofText, Json.text?,
    Option.bind_eq_bind, Option.bind_some]
  rfl

end Requests

/-! ## Responses -/

section Responses

variable (diagnostic : Diagnostic) (response : Response)

theorem Diagnostic.isPlain_toJson : diagnostic.toJson.IsPlain := by
  obtain ⟨lineNumber, message, suggestion?⟩ := diagnostic
  cases suggestion? with
  | none =>
      refine .object (by simp [Json.field]) ?_
      simpa [Json.field] using ⟨Json.IsPlain.number lineNumber, Json.IsPlain.string message⟩
  | some suggestion =>
      refine .object (by simp [Json.field]) ?_
      simpa [Json.field] using ⟨Json.IsPlain.number lineNumber, Json.IsPlain.string message,
        Json.IsPlain.string suggestion⟩

/-- A remark is read back if its line number fits into 64 bits, and is refused if not. -/
theorem Diagnostic.ofJson?_toJson :
    Diagnostic.ofJson? diagnostic.toJson =
      if diagnostic.lineNumber ≤ maxUnsigned then some diagnostic else none := by
  obtain ⟨lineNumber, message, suggestion?⟩ := diagnostic
  have fields : (Diagnostic.toJson ⟨lineNumber, message, suggestion?⟩).record?
        ["lineNumber".toList, "message".toList, "suggestion".toList] =
      some [some (.ofNat lineNumber), some (.ofText message), suggestion?.map Json.ofText] := by
    cases suggestion? <;> rfl
  have suggestion : Json.orDefault none (Json.nullable Json.text?) (suggestion?.map Json.ofText) =
      some suggestion? := by
    cases suggestion? <;> rfl
  simp only [Diagnostic.ofJson?, fields, Option.bind_eq_bind, Option.bind_some,
    Json.unsigned?_ofNat, suggestion]
  by_cases fits : lineNumber ≤ maxUnsigned <;> simp [fits, Json.ofText, Json.text?]

theorem Response.isPlain_toJson : response.toJson.IsPlain := by
  refine .object (by simp [Json.field]) ?_
  simp only [List.forall_mem_cons, List.not_mem_nil, false_imp_iff, implies_true, and_true]
  refine ⟨.bool response.succeeded, .string response.standardOutput, .array ?_⟩
  rw [List.forall_mem_map]
  exact fun diagnostic _ => diagnostic.isPlain_toJson

theorem Response.ofJson?_toJson_iff :
    Response.ofJson? response.toJson = some response ↔
      ∀ diagnostic ∈ response.diagnostics, diagnostic.lineNumber ≤ maxUnsigned := by
  obtain ⟨succeeded, standardOutput, diagnostics⟩ := response
  have fields : (Response.toJson ⟨succeeded, standardOutput, diagnostics⟩).record?
        ["succeeded".toList, "standardOutput".toList, "diagnostics".toList] =
      some [some (.bool succeeded), some (.ofText standardOutput),
        some (.array (diagnostics.map Diagnostic.toJson))] := rfl
  have fit : (∀ diagnostic ∈ diagnostics, diagnostic.lineNumber ≤ maxUnsigned) ↔
      Json.listOf? Diagnostic.ofJson? (.array (diagnostics.map Diagnostic.toJson)) =
        some diagnostics := by
    rw [Json.listOf?_map_iff]
    simp [Diagnostic.ofJson?_toJson]
  simp only [fit, Response.ofJson?, fields, Json.bool?, Json.ofText, Json.text?, Json.orDefault,
    Option.bind_eq_bind, Option.bind_some]
  cases Json.listOf? Diagnostic.ofJson? (.array (diagnostics.map Diagnostic.toJson)) <;> simp

end Responses

/-- What goes over the wire arrives: every request is read back from its compact text, and a
response is read back exactly if all its line numbers fit into 64 bits. -/
theorem ofText?_compact_toJson :
    (∀ request : Request, Request.ofText? request.toJson.compact = some request) ∧
      ∀ response : Response, Response.ofText? response.toJson.compact = some response ↔
        ∀ diagnostic ∈ response.diagnostics, diagnostic.lineNumber ≤ maxUnsigned := by
  constructor
  · intro request
    rw [Request.ofText?, request.isPlain_toJson.ofText?_compact, Option.bind_some,
      request.ofJson?_toJson]
  · intro response
    rw [Response.ofText?, response.isPlain_toJson.ofText?_compact, Option.bind_some,
      response.ofJson?_toJson_iff]

end InputDemand
