import InputDemand.Json.Reader
import InputDemand.Proofs.Text.Numerals
import Mathlib.Data.List.Basic
import Mathlib.Data.Nat.Init
import Mathlib.Tactic.SplitIfs

/-!
# Reading what was written

The compact text of a JSON value is read as that value again, if its strings and names are texts and
its numbers are natural numbers in decimal.  A value is read up to its end wherever it stands, since
no value runs on into what separates it from the next.
-/

namespace InputDemand

namespace Json

/-! ## Strings -/

section Strings

variable {letter : Char} {text rest : Text}

/-- The form of a character within a string is an escape of one letter, an escape by number, or the
character itself. -/
theorem escape_cases (letter : Char) :
    (∃ sign, escape letter = ['\\', sign] ∧ sign ≠ 'u' ∧ escaped? sign = some letter) ∨
      (escape letter =
          ['\\', 'u', '0', '0', hexDigit (letter.toNat / 16), hexDigit (letter.toNat % 16)] ∧
        letter.toNat < 32) ∨
      (escape letter = [letter] ∧ 32 ≤ letter.toNat ∧ letter ≠ '"' ∧ letter ≠ '\\') := by
  unfold escape
  split_ifs with quote slash feed carriage tab back page control
  · exact Or.inl ⟨'"', rfl, by decide, by rw [quote]; rfl⟩
  · exact Or.inl ⟨'\\', rfl, by decide, by rw [slash]; rfl⟩
  · exact Or.inl ⟨'n', rfl, by decide, by rw [feed]; rfl⟩
  · exact Or.inl ⟨'r', rfl, by decide, by rw [carriage]; rfl⟩
  · exact Or.inl ⟨'t', rfl, by decide, by rw [tab]; rfl⟩
  · exact Or.inl ⟨'b', rfl, by decide, by rw [back]; rfl⟩
  · exact Or.inl ⟨'f', rfl, by decide, by rw [page]; rfl⟩
  · exact Or.inr (Or.inl ⟨rfl, control⟩)
  · exact Or.inr (Or.inr ⟨rfl, Nat.le_of_not_lt control, quote, slash⟩)

theorem hexUnit?_control : ∀ code < 32,
    hexUnit? '0' '0' (hexDigit (code / 16)) (hexDigit (code % 16)) = some code := by
  decide

theorem units?_escaped {sign : Char} (noNumber : sign ≠ 'u')
    (isEscape : escaped? sign = some letter) (rest : Text) :
    units? ('\\' :: sign :: rest) =
      (units? rest).map fun (units, rest) => (letter.toNat :: units, rest) := by
  rw [units?]
  · rw [isEscape]
    cases units? rest <;> rfl
  · rintro _ _ _ _ _ ⟨⟩
    exact absurd rfl noNumber

theorem units?_plain (visible : 32 ≤ letter.toNat) (noQuote : letter ≠ '"')
    (noEscape : letter ≠ '\\') (rest : Text) :
    units? (letter :: rest) =
      (units? rest).map fun (units, rest) => (letter.toNat :: units, rest) := by
  have stays : ¬(decide (letter.toNat < 32) || decide (letter = '\\')) = true := by
    simp [noEscape, visible]
  rw [units?]
  · rw [if_neg stays]
    cases units? rest <;> rfl
  · exact fun same => noQuote same
  · exact fun _ _ _ _ _ same _ => noEscape same
  · exact fun _ _ same _ => noEscape same

/-- A written string is read up to its closing quote, one unit for each character. -/
theorem units?_written (text rest : Text) :
    units? (text.flatMap escape ++ '"' :: rest) = some (text.map Char.toNat, rest) := by
  induction text with
  | nil => rfl
  | cons letter text inductionHypothesis =>
      rw [List.flatMap_cons, List.append_assoc, List.map_cons]
      rcases escape_cases letter with
        ⟨sign, written, noNumber, isEscape⟩ | ⟨written, control⟩ |
          ⟨written, visible, noQuote, noEscape⟩
      · rw [written, List.cons_append, List.singleton_append, units?_escaped noNumber isEscape,
          inductionHypothesis]
        rfl
      · rw [written]
        simp only [List.cons_append, List.nil_append]
        rw [units?, hexUnit?_control letter.toNat control, inductionHypothesis]
        rfl
      · rw [written, List.singleton_append, units?_plain visible noQuote noEscape,
          inductionHypothesis]
        rfl

theorem not_half_toNat (letter : Char) :
    (isHighHalf letter.toNat || isLowHalf letter.toNat) = false := by
  have valid := letter.valid
  simp only [UInt32.isValidChar, Nat.isValidChar] at valid
  simp only [isHighHalf, isLowHalf, Char.toNat, Bool.or_eq_false_iff, Bool.and_eq_false_iff,
    decide_eq_false_iff_not]
  omega

/-- No character is half of a surrogate pair. -/
theorem textOfUnits?_map_toNat (text : Text) : textOfUnits? (text.map Char.toNat) = some text := by
  induction text with
  | nil => rfl
  | cons letter text inductionHypothesis =>
      have whole := not_half_toNat letter
      cases text with
      | nil => simp [textOfUnits?, whole]
      | cons second text =>
          rw [Bool.or_eq_false_iff] at whole
          rw [List.map_cons, List.map_cons, textOfUnits?, whole.1, whole.2]
          rw [List.map_cons] at inductionHypothesis
          simp [inductionHypothesis]

theorem string?_written (text rest : Text) :
    string? (text.flatMap escape ++ '"' :: rest) = some (some text, rest) := by
  rw [string?, units?_written]
  exact congrArg (fun text? => some (text?, rest)) (textOfUnits?_map_toNat text)

end Strings

/-! ## Numbers -/

section Numbers

variable {rest : Text}

/-- A text does not start with a character that carries a number on. -/
def StopsNumber (rest : Text) : Prop :=
  ∀ letter, rest.head? = some letter →
    letter.isDigit = false ∧ letter ≠ '.' ∧ letter ≠ 'e' ∧ letter ≠ 'E'

/-- A number is zero, or its decimal form does not start with a zero. -/
theorem ofNat_cases (number : Nat) :
    Text.ofNat number = ['0'] ∨
      ∃ first more, Text.ofNat number = first :: more ∧ first ≠ '0' := by
  unfold Text.ofNat
  induction number using Nat.strongRecOn with
  | ind number inductionHypothesis =>
      rcases Nat.lt_or_ge number 10 with small | large
      · have single : ∀ number < 10, number.digitChar = '0' → number = 0 := by decide
        rw [Nat.toDigits_of_lt_base small]
        by_cases zero : number.digitChar = '0'
        · exact Or.inl (by rw [zero])
        · exact Or.inr ⟨_, [], rfl, zero⟩
      · right
        rw [Nat.toDigits_of_base_le (by decide) large]
        rcases inductionHypothesis (number / 10) (by omega) with zero | ⟨first, more, split, apart⟩
        · have value := @Nat.ofDigitChars_ten_toDigits (number / 10)
          rw [zero] at value
          have positive : 0 < number / 10 := by omega
          rw [← value] at positive
          exact absurd positive (by decide)
        · exact ⟨first, more ++ [(number % 10).digitChar], by rw [split]; rfl, apart⟩

theorem whole?_ofNat (number : Nat) (stops : StopsNumber rest) :
    whole? (Text.ofNat number ++ rest) = some (Text.ofNat number, rest) := by
  have isDigit : ∀ letter ∈ Text.ofNat number, letter.isDigit = true :=
    fun letter => Text.isDigit_of_mem_ofNat
  rcases ofNat_cases number with zero | ⟨first, more, split, apart⟩
  · rw [zero]
    rfl
  · have ended : rest.head?.all (fun letter => !letter.isDigit) = true := by
      cases rest with
      | nil => rfl
      | cons letter rest => simp [(stops letter rfl).1]
    rw [split] at isDigit ⊢
    obtain ⟨taken, dropped⟩ := Text.span_append isDigit ended
    rw [List.cons_append] at taken dropped
    rw [List.cons_append, whole?]
    · rw [digits?, taken, dropped]
      rfl
    · exact fun _ same => apart (List.cons.inj same).1

/-- A number in decimal is read up to where it stops. -/
theorem number?_ofNat (number : Nat) (stops : StopsNumber rest) :
    number? (Text.ofNat number ++ rest) = some (Text.ofNat number, rest) := by
  have unsigned : ∀ more, '-' :: more ≠ Text.ofNat number ++ rest := by
    intro more same
    obtain ⟨first, others, split⟩ :=
      List.exists_cons_of_ne_nil (show Text.ofNat number ≠ [] from Nat.toDigits_ne_nil)
    have digit := Text.isDigit_of_mem_ofNat (split ▸ List.mem_cons_self : first ∈ Text.ofNat number)
    rw [split, List.cons_append] at same
    rw [← (List.cons.inj same).1] at digit
    cases digit
  have fraction : fraction? rest = some ([], rest) := by
    cases rest with
    | nil => rfl
    | cons letter rest =>
        rw [fraction?]
        exact fun _ same => (stops letter rfl).2.1 (List.cons.inj same).1
  have exponent : exponent? rest = some ([], rest) := by
    cases rest with
    | nil => rfl
    | cons letter rest =>
        obtain ⟨_, _, noLower, noUpper⟩ := stops letter rfl
        exact if_neg (by simp [noLower, noUpper])
  unfold number?
  split
  · rename_i same
    split at same
    · rename_i more minus
      exact absurd minus.symm (unsigned more)
    · cases same
      simp [whole?_ofNat number stops, fraction, exponent]

end Numbers

/-! ## Values -/

/-- Values that their compact text tells in full: strings and names are texts, and numbers are
natural numbers in decimal. -/
inductive IsPlain : Json → Prop
  | null : IsPlain .null
  | bool (flag : Bool) : IsPlain (.bool flag)
  | number (number : Nat) : IsPlain (.ofNat number)
  | string (text : Text) : IsPlain (.ofText text)
  | array {items : List Json} : (∀ item ∈ items, IsPlain item) → IsPlain (.array items)
  | object {fields : List (Option Text × Json)} : (∀ field ∈ fields, field.1.isSome = true) →
      (∀ field ∈ fields, IsPlain field.2) → IsPlain (.object fields)

/-- The text of a value is read as the value, whatever stands behind it that carries no number on,
if enough steps are allowed. -/
def ReadsBack (json : Json) : Prop :=
  ∀ depth rest, 2 * json.compact.length ≤ depth → StopsNumber rest →
    value? depth (json.compact ++ rest) = some (json, rest)

section Values

variable {json : Json} {items : List Json} {fields : List (Option Text × Json)} {first : Char}
  {rest : Text} {depth : Nat}

theorem skipSpace_cons (visible : isSpace first = false) (more : Text) :
    skipSpace (first :: more) = first :: more :=
  List.dropWhile_cons_of_neg (by rw [visible]; exact Bool.false_ne_true)

theorem stopsNumber_cons (stops : first ∈ [',', ']', '\x7d']) (more : Text) :
    StopsNumber (first :: more) := by
  rintro letter ⟨⟩
  simp only [List.mem_cons, List.not_mem_nil, or_false] at stops
  rcases stops with rfl | rfl | rfl <;> decide

theorem not_isSpace_of_isDigit (digit : first.isDigit = true) : isSpace first = false := by
  have others : ∀ space ∈ [' ', '\n', '\t', '\r'], first ≠ space := by
    rintro space listed rfl
    simp only [List.mem_cons, List.not_mem_nil, or_false] at listed
    rcases listed with rfl | rfl | rfl | rfl <;> cases digit
  simpa [isSpace, and_assoc] using others

theorem exists_cons_ofNat (number : Nat) :
    ∃ first more, Text.ofNat number = first :: more ∧ first.isDigit = true := by
  obtain ⟨first, more, split⟩ :=
    List.exists_cons_of_ne_nil (show Text.ofNat number ≠ [] from Nat.toDigits_ne_nil)
  exact ⟨first, more, split, Text.isDigit_of_mem_ofNat (split ▸ List.mem_cons_self)⟩

/-- A value starts with a character that is no blank and closes no list. -/
theorem IsPlain.exists_cons (plain : json.IsPlain) :
    ∃ first more, json.compact = first :: more ∧ isSpace first = false ∧ first ≠ ']' := by
  cases plain with
  | null => exact ⟨'n', _, rfl, by decide, by decide⟩
  | bool flag => cases flag <;> exact ⟨_, _, rfl, by decide, by decide⟩
  | number number =>
      obtain ⟨first, more, split, digit⟩ := exists_cons_ofNat number
      refine ⟨first, more, split, not_isSpace_of_isDigit digit, ?_⟩
      rintro rfl
      cases digit
  | string text => exact ⟨'"', _, rfl, by decide, by decide⟩
  | array => exact ⟨'[', _, rfl, by decide, by decide⟩
  | object => exact ⟨'\x7b', _, rfl, by decide, by decide⟩

/-- The items of an array start with no blank and no closing bracket. -/
theorem exists_cons_items {item : Json} (plain : item.IsPlain) (items : List Json) :
    ∃ first more, [','].intercalate (compactItems (item :: items)) = first :: more ∧
      isSpace first = false ∧ first ≠ ']' := by
  obtain ⟨first, more, split, visible, noEnd⟩ := plain.exists_cons
  cases items with
  | nil =>
      refine ⟨first, more, ?_, visible, noEnd⟩
      rw [compactItems, compactItems, List.intercalate_singleton, split]
  | cons second items =>
      refine ⟨first, more ++ ([','] ++ [','].intercalate (compactItems (second :: items))), ?_,
        visible, noEnd⟩
      rw [compactItems, compactItems, List.intercalate_cons_cons, split, List.append_assoc]
      rfl

theorem exists_cons_fields (field : Option Text × Json) (fields : List (Option Text × Json)) :
    ∃ more, [','].intercalate (compactFields (field :: fields)) = '"' :: more := by
  obtain ⟨name?, value⟩ := field
  cases fields with
  | nil => exact ⟨_, by rw [compactFields, compactFields, List.intercalate_singleton]; rfl⟩
  | cons second fields =>
      exact ⟨_, by rw [compactFields, compactFields, List.intercalate_cons_cons]; rfl⟩

theorem value?_of_isDigit (digit : first.isDigit = true) (more : Text) :
    value? (depth + 1) (first :: more) =
      (number? (first :: more)).map fun (literal, rest) => (number literal, rest) := by
  rw [value?, skipSpace_cons (not_isSpace_of_isDigit digit)]
  split
  case h_7 => rfl
  all_goals
    rename_i same
    rw [(List.cons.inj same).1] at digit
    cases digit

theorem readsBack_word (written : json.compact ≠ [])
    (reads : ∀ depth rest, value? (depth + 1) (json.compact ++ rest) = some (json, rest)) :
    json.ReadsBack := by
  intro depth rest enough _
  have positive := List.length_pos_iff.mpr written
  obtain ⟨depth, rfl⟩ : ∃ less, depth = less + 1 := ⟨depth - 1, by omega⟩
  exact reads depth rest

theorem readsBack_number (number : Nat) : ReadsBack (.ofNat number) := by
  intro depth rest enough stops
  obtain ⟨first, more, split, digit⟩ := exists_cons_ofNat number
  have written : (Json.ofNat number).compact = first :: more := split
  have read := number?_ofNat number stops
  rw [split, List.cons_append] at read
  rw [written] at enough
  cases depth with
  | zero => cases enough
  | succ depth =>
      rw [written, List.cons_append, value?_of_isDigit digit, read, ofNat, split]
      rfl

theorem readsBack_string (text : Text) : ReadsBack (.ofText text) := by
  intro depth rest enough _
  cases depth with
  | zero => cases enough
  | succ depth =>
      have written : (Json.ofText text).compact ++ rest =
          '"' :: (text.flatMap escape ++ '"' :: rest) := by
        simp [ofText, compact, quoted]
      have value : value? (depth + 1) ('"' :: (text.flatMap escape ++ '"' :: rest)) =
          (string? (text.flatMap escape ++ '"' :: rest)).map
            fun found => (string found.1, found.2) := rfl
      rw [written, value, string?_written]
      rfl

/-- The items of a list are read one by one up to its closing bracket. -/
theorem items?_written (reads : ∀ item ∈ items, item.ReadsBack) (nonempty : items ≠ [])
    (enough : 2 * ([','].intercalate (compactItems items)).length < depth) (rest : Text) :
    items? depth ([','].intercalate (compactItems items) ++ ']' :: rest) = some (items, rest) := by
  induction items generalizing depth with
  | nil => exact absurd rfl nonempty
  | cons item items inductionHypothesis =>
      obtain ⟨depth, rfl⟩ : ∃ less, depth = less + 1 := ⟨depth - 1, by omega⟩
      have read := reads item List.mem_cons_self
      cases items with
      | nil =>
          rw [compactItems, compactItems, List.intercalate_singleton] at enough ⊢
          rw [items?, read depth (']' :: rest) (by omega) (stopsNumber_cons (by decide) rest)]
          rfl
      | cons second items =>
          have split : [','].intercalate (compactItems (item :: second :: items)) =
              item.compact ++ ',' :: [','].intercalate (compactItems (second :: items)) := by
            rw [compactItems, compactItems, List.intercalate_cons_cons, List.append_assoc]
            rfl
          rw [split, List.length_append, List.length_cons] at enough
          have further := inductionHypothesis
            (fun item member => reads item (List.mem_cons_of_mem _ member)) (List.cons_ne_nil _ _)
            (by omega : _ < depth)
          rw [split, List.append_assoc, List.cons_append, items?,
            read depth _ (by omega) (stopsNumber_cons (by decide) _)]
          simp only [skipSpace_cons (by decide : isSpace ',' = false), further, Option.map_some]

theorem fields?_name (name : Text) (read : json.ReadsBack)
    (enough : 2 * json.compact.length ≤ depth)
    (stops : first ∈ [',', ']', '\x7d']) (rest : Text) :
    fields? (depth + 1) (quoted name ++ [':'] ++ json.compact ++ first :: rest) =
      match first with
      | '\x7d' => some ([(some name, json)], rest)
      | ',' => (fields? depth rest).map fun (fields, rest) => ((some name, json) :: fields, rest)
      | _ => none := by
  have split : quoted name ++ [':'] ++ json.compact ++ first :: rest =
      '"' :: (name.flatMap escape ++ '"' :: ':' :: (json.compact ++ first :: rest)) := by
    simp [quoted]
  have followed := stopsNumber_cons stops rest
  rw [split, fields?, skipSpace_cons (by decide : isSpace '"' = false)]
  simp only [string?_written, skipSpace_cons (by decide : isSpace ':' = false),
    read depth _ enough followed]
  simp only [List.mem_cons, List.not_mem_nil, or_false] at stops
  rcases stops with rfl | rfl | rfl <;> rfl

/-- The fields of an object are read one by one up to its closing brace. -/
theorem fields?_written (named : ∀ field ∈ fields, field.1.isSome = true)
    (reads : ∀ field ∈ fields, field.2.ReadsBack) (nonempty : fields ≠ [])
    (enough : 2 * ([','].intercalate (compactFields fields)).length < depth) (rest : Text) :
    fields? depth ([','].intercalate (compactFields fields) ++ '\x7d' :: rest) =
      some (fields, rest) := by
  induction fields generalizing depth with
  | nil => exact absurd rfl nonempty
  | cons field fields inductionHypothesis =>
      obtain ⟨depth, rfl⟩ : ∃ less, depth = less + 1 := ⟨depth - 1, by omega⟩
      obtain ⟨name?, value⟩ := field
      obtain ⟨name, rfl⟩ := Option.isSome_iff_exists.mp (named _ List.mem_cons_self)
      have read : value.ReadsBack := reads _ List.mem_cons_self
      cases fields with
      | nil =>
          rw [compactFields, compactFields, List.intercalate_singleton, Option.getD_some]
            at enough ⊢
          rw [List.length_append] at enough
          exact fields?_name name read (by omega) (by decide) rest
      | cons second fields =>
          have split : [','].intercalate (compactFields ((some name, value) :: second :: fields)) =
              quoted name ++ [':'] ++ value.compact ++
                ',' :: [','].intercalate (compactFields (second :: fields)) := by
            rw [compactFields, compactFields, List.intercalate_cons_cons, List.append_assoc,
              Option.getD_some]
            rfl
          rw [split, List.length_append, List.length_append, List.length_cons] at enough
          have further := inductionHypothesis
            (fun field member => named field (List.mem_cons_of_mem _ member))
            (fun field member => reads field (List.mem_cons_of_mem _ member))
            (List.cons_ne_nil _ _) (by omega : _ < depth)
          rw [split, List.append_assoc (_ ++ value.compact), List.cons_append,
            fields?_name name read (by omega) (by decide)]
          simp only [further, Option.map_some]

/-- A written array of items, or its brackets alone, is read as the array of them. -/
theorem readsBack_array (plain : ∀ item ∈ items, item.IsPlain)
    (reads : ∀ item ∈ items, item.ReadsBack) : ReadsBack (.array items) := by
  intro depth rest enough _
  have written : (array items).compact ++ rest =
      '[' :: ([','].intercalate (compactItems items) ++ ']' :: rest) := by
    simp [compact]
  have size : (array items).compact.length =
      ([','].intercalate (compactItems items)).length + 2 := by
    simp [compact]
  obtain ⟨depth, rfl⟩ : ∃ less, depth = less + 1 := ⟨depth - 1, by omega⟩
  rw [written, value?, skipSpace_cons (by decide : isSpace '[' = false)]
  cases items with
  | nil => rfl
  | cons item items =>
      have read := items?_written reads (List.cons_ne_nil item items) (by omega : _ < depth) rest
      obtain ⟨first, more, split, visible, noEnd⟩ :=
        exists_cons_items (plain item List.mem_cons_self) items
      rw [split, List.cons_append] at read ⊢
      simp only [skipSpace_cons visible]
      split
      · rename_i same
        exact absurd (List.cons.inj same).1 noEnd
      · exact congrArg (Option.map fun found => (array found.1, found.2)) read

/-- A written object of fields, or its braces alone, is read as the object of them. -/
theorem readsBack_object (named : ∀ field ∈ fields, field.1.isSome = true)
    (reads : ∀ field ∈ fields, field.2.ReadsBack) : ReadsBack (.object fields) := by
  intro depth rest enough _
  have written : (object fields).compact ++ rest =
      '\x7b' :: ([','].intercalate (compactFields fields) ++ '\x7d' :: rest) := by
    simp [compact]
  have size : (object fields).compact.length =
      ([','].intercalate (compactFields fields)).length + 2 := by
    simp [compact]
  obtain ⟨depth, rfl⟩ : ∃ less, depth = less + 1 := ⟨depth - 1, by omega⟩
  rw [written, value?, skipSpace_cons (by decide : isSpace '\x7b' = false)]
  cases fields with
  | nil => rfl
  | cons field fields =>
      have read := fields?_written named reads (List.cons_ne_nil field fields)
        (by omega : _ < depth) rest
      obtain ⟨more, split⟩ := exists_cons_fields field fields
      rw [split, List.cons_append] at read ⊢
      simp only [skipSpace_cons (by decide : isSpace '"' = false)]
      exact congrArg (Option.map fun (fields, rest) => (object fields, rest)) read

/-- The compact text of a plain value is read as the value. -/
theorem IsPlain.readsBack (plain : json.IsPlain) : json.ReadsBack := by
  induction plain with
  | null => exact readsBack_word (by decide) fun _ _ => rfl
  | bool flag => cases flag <;> exact readsBack_word (by decide) fun _ _ => rfl
  | number number => exact readsBack_number number
  | string text => exact readsBack_string text
  | array plain reads => exact readsBack_array plain reads
  | object named _ reads => exact readsBack_object named reads

theorem IsPlain.ofText?_compact (plain : json.IsPlain) : ofText? json.compact = some json := by
  have stops : StopsNumber [] := fun _ absent => by cases absent
  have read := plain.readsBack (2 * json.compact.length + 2) [] (by omega) stops
  rw [List.append_nil] at read
  rw [ofText?, read]
  rfl

end Values

end Json

end InputDemand
