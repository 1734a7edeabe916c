import InputDemand.Proofs.Source.Lexemes
import Mathlib.Algebra.Ring.Parity
import Mathlib.Data.List.DropRight

/-!
# Where raw literals end

A literal between back quotes is raw: a backslash in it stands for itself, and the next back quote
ends it.  Masking takes a backslash for an escape in every literal.  A raw literal therefore ends
where it should just if an even number of backslashes stands in front of its closing back quote;
otherwise that back quote is hidden, and the literal runs on into the text behind it.
-/

namespace InputDemand

/-- The number of backslashes at the end of a text. -/
def Text.trailingBackslashes (text : Text) : Nat :=
  (text.rtakeWhile (· = '\\')).length

/-- Whether the character behind a text is escaped, if the text's first character is or is not. -/
def Text.leavesEscape : Bool → Text → Bool
  | escaped, [] => escaped
  | true, _ :: text => leavesEscape false text
  | false, letter :: text => leavesEscape (letter = '\\') text

namespace Text

theorem leavesEscape_concat (escaped : Bool) (text : Text) (letter : Char) :
    leavesEscape escaped (text ++ [letter]) =
      (!leavesEscape escaped text && letter = '\\') := by
  induction text generalizing escaped with
  | nil => cases escaped <;> simp [leavesEscape]
  | cons first text inductionHypothesis =>
      cases escaped with
      | true => exact inductionHypothesis false
      | false => exact inductionHypothesis (first = '\\')

theorem trailingBackslashes_concat (text : Text) (letter : Char) :
    trailingBackslashes (text ++ [letter]) =
      if letter = '\\' then trailingBackslashes text + 1 else 0 := by
  by_cases escape : letter = '\\'
  · rw [if_pos escape, trailingBackslashes,
      List.rtakeWhile_concat_pos _ _ _ (by simpa using escape), List.length_append]
    rfl
  · rw [if_neg escape, trailingBackslashes,
      List.rtakeWhile_concat_neg _ _ _ (by simpa using escape)]
    rfl

/-- Of the backslashes at the end of a text every second one is escaped itself. -/
theorem leavesEscape_iff (text : Text) :
    leavesEscape false text = true ↔ Odd (trailingBackslashes text) := by
  induction text using List.reverseRecOn with
  | nil => simp [leavesEscape, trailingBackslashes]
  | append_singleton text letter inductionHypothesis =>
      rw [leavesEscape_concat, trailingBackslashes_concat]
      by_cases escape : letter = '\\'
      · rw [if_pos escape, Nat.odd_add_one, ← inductionHypothesis]
        simp [escape]
      · simp [escape]

end Text

namespace Lexicon

variable {lexicon : Lexicon} {quote : Char} {contents rest : Text}

/-- The mode inside of a literal, behind a backslash that escapes or behind anything else. -/
def literalMode (quote : Char) (escaped : Bool) : MaskMode :=
  if escaped then .escaped quote false else .literal quote false

/-- Contents without the quote of a literal that may span lines are hidden, and what they leave
escaped stays so. -/
theorem maskFrom_raw (spans : quote ∈ lexicon.spanningQuotes) (raw : quote ∉ contents)
    (escaped : Bool) (rest : Text) :
    lexicon.maskFrom (literalMode quote escaped) (contents ++ rest) =
      blanked contents ++
        lexicon.maskFrom (literalMode quote (Text.leavesEscape escaped contents)) rest := by
  induction contents generalizing escaped with
  | nil => rfl
  | cons letter contents inductionHypothesis =>
      rw [List.mem_cons, not_or] at raw
      rw [List.cons_append, blanked_cons, List.append_assoc]
      cases escaped with
      | true =>
          have step : lexicon.step letter (contents ++ rest) (literalMode quote true) =
              (literalMode quote false, false) := rfl
          rw [maskFrom_hides step, inductionHypothesis raw.2, Text.leavesEscape]
      | false =>
          have step : lexicon.step letter (contents ++ rest) (literalMode quote false) =
              (literalMode quote (letter = '\\'), false) := by
            by_cases escape : letter = '\\'
            · simp [literalMode, Lexicon.step, escape]
            · simp [literalMode, Lexicon.step, escape, spans, Ne.symm raw.1]
          rw [maskFrom_hides step, inductionHypothesis raw.2, Text.leavesEscape]

end Lexicon

namespace Language

variable {contents : Text}

theorem mask_backQuote (raw : '\x60' ∉ contents) (rest : Text) :
    go.mask ('\x60' :: (contents ++ '\x60' :: rest)) =
      '\x60' :: (blanked contents ++ go.lexicon.maskFrom
        (Lexicon.literalMode '\x60' (Text.leavesEscape false contents)) ('\x60' :: rest)) := by
  have opens : go.lexicon.step '\x60' (contents ++ '\x60' :: rest) .code =
      (Lexicon.literalMode '\x60' false, true) := by
    refine @Lexicon.codeStep_of_quote _ _ false _ ?_ ?_ (by decide)
      (iff_of_false Bool.false_ne_true fun triple => Bool.noConfusion triple.1)
    · rintro ⟨mark, isMark, starts⟩
      rw [List.mem_singleton.mp isMark] at starts
      exact absurd (List.cons_prefix_cons.mp starts).1 (by decide)
    · rintro ⟨_, starts⟩
      exact absurd (List.cons_prefix_cons.mp starts).1 (by decide)
  have inside := @Lexicon.maskFrom_raw go.lexicon _ _ (by decide) raw false ('\x60' :: rest)
  exact (Lexicon.maskFrom_stays opens).trans (congrArg ('\x60' :: ·) inside)

/-- A raw literal is masked up to its next back quote just if its contents do not end with an odd
number of backslashes; then it is masked as if that back quote were part of the contents. -/
theorem mask_rawLiteral (raw : '\x60' ∉ contents) (rest : Text) :
    (go.mask ('\x60' :: (contents ++ '\x60' :: rest)) =
        '\x60' :: (blanked contents ++ '\x60' :: go.mask rest) ↔
      Even (Text.trailingBackslashes contents)) ∧
    (Odd (Text.trailingBackslashes contents) →
      go.mask ('\x60' :: (contents ++ '\x60' :: rest)) =
        '\x60' :: (blanked (contents ++ ['\x60']) ++
          go.lexicon.maskFrom (.literal '\x60' false) rest)) := by
  rw [mask_backQuote raw, ← Text.leavesEscape_iff, ← Nat.not_odd_iff_even, ← Text.leavesEscape_iff]
  cases Text.leavesEscape false contents with
  | false =>
      have closes : go.lexicon.maskFrom (Lexicon.literalMode '\x60' false) ('\x60' :: rest) =
          '\x60' :: go.mask rest := @Lexicon.maskFrom_closing _ _ false rfl rest
      rw [closes]
      exact ⟨iff_of_true rfl Bool.false_ne_true, nofun⟩
  | true =>
      have hides : go.lexicon.maskFrom (Lexicon.literalMode '\x60' true) ('\x60' :: rest) =
          ' ' :: go.lexicon.maskFrom (.literal '\x60' false) rest := Lexicon.maskFrom_hides rfl
      rw [hides]
      constructor
      · refine iff_of_false (fun same => ?_) (not_not_intro rfl)
        -- One of the two has a blank where the other has the back quote.
        have behind := List.append_cancel_left (List.cons.inj same).2
        exact absurd (List.cons.inj behind).1 (by decide)
      · intro _
        rw [blanked_append, List.append_assoc]
        rfl

/-- A raw pattern over two lines that ends with two backslashes hides no more than itself. -/
theorem mask_rawLiteral_pattern :
    '\x60' ∉ "\\d+é\n\\\\".toList ∧
      go.mask "\x60\\d+é\n\\\\\x60; fmt.Scan(&n)".toList =
        "\x60     \n  \x60; fmt.Scan(&n)".toList := by
  have raw : '\x60' ∉ "\\d+é\n\\\\".toList := by decide
  have masked := (mask_rawLiteral raw "; fmt.Scan(&n)".toList).1.mpr (by decide)
  refine ⟨raw, Eq.trans masked ?_⟩
  decide

/-- Behind a raw path that ends with a backslash a call is hidden that should show. -/
theorem mask_rawLiteral_path :
    '\x60' ∉ "C:\\".toList ∧
      go.mask "\x60C:\\\x60; fmt.Scan(&n)".toList = "\x60                  ".toList ∧
      '\x60' :: (blanked "C:\\".toList ++ '\x60' :: go.mask "; fmt.Scan(&n)".toList) =
        "\x60   \x60; fmt.Scan(&n)".toList := by
  decide

end Language

end InputDemand
