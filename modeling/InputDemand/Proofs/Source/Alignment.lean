import InputDemand.Proofs.Source.Arguments
import InputDemand.Proofs.Source.Lexemes
import InputDemand.Proofs.Text.Bytes
import Mathlib.Data.List.Forall2

/-!
# Masked source lies over its source

Masked source has the bytes of its source, or blanks in their place, and it has all its line feeds.
So a position found in the masked source is a position of the source, with the same character behind
it if one shows there.
-/

namespace InputDemand

/-- A text lies over another: for each character itself, or what stands for it when hidden. -/
inductive LiesOver : Text → Text → Prop
  | nil : LiesOver [] []
  | stays {letter : Char} {source masked : Text} : LiesOver source masked →
      LiesOver (letter :: source) (letter :: masked)
  | hides {letter : Char} {source masked : Text} : LiesOver source masked →
      LiesOver (letter :: source) (hidden letter ++ masked)

theorem Lexicon.liesOver_maskFrom (lexicon : Lexicon) (mode : MaskMode) (source : Text) :
    LiesOver source (lexicon.maskFrom mode source) := by
  induction source generalizing mode with
  | nil => exact .nil
  | cons letter source inductionHypothesis =>
      rw [maskFrom_cons, shown]
      by_cases stays : (lexicon.step letter source mode).2 = true
      · rw [if_pos stays]
        exact .stays (inductionHypothesis _)
      · rw [if_neg stays]
        exact .hides (inductionHypothesis _)

namespace LiesOver

variable {source masked front back : Text}

/-- Where the source can be cut, the text over it can be cut as well. -/
theorem exists_append (lies : LiesOver (front ++ back) masked) :
    ∃ ahead behind, masked = ahead ++ behind ∧ Text.size ahead = Text.size front ∧
      LiesOver back behind := by
  induction front generalizing masked with
  | nil => exact ⟨[], masked, rfl, rfl, lies⟩
  | cons letter front inductionHypothesis =>
      cases lies with
      | stays lies =>
          obtain ⟨ahead, behind, rfl, size, lies⟩ := inductionHypothesis lies
          exact ⟨letter :: ahead, behind, rfl, by rw [Text.size_cons, size, Text.size_cons], lies⟩
      | hides lies =>
          obtain ⟨ahead, behind, rfl, size, lies⟩ := inductionHypothesis lies
          refine ⟨hidden letter ++ ahead, behind, (List.append_assoc _ _ _).symm, ?_, lies⟩
          rw [Text.size_append, size_hidden, size, Text.size_cons]

theorem holds_nil (lies : LiesOver source masked) {offset : Nat} (place : source.Holds offset []) :
    masked.Holds offset [] := by
  obtain ⟨front, back, rfl, rfl⟩ := place
  obtain ⟨ahead, behind, rfl, size, _⟩ := lies.exists_append
  exact ⟨ahead, behind, rfl, size⟩

theorem holds_feed (lies : LiesOver source masked) {offset : Nat}
    (feed : source.Holds offset ['\n']) : masked.Holds offset ['\n'] := by
  obtain ⟨front, back, rfl, rfl⟩ := feed
  obtain ⟨ahead, behind, rfl, size, lies⟩ := lies.exists_append
  -- A line feed stands for itself, hidden or not.
  obtain ⟨rest, rfl⟩ : ∃ rest, behind = '\n' :: rest := by
    cases lies with
    | stays => exact ⟨_, rfl⟩
    | hides => exact ⟨_, rfl⟩
  exact ⟨ahead, rest, rfl, size⟩

theorem bytes (lies : LiesOver source masked) :
    List.Forall₂ (fun byte shown => shown = byte ∨ shown = 32) source.bytes masked.bytes := by
  have unchanged (bytes : List UInt8) :
      List.Forall₂ (fun byte shown => shown = byte ∨ shown = 32) bytes bytes :=
    List.forall₂_same.mpr fun _ _ => Or.inl rfl
  induction lies with
  | nil => exact .nil
  | @stays letter source masked _ inductionHypothesis =>
      rw [Text.bytes_cons, Text.bytes_cons]
      exact List.rel_append (unchanged _) inductionHypothesis
  | @hides letter source masked _ inductionHypothesis =>
      rw [Text.bytes_cons, Text.bytes_append]
      refine List.rel_append ?_ inductionHypothesis
      by_cases feed : letter = '\n'
      · subst feed
        exact unchanged _
      · rw [hidden, if_neg feed, Text.bytes_replicate_blank, ← String.length_utf8EncodeChar]
        apply List.forall₂_of_length_eq_of_get
        · exact List.length_replicate.symm
        · intro index _ _
          right
          simp

end LiesOver

/-- What a masked text has in common with its source. -/
structure Lexicon.Aligned (lexicon : Lexicon) (source masked : Text) : Prop where
  size : Text.size masked = Text.size source
  bytes : List.Forall₂ (fun byte shown => shown = byte ∨ shown = 32) source.bytes masked.bytes
  feeds : ∀ offset, masked.Holds offset ['\n'] ↔ source.Holds offset ['\n']
  places : ∀ offset, source.Holds offset [] → masked.Holds offset []
  letters : ∀ offset letter, letter ≠ ' ' → masked.Holds offset [letter] →
    source.Holds offset [letter]
  divides : ∃ lexemes, lexicon.Divides source lexemes
  shown : ∀ lexemes, lexicon.Divides source lexemes → masked = lexemes.flatMap Lexeme.shown

theorem Lexicon.holds_of_mask {lexicon : Lexicon} {source : Text} {offset : Nat} {letter : Char}
    (visible : letter ≠ ' ') (shows : (lexicon.mask source).Holds offset [letter]) :
    source.Holds offset [letter] := by
  obtain ⟨front, back, masked, rfl⟩ := shows
  obtain ⟨ahead, behind, rfl, same, _⟩ := exists_front_of_maskFrom visible masked
  refine ⟨ahead, behind, rfl, ?_⟩
  rw [← same, size_maskFront]

/-- Masking keeps every position: the masked source has the bytes, the line feeds and the places of
its source, and shows no character that is not there.  Lexeme by lexeme, program text and the quotes
of literals show, and of the rest nothing but line feeds. -/
theorem Language.aligned_mask (language : Language) (source : Text) :
    language.lexicon.Aligned source (language.mask source) := by
  have regular := language.regular_lexicon
  have lies := language.lexicon.liesOver_maskFrom .code source
  constructor
  case size => exact language.lexicon.size_mask source
  case bytes => exact lies.bytes
  case feeds => exact fun offset => ⟨Lexicon.holds_of_mask (by decide), lies.holds_feed⟩
  case places => exact fun offset => lies.holds_nil
  case letters => exact fun offset letter => Lexicon.holds_of_mask
  case divides => exact Lexicon.exists_divides regular source
  case shown => exact fun lexemes => Lexicon.mask_of_divides regular

end InputDemand
