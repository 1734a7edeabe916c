import InputDemand.Proofs.Text.Numerals
import InputDemand.Screen.Picture

/-!
# What is drawn of a line

Where a line stands in a framed picture, and how many columns are drawn of it: as many as its signs
take, up to the last column, if none takes more than two.  In a text whose characters are signs of
their own these are one column for each character and another for each wide one.  Printable ASCII is
such a text without wide characters.
-/

namespace InputDemand

/-! ## Rows of a picture -/

namespace Picture

variable {size : Size} {base style : Style} {index : Nat}

theorem getElem?_cover {rows : List Row} {row : Row} (inside : index < size.height)
    (found : rows[index]? = some row) : (cover rows base size)[index]? = some row := by
  have taken : (rows.take size.height)[index]? = some row := by
    rw [List.getElem?_take_of_lt inside, found]
  have short := (List.getElem?_eq_some_iff.mp taken).1
  rw [cover, List.getElem?_append_left short, taken]

theorem getElem?_ofLines {lines : List Line} {line : Line} (inside : index < size.height)
    (found : lines[index]? = some line) :
    (ofLines lines base size)[index]? = some (line.toRow base size.width) := by
  apply getElem?_cover inside
  rw [List.getElem?_map, found]
  rfl

/-- Below the upper border comes what is drawn inside, each row between two borders. -/
theorem getElem?_framed {title : Text} {draw : Size → Picture} {row : Row}
    (tall : 2 ≤ size.height) (found : (draw size.inner)[index]? = some row) :
    (framed title style size draw)[index + 1]? =
      some (between '│' '│' style size.width row) := by
  have bordered : ((draw size.inner).map fun row => between '│' '│' style size.width row)[index]? =
      some (between '│' '│' style size.width row) := by
    rw [List.getElem?_map, found]
    rfl
  have short := (List.getElem?_eq_some_iff.mp bordered).1
  unfold framed
  split
  case h_1 none => omega
  case h_2 one => omega
  case h_3 =>
    rw [List.cons_append, List.getElem?_cons_succ, List.getElem?_append_left short]
    exact bordered

end Picture

/-! ## Columns that are drawn -/

/-- Up to the last column, signs of two columns at most are drawn as they come. -/
theorem Row.min_columns_fitting {row : Row} (narrow : ∀ glyph ∈ row, glyph.columns ≤ 2)
    (width : Nat) :
    min (columns (fitting width row)) (width - 1) = min (columns row) (width - 1) := by
  induction row generalizing width with
  | nil => rfl
  | cons glyph row inductionHypothesis =>
      have here := narrow glyph List.mem_cons_self
      have behind := inductionHypothesis
        (fun other member => narrow other (List.mem_cons_of_mem glyph member))
        (width - glyph.columns)
      rw [fitting]
      split
      · rw [columns_cons, columns_cons]
        omega
      · rw [columns_cons, columns_nil]
        omega

namespace Line

/-- The signs of a line, whatever room there is for them. -/
def glyphs (line : Line) : Row :=
  line.flatMap Fragment.glyphs

theorem min_columns_shown {line : Line} (narrow : ∀ glyph ∈ line.glyphs, glyph.columns ≤ 2)
    (width : Nat) :
    min (Row.columns (line.shown width)) (width - 1) =
      min (Row.columns line.glyphs) (width - 1) := by
  rw [shown, Row.columns_filter_pos]
  by_cases single : width ≤ 1
  · omega
  · have whole : (line.flatMap Fragment.glyphs).filter (fun glyph => glyph.columns ≤ width) =
        line.glyphs := by
      apply List.filter_eq_self.mpr
      intro glyph member
      exact decide_eq_true (Nat.le_trans (narrow glyph member) (by omega))
    rw [whole]
    exact Row.min_columns_fitting narrow width

end Line

/-! ## Characters that are signs of their own -/

namespace Text

/-- Every character is a sign of its own, of one column or of two. -/
def Separate (text : Text) : Prop :=
  clusters text = text.map ([·]) ∧ ∀ letter ∈ text, columns [letter] = 1 ∨ columns [letter] = 2

instance (text : Text) : Decidable text.Separate :=
  have := List.decidableBAll (fun letter => columns [letter] = 1 ∨ columns [letter] = 2) text
  inferInstanceAs (Decidable (_ ∧ _))

/-- The number of characters that take two columns. -/
def wideCount (text : Text) : Nat :=
  text.countP fun letter => columns [letter] = 2

theorem wideCount_cons (letter : Char) (text : Text) :
    wideCount (letter :: text) = wideCount text + if columns [letter] = 2 then 1 else 0 := by
  by_cases wide : columns [letter] = 2 <;> simp [wideCount, wide]

end Text

namespace Fragment

variable {text : Text} {style : Style}

theorem glyphs_of_separate (separate : text.Separate) :
    glyphs ⟨text, style⟩ = text.map fun letter => ⟨[letter], Text.columns [letter], style⟩ := by
  have drawn : (Text.clusters text).filter (· ≠ ['\n']) = text.map ([·]) := by
    rw [separate.1]
    apply List.filter_eq_self.mpr
    intro cluster member
    obtain ⟨letter, inText, rfl⟩ := List.mem_map.mp member
    have noFeed : letter ≠ '\n' := by
      rintro rfl
      exact absurd (separate.2 '\n' inText) (by decide)
    simpa using noFeed
  rw [glyphs, drawn, List.map_map]
  rfl

theorem columns_le_two_of_separate (separate : text.Separate) :
    ∀ glyph ∈ glyphs ⟨text, style⟩, glyph.columns ≤ 2 := by
  rw [glyphs_of_separate separate, List.forall_mem_map]
  intro letter member
  rcases separate.2 letter member with one | two
  · exact one.symm ▸ Nat.le_succ 1
  · exact Nat.le_of_eq two

/-- Each character takes a column, and each wide one takes another. -/
theorem columns_glyphs_of_separate (separate : text.Separate) :
    Row.columns (glyphs ⟨text, style⟩) = text.length + text.wideCount := by
  have widths := separate.2
  rw [glyphs_of_separate separate]
  clear separate
  induction text with
  | nil => rfl
  | cons letter text inductionHypothesis =>
      have behind := inductionHypothesis
        fun other member => widths other (List.mem_cons_of_mem letter member)
      rw [List.map_cons, Row.columns_cons, behind, Text.wideCount_cons, List.length_cons]
      change Text.columns [letter] + (text.length + Text.wideCount text) = _
      rcases widths letter List.mem_cons_self with one | two
      · rw [one, if_neg (by decide)]
        omega
      · rw [two, if_pos rfl]
        omega

end Fragment

/-! ## Printable ASCII -/

namespace Text

/-- The printable characters of ASCII. -/
def Printable (text : Text) : Prop :=
  ∀ letter ∈ text, 32 ≤ letter.toNat ∧ letter.toNat ≤ 126

instance (text : Text) : Decidable text.Printable :=
  List.decidableBAll (fun letter : Char => 32 ≤ letter.toNat ∧ letter.toNat ≤ 126) text

theorem printable_append {front back : Text} :
    Printable (front ++ back) ↔ Printable front ∧ Printable back :=
  List.forall_mem_append

theorem printable_ofNat (number : Nat) : Printable (ofNat number) := by
  intro letter member
  have digit := isDigit_of_mem_ofNat member
  rw [Char.isDigit, Bool.and_eq_true, decide_eq_true_iff, decide_eq_true_iff] at digit
  have low : 48 ≤ letter.toNat := digit.1
  have high : letter.toNat ≤ 57 := digit.2
  omega

variable {text : Text} {letter : Char}

theorem clusterRole_of_printable (low : 32 ≤ letter.toNat) (high : letter.toNat ≤ 126) :
    ClusterRole.of letter = .other := by
  have noReturn : letter ≠ '\r' := by
    rintro rfl
    exact absurd low (by decide)
  have noFeed : letter ≠ '\n' := by
    rintro rfl
    exact absurd low (by decide)
  have noControl : (letter.toNat < 32 || letter.toNat = 127) = false := by
    simp
    omega
  rw [ClusterRole.of, if_neg noReturn, if_neg noFeed, noControl, if_neg Bool.false_ne_true,
    if_pos (by omega)]

theorem columns_of_printable (low : 32 ≤ letter.toNat) (high : letter.toNat ≤ 126) :
    columns [letter] = 1 := by
  have noFeed : letter ≠ '\n' := by
    rintro rfl
    exact absurd low (by decide)
  have latin : letter.toNat ≤ 0xA0 := by omega
  have pushed : Ahead.nothing.push letter = (1, .nothing) := by
    simp [Ahead.push, Ahead.nothing, Ahead.pushLatin, latin, noFeed]
  rw [columns, measure, measure]
  simp [pushed]

/-- Behind anything but a sign that goes on, ordinary characters begin a cluster each. -/
theorem continued_of_other (before : ClusterContext) (begins : before.last ≠ .leading)
    (others : ∀ letter ∈ text, ClusterRole.of letter = .other) :
    continued before text = ([], text.map ([·])) := by
  induction text generalizing before with
  | nil => rfl
  | cons letter text inductionHypothesis =>
      have role : ClusterRole.of letter = .other := others letter List.mem_cons_self
      have ordinary : (before.next .other).last ≠ .leading := nofun
      have rest := inductionHypothesis (before.next .other) ordinary
        fun other member => others other (List.mem_cons_of_mem letter member)
      have apart : before.joins .other = false := by
        obtain ⟨last, consonants, pictographs, halfFlag⟩ := before
        cases last <;> first | rfl | exact absurd rfl begins
      simp only [continued, role, rest, apart, Bool.false_eq_true, if_false, List.map_cons]

theorem separate_of_printable (printable : Printable text) : Separate text := by
  constructor
  · have others : ∀ letter ∈ text, ClusterRole.of letter = .other := fun letter member =>
      clusterRole_of_printable (printable letter member).1 (printable letter member).2
    have start : ClusterContext.start.last ≠ .leading := by decide
    rw [clusters, continued_of_other _ start others]
  · exact fun letter member =>
      .inl (columns_of_printable (printable letter member).1 (printable letter member).2)

theorem wideCount_of_printable (printable : Printable text) : wideCount text = 0 := by
  apply List.countP_eq_zero.mpr
  intro letter member
  rw [columns_of_printable (printable letter member).1 (printable letter member).2]
  decide

end Text

end InputDemand
