import InputDemand.Pane.Answer
import InputDemand.Proofs.Screen.Rows

/-!
# The cursor of the answer pane

The cursor is to stand behind the last sign that is drawn of the question and the answer.  It is
placed by counting characters, in 16 bits, so it stands there as long as every character takes one
column and they are not too many.  Here it is told exactly when it does.
-/

namespace InputDemand

/-- The columns of an area, and the row below its first, are within the numbers of a terminal. -/
structure Area.OnScreen (area : Area) : Prop where
  columns : area.left.toNat + area.size.width ≤ 65535
  row : area.top.toNat < 65535

namespace AnswerPane

variable {area : Area} {question : Question} {typed : Text}

/-! ## The line of the pane -/

/-- The line of the pane is drawn in the row below the upper border, if there is one. -/
theorem getElem?_picture (question : Question) (typed : Text) {size : Size}
    (tall : 3 ≤ size.height) :
    (picture (some question) typed size)[1]? =
      some (Picture.between '│' '│' (.ink (border (some question))) size.width
        ((line question typed).toRow .plain (size.width - 2))) := by
  have inside : 0 < size.inner.height := Nat.sub_pos_of_lt tall
  exact Picture.getElem?_framed (by omega) (Picture.getElem?_ofLines inside rfl)

/-- The place behind the last sign that is drawn of the line, or the last column inside the border
if the line reaches that far. -/
def behindDrawn (area : Area) (question : Question) (typed : Text) : Nat × Nat :=
  let drawn := Row.columns ((line question typed).shown (area.size.width - 2))
  (area.left.toNat + 1 + min drawn (area.size.width - 3), area.top.toNat + 1)

/-- The number of characters in front of the cursor. -/
def letterCount (question : Question) (typed : Text) : Nat :=
  (label question).length + 1 + typed.length

/-- The number of wide characters in front of the cursor. -/
def wideCount (question : Question) (typed : Text) : Nat :=
  (label question).wideCount + typed.wideCount

theorem glyphs_line (question : Question) (typed : Text) :
    (line question typed).glyphs =
      Fragment.glyphs ⟨label question, (Style.ink Palette.primary).inBold⟩ ++
        (Fragment.glyphs ⟨[' '], .plain⟩ ++ Fragment.glyphs ⟨typed, .ink Palette.text⟩) := by
  simp [Line.glyphs, line]

theorem columns_le_two_of_separate (separateLabel : (label question).Separate)
    (separateTyped : typed.Separate) :
    ∀ glyph ∈ (line question typed).glyphs, glyph.columns ≤ 2 := by
  have gap : Text.Separate [' '] := by decide
  rw [glyphs_line]
  intro glyph member
  rcases List.mem_append.mp member with member | member
  · exact Fragment.columns_le_two_of_separate separateLabel glyph member
  · rcases List.mem_append.mp member with member | member
    · exact Fragment.columns_le_two_of_separate gap glyph member
    · exact Fragment.columns_le_two_of_separate separateTyped glyph member

theorem columns_line_of_separate (separateLabel : (label question).Separate)
    (separateTyped : typed.Separate) :
    Row.columns (line question typed).glyphs =
      letterCount question typed + wideCount question typed := by
  have gap : Text.Separate [' '] := by decide
  have single : ([' '] : Text).length + Text.wideCount [' '] = 1 := by decide
  rw [glyphs_line, Row.columns_append, Row.columns_append,
    Fragment.columns_glyphs_of_separate separateLabel, Fragment.columns_glyphs_of_separate gap,
    Fragment.columns_glyphs_of_separate separateTyped, letterCount, wideCount]
  omega

/-! ## The place of the cursor -/

theorem toNat_typedTo (question : Question) (typed : Text) :
    (typedTo question typed).toNat = letterCount question typed % 65536 :=
  UInt16.toNat_ofNat'

theorem sumFits_iff :
    sumFits area question typed = true ↔
      area.left.toNat + 1 + letterCount question typed % 65536 < 65536 := by
  rw [sumFits, toNat_typedTo, decide_eq_true_iff]

/-- The column is a sum that begins again at zero, or that of the border. -/
theorem place_column (area : Area) (question : Question) (typed : Text) :
    (place area question typed).1 =
      min ((area.left.toNat + 1 + letterCount question typed % 65536) % 65536)
        (area.right - 2) := by
  have one : (1 : UInt16).toNat = 1 := rfl
  rw [place, UInt16.toNat_add, UInt16.toNat_add, toNat_typedTo, one, Nat.mod_add_mod]

theorem place_row (onScreen : area.OnScreen) :
    (place area question typed).2 = area.top.toNat + 1 := by
  have row := onScreen.row
  have sum : (area.top + 1).toNat = (area.top.toNat + 1) % 65536 := UInt16.toNat_add _ _
  exact sum.trans (Nat.mod_eq_of_lt (by omega))

/-- As long as the sum fits, the cursor goes one column on with every character, up to the
border. -/
theorem place_column_of_sumFits (onScreen : area.OnScreen) (roomy : 3 ≤ area.size.width)
    (fits : sumFits area question typed = true) :
    (place area question typed).1 =
      area.left.toNat + 1 + min (letterCount question typed % 65536) (area.size.width - 3) := by
  have columns := onScreen.columns
  have fits := sumFits_iff.mp fits
  have right : area.right = area.left.toNat + area.size.width := Nat.min_eq_right columns
  rw [place_column, right]
  omega

/-- A sum that does not fit begins again at zero and comes no further than the border. -/
theorem place_column_of_not_sumFits (overflow : ¬ sumFits area question typed = true) :
    (place area question typed).1 ≤ area.left.toNat := by
  have overflow := mt sumFits_iff.mpr overflow
  have left := area.left.toNat_lt
  rw [place_column]
  omega

theorem between_borders_iff (onScreen : area.OnScreen) (roomy : 3 ≤ area.size.width) :
    (area.left.toNat < (place area question typed).1 ∧
      (place area question typed).1 + 1 < area.left.toNat + area.size.width) ↔
        sumFits area question typed = true := by
  by_cases fits : sumFits area question typed = true
  · rw [place_column_of_sumFits onScreen roomy fits]
    simp only [fits, iff_true]
    omega
  · have outside := place_column_of_not_sumFits fits
    simp only [fits, Bool.false_eq_true, iff_false]
    omega

/-- Columns are counted as 16 bits of the number of characters.  That is right if both reach the
border, or if they are the same. -/
theorem place_eq_iff_of_narrow (onScreen : area.OnScreen) (roomy : 3 ≤ area.size.width)
    (narrow : ∀ glyph ∈ (line question typed).glyphs, glyph.columns ≤ 2) :
    place area question typed = behindDrawn area question typed ↔
      sumFits area question typed = true ∧
        min (letterCount question typed % 65536) (area.size.width - 3) =
          min (Row.columns (line question typed).glyphs) (area.size.width - 3) := by
  have drawn := Line.min_columns_shown narrow (area.size.width - 2)
  have room : area.size.width - 2 - 1 = area.size.width - 3 := by omega
  rw [room] at drawn
  rw [Prod.ext_iff, place_row onScreen, behindDrawn, drawn]
  simp only [and_true]
  by_cases fits : sumFits area question typed = true
  · rw [place_column_of_sumFits onScreen roomy fits]
    simp only [fits, true_and]
    omega
  · have outside := place_column_of_not_sumFits fits
    simp only [fits, Bool.false_eq_true, false_and, iff_false]
    omega

/-- Wide characters are counted for too little, and beyond 16 bits all are.  Neither matters where
the count reaches the border. -/
theorem place_eq_iff_of_separate (onScreen : area.OnScreen) (roomy : 3 ≤ area.size.width)
    (separateLabel : (label question).Separate) (separateTyped : typed.Separate) :
    place area question typed = behindDrawn area question typed ↔
      sumFits area question typed = true ∧
        (letterCount question typed < 65536 ∧ wideCount question typed = 0 ∨
          area.size.width - 3 ≤ letterCount question typed % 65536) := by
  have narrow := columns_le_two_of_separate separateLabel separateTyped
  rw [place_eq_iff_of_narrow onScreen roomy narrow,
    columns_line_of_separate separateLabel separateTyped]
  apply and_congr_right
  intro fits
  omega

/-- In printable ASCII, and as long as the sum fits, the cursor stands where what is drawn ends. -/
theorem place_of_printable (onScreen : area.OnScreen) (roomy : 3 ≤ area.size.width)
    (asked : question.text.Printable) (answer : typed.Printable)
    (short : area.left.toNat + 1 + letterCount question typed < 65536) :
    place area question typed = behindDrawn area question typed := by
  have dot : Text.Printable ". ".toList := by decide
  have asked : (label question).Printable :=
    Text.printable_append.mpr ⟨Text.printable_append.mpr ⟨Text.printable_ofNat _, dot⟩, asked⟩
  have single : wideCount question typed = 0 := by
    rw [wideCount, Text.wideCount_of_printable asked, Text.wideCount_of_printable answer]
  have few : letterCount question typed < 65536 := by omega
  apply (place_eq_iff_of_separate onScreen roomy (Text.separate_of_printable asked)
    (Text.separate_of_printable answer)).mpr
  refine ⟨sumFits_iff.mpr ?_, .inl ⟨few, single⟩⟩
  rwa [Nat.mod_eq_of_lt few]

/-- The cursor stands in the row of the line, and between the borders if and only if the sum for its
column fits.  If no sign is wider than two columns, it stands where what is drawn ends if and only
if, besides, the characters counted in 16 bits come as far as the columns, or both to the border.
Where every character is a sign of its own, that is to say that none is wide and there are fewer
than 65536, or that what 16 bits keep of their number reaches the border. -/
theorem place_eq_behindDrawn_iff (onScreen : area.OnScreen) (roomy : 3 ≤ area.size.width) :
    (place area question typed).2 = area.top.toNat + 1 ∧
    (area.left.toNat < (place area question typed).1 ∧
      (place area question typed).1 + 1 < area.left.toNat + area.size.width ↔
        sumFits area question typed = true) ∧
    ((∀ glyph ∈ (line question typed).glyphs, glyph.columns ≤ 2) →
      (place area question typed = behindDrawn area question typed ↔
        sumFits area question typed = true ∧
          min (letterCount question typed % 65536) (area.size.width - 3) =
            min (Row.columns (line question typed).glyphs) (area.size.width - 3))) ∧
    ((label question).Separate → typed.Separate →
      (place area question typed = behindDrawn area question typed ↔
        sumFits area question typed = true ∧
          (letterCount question typed < 65536 ∧ wideCount question typed = 0 ∨
            area.size.width - 3 ≤ letterCount question typed % 65536))) :=
  ⟨place_row onScreen, between_borders_iff onScreen roomy,
    place_eq_iff_of_narrow onScreen roomy, place_eq_iff_of_separate onScreen roomy⟩

/-- A question of two wide characters. -/
def wideQuestion : Question :=
  ⟨1, "名前".toList, none, false, none⟩

theorem place_eq_behindDrawn_iff_wideQuestion :
    let area : Area := ⟨0, 0, ⟨40, 3⟩⟩
    let typed : Text := "abc".toList
    area.OnScreen ∧ 3 ≤ area.size.width ∧ (label wideQuestion).Separate ∧ typed.Separate ∧
      (place area wideQuestion typed = behindDrawn area wideQuestion typed ↔
        sumFits area wideQuestion typed = true ∧
          (letterCount wideQuestion typed < 65536 ∧ wideCount wideQuestion typed = 0 ∨
            area.size.width - 3 ≤ letterCount wideQuestion typed % 65536)) := by
  intro area typed
  have onScreen : area.OnScreen := ⟨by decide, by decide⟩
  have separateLabel : (label wideQuestion).Separate := by decide +kernel
  have separateTyped : typed.Separate := by decide +kernel
  exact ⟨onScreen, by decide, separateLabel, separateTyped,
    (place_eq_behindDrawn_iff onScreen (by decide)).2.2.2 separateLabel separateTyped⟩

/-- Two wide characters leave the cursor two columns behind. -/
theorem place_wideQuestion :
    place ⟨0, 0, ⟨40, 3⟩⟩ wideQuestion "abc".toList = (10, 1) ∧
      behindDrawn ⟨0, 0, ⟨40, 3⟩⟩ wideQuestion "abc".toList = (12, 1) := by
  decide +kernel

end AnswerPane

end InputDemand
