import InputDemand.Proofs.App.Turns
import InputDemand.Proofs.Screen.Rows

/-!
# The line of the open question stays in the window

A source pane shows a window of the lines of a source.  Settling its view leaves no row empty that
a line could fill, brings the line of the open question into the window, and has nothing left to do
when it is done again.  This holds whatever the view was before: scrolling keys, an answer or a
change of the size between two pictures cannot lead out of it.
-/

namespace InputDemand

namespace SourceView

variable {total visible current : Nat} {current? : Option Nat} {view : SourceView}

theorem row_le (view : SourceView) (visible : Nat) : view.row visible ≤ visible - 1 :=
  Nat.min_le_right _ _

/-- The row that a settled view keeps is one that is shown, so it is kept again. -/
theorem row_settle (total visible : Nat) (current? : Option Nat) (view : SourceView) :
    (view.settle total visible current?).row visible = view.row visible :=
  Nat.min_eq_left (row_le view visible)

theorem offset_settle_le (total visible : Nat) (current? : Option Nat) (view : SourceView) :
    (view.settle total visible current?).offset ≤ total - visible :=
  Nat.min_le_right _ _

/-- A line of the source goes to its row, but not so far that a row would be left empty. -/
theorem offset_settle_of_line (asked : current? = some current) (first : 1 ≤ current)
    (last : current ≤ total) :
    (view.settle total visible current?).offset =
      min (current - 1 - view.row visible) (total - visible) := by
  have inSource : (current?.filter fun line => 0 < line && line ≤ total) = some current := by
    rw [asked, Option.filter_some, if_pos]
    simp [Nat.lt_of_lt_of_le Nat.zero_lt_one first, last]
  simp only [settle, inSource]

/-- A settled view shows the line of the open question: the row it goes to is shown, and where the
end of the source stops the view, the last line is shown. -/
theorem current_mem_settle (someRow : 1 ≤ visible) (asked : current? = some current)
    (first : 1 ≤ current) (last : current ≤ total) :
    (view.settle total visible current?).offset ≤ current - 1 ∧
      current - 1 < (view.settle total visible current?).offset + visible := by
  have row := row_le view visible
  rw [offset_settle_of_line asked first last]
  omega

theorem settle_settle (total visible : Nat) (current? : Option Nat) (view : SourceView) :
    (view.settle total visible current?).settle total visible current? =
      view.settle total visible current? := by
  have row := row_settle total visible current? view
  have offset := offset_settle_le total visible current? view
  generalize once : view.settle total visible current? = settled at row offset ⊢
  cases inSource : current?.filter fun line => 0 < line && line ≤ total with
  | none =>
      simp only [settle, inSource, row, Nat.min_eq_left offset]
      rw [← once]
      rfl
  | some line =>
      simp only [settle, inSource, row]
      rw [← once]
      simp only [settle, inSource]

end SourceView

namespace SourcePane

variable {source text : Text} {size : Size} {view : SourceView}

/-- The rows inside the border are the lines behind those above the window. -/
theorem getElem?_picture (language : Language) (marks : SourceMarks) (focused : Bool)
    {index : Nat} (inside : index < size.height - 2)
    (found : (Text.lines source)[view.offset + index]? = some text) :
    (picture language source marks focused view size)[index + 1]? =
      some (Picture.between '│' '│' (Palette.paneBorder focused) size.width
        ((line language marks (view.offset + index + 1) text).toRow .plain (size.width - 2))) := by
  have listed : ((lines language source marks).drop view.offset)[index]? =
      some (line language marks (view.offset + index + 1) text) := by
    rw [List.getElem?_drop, lines, List.getElem?_mapIdx, found]
    rfl
  exact Picture.getElem?_framed (by omega) (Picture.getElem?_ofLines inside listed)

/-- What a view of a source in a pane has to do with the line of the open question. -/
structure InWindow (source : Text) (marks : SourceMarks) (size : Size) (view : SourceView) :
    Prop where
  /-- No row is left empty that a line above the window could fill. -/
  filled : view.offset ≤ (Text.lines source).length - size.visible
  /-- The line of the open question is among the rows shown. -/
  seen : ∀ current, marks.current? = some current →
    1 ≤ current → current ≤ (Text.lines source).length →
      view.offset ≤ current - 1 ∧ current - 1 < view.offset + size.visible
  /-- It is drawn if the borders leave a row for it. -/
  drawn : ∀ current text language focused, marks.current? = some current → 1 ≤ current →
    (Text.lines source)[current - 1]? = some text → 3 ≤ size.height →
      (picture language source marks focused view size)[current - view.offset]? =
        some (Picture.between '│' '│' (Palette.paneBorder focused) size.width
          ((line language marks current text).toRow .plain (size.width - 2)))
  /-- There is nothing left to settle. -/
  steady : settle source marks size view = view

theorem inWindow_settle (source : Text) (marks : SourceMarks) (size : Size) (view : SourceView) :
    InWindow source marks size (settle source marks size view) := by
  have someRow : 1 ≤ size.visible := Nat.le_max_left _ _
  have seen : ∀ current, marks.current? = some current →
      1 ≤ current → current ≤ (Text.lines source).length →
        (settle source marks size view).offset ≤ current - 1 ∧
          current - 1 < (settle source marks size view).offset + size.visible :=
    fun current asked first last => SourceView.current_mem_settle someRow asked first last
  constructor
  case filled => exact SourceView.offset_settle_le _ _ _ _
  case seen => exact seen
  case drawn =>
    intro current text language focused asked first found roomy
    have last : current - 1 < (Text.lines source).length :=
      (List.getElem?_eq_some_iff.mp found).1
    obtain ⟨above, below⟩ := seen current asked first (by omega)
    generalize settle source marks size view = settled at above below ⊢
    have visible : size.visible = size.height - 2 := by
      rw [Size.visible]
      omega
    have place : current - 1 = settled.offset + (current - 1 - settled.offset) := by omega
    rw [place] at found
    have row := getElem?_picture language marks focused
      (show current - 1 - settled.offset < size.height - 2 by omega) found
    rwa [← place, Nat.sub_add_cancel first,
      show current - 1 - settled.offset + 1 = current - settled.offset by omega] at row
  case steady => exact SourceView.settle_settle _ _ _ _

end SourcePane

open SourcePane

/-- A source pane shows the line of the open question whenever it is drawn: from any view at all,
and in an application behind any keys and pictures of any size, those for scrolling among them. -/
theorem inWindow_shown :
    (∀ source marks size view, InWindow source marks size (settle source marks size view)) ∧
    ∀ (app : App) (turns : List Turn) (layout : Layout),
      let shown := app.afterTurns (turns ++ [.shown layout])
      InWindow shown.session.analysis.source shown.marks layout.source shown.sourceView := by
  refine ⟨inWindow_settle, fun app turns layout => ?_⟩
  have last : app.afterTurns (turns ++ [.shown layout]) = (app.afterTurns turns).settle layout := by
    rw [App.afterTurns, List.foldl_append]
    rfl
  rw [last]
  exact inWindow_settle _ _ _ _

end InputDemand
