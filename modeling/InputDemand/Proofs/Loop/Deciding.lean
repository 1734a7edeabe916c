import InputDemand.Proofs.Loop.Declarations
import InputDemand.Proofs.Pattern.First

/-!
# The declaration that decides

A name may be declared more than once.  The forms of declarations are looked for one after another
through the whole source, so a declaration decides about the size of a collection if no declaration
of an earlier form stands anywhere and none of its own form stands in front of it.
-/

namespace InputDemand

open Pattern

/-! ## Searches for the first match -/

namespace Pattern

section Search

variable {pattern other core : Pattern} {front rest text : Text} {there : Progress}

theorem findFrom?_congr (same : ways pattern = ways other) (place : Cursor) :
    pattern.findFrom? place = other.findFrom? place := by
  have matchesSame : ∀ place, pattern.matchAt? place = other.matchAt? place := fun place => by
    rw [matchAt?, matchAt?, same]
  obtain ⟨before, rest⟩ := place
  induction rest generalizing before with
  | nil => exact matchesSame _
  | cons letter rest inductionHypothesis =>
      rw [findFrom?, findFrom?, findFrom?.go, findFrom?.go, matchesSame]
      have further := inductionHypothesis (letter :: before)
      rw [findFrom?, findFrom?] at further
      rw [further]

/-- The first hit of several patterns depends only on their ways. -/
theorem findSome?_find?_congr {patterns others : List Pattern}
    (same : patterns.map ways = others.map ways) (text : Text) :
    (patterns.findSome? fun pattern => pattern.find? text) =
      others.findSome? fun pattern => pattern.find? text := by
  induction patterns generalizing others with
  | nil =>
      rw [List.map_nil] at same
      rw [List.map_eq_nil_iff.mp same.symm]
  | cons pattern patterns inductionHypothesis =>
      cases others with
      | nil => cases same
      | cons other others =>
          rw [List.map_cons, List.map_cons, List.cons.injEq] at same
          rw [List.findSome?_cons, List.findSome?_cons, inductionHypothesis same.2, find?, find?,
            findFrom?_congr same.1]

theorem matchAt?_eq_none_iff {place : Cursor} :
    pattern.matchAt? place = none ↔ ways pattern ⟨place, []⟩ = [] := by
  rw [matchAt?, Option.map_eq_none_iff, List.head?_eq_none_iff]

theorem find?_eq_none (misses : ∀ front rest, text = front ++ rest →
    ways pattern ⟨⟨front.reverse, rest⟩, []⟩ = []) : pattern.find? text = none := by
  cases hit : pattern.find? text with
  | none => rfl
  | some found =>
      obtain ⟨⟨before, rest⟩, ⟨passed, split, ahead⟩, matched⟩ := matchAt?_of_findFrom? hit
      have same : before = passed.reverse := ahead.trans (List.append_nil _)
      rw [same, matchAt?_eq_none_iff.mpr (misses passed rest split)] at matched
      cases matched

/-- A search passes the places where nothing matches. -/
theorem findFrom?_of_misses {passed before : Text}
    (misses : ∀ front back, passed = front ++ back → back ≠ [] →
      ways pattern ⟨⟨front.reverse ++ before, back ++ rest⟩, []⟩ = []) :
    pattern.findFrom? ⟨before, passed ++ rest⟩ =
      pattern.findFrom? ⟨passed.reverse ++ before, rest⟩ := by
  induction passed generalizing before with
  | nil => rfl
  | cons letter passed inductionHypothesis =>
      have here : ways pattern ⟨⟨before, letter :: (passed ++ rest)⟩, []⟩ = [] :=
        misses [] (letter :: passed) rfl (List.cons_ne_nil _ _)
      rw [List.cons_append, Hunt.findFrom?_of_misses (matchAt?_eq_none_iff.mpr here),
        List.reverse_cons, List.append_assoc]
      refine inductionHypothesis fun front back split nonempty => ?_
      have later := misses (letter :: front) back (by rw [split]; rfl) nonempty
      rwa [List.reverse_cons, List.append_assoc] at later

theorem find?_of_first (misses : ∀ front' rest', front ++ rest = front' ++ rest' →
      front'.length < front.length → ways pattern ⟨⟨front'.reverse, rest'⟩, []⟩ = [])
    (leads : First pattern ⟨⟨front.reverse, rest⟩, []⟩ there) :
    pattern.find? (front ++ rest) = some ⟨⟨front.reverse, rest⟩, there.place, there.kept⟩ := by
  have passes : pattern.find? (front ++ rest) = pattern.findFrom? ⟨front.reverse ++ [], rest⟩ := by
    refine findFrom?_of_misses fun passed back split nonempty => ?_
    have missed := misses passed (back ++ rest) (by rw [split, List.append_assoc]) ?_
    · rwa [List.append_nil]
    · rw [split, List.length_append]
      exact Nat.lt_add_of_pos_right (List.length_pos_iff.mpr nonempty)
  rw [passes, List.append_nil]
  refine Hunt.findFrom?_of_matchAt? ?_
  rw [matchAt?, leads]
  rfl

theorem ways_sigil_append (core : Pattern) (before rest : Text) (kept : List (Nat × Piece)) :
    ways (optional "$" ++ core) ⟨⟨before, '$' :: rest⟩, kept⟩ =
      ways core ⟨⟨'$' :: before, rest⟩, kept⟩ ++ ways core ⟨⟨before, '$' :: rest⟩, kept⟩ := by
  have taken : ways (optional "$") ⟨⟨before, '$' :: rest⟩, kept⟩ =
      [⟨⟨'$' :: before, rest⟩, kept⟩, ⟨⟨before, '$' :: rest⟩, kept⟩] := rfl
  rw [ways_append, taken, List.flatMap_cons, List.flatMap_singleton]

theorem ways_sigil_append_of_ne (noDollar : rest.head? ≠ some '$') (core : Pattern)
    (before : Text) (kept : List (Nat × Piece)) :
    ways (optional "$" ++ core) ⟨⟨before, rest⟩, kept⟩ = ways core ⟨⟨before, rest⟩, kept⟩ := by
  have absent : ¬ "$".toList <+: rest := by
    rintro ⟨more, rfl⟩
    exact noDollar rfl
  rw [ways_append, ways_optional_of_nil (ways_word_eq_nil absent before kept),
    List.flatMap_singleton]

/-- With a dollar sign in front nothing is found where nothing is found without, here and behind
the sign. -/
theorem ways_sigil_eq_nil (misses : ways core ⟨⟨front.reverse, rest⟩, []⟩ = [])
    (missesNext : ∀ more, rest = '$' :: more →
      ways core ⟨⟨(front ++ ['$']).reverse, more⟩, []⟩ = []) :
    ways (optional "$" ++ core) ⟨⟨front.reverse, rest⟩, []⟩ = [] := by
  by_cases dollar : rest.head? = some '$'
  · obtain ⟨more, rfl⟩ := List.head?_eq_some_iff.mp dollar
    have next := missesNext more rfl
    rw [List.reverse_append] at next
    rw [ways_sigil_append, misses, List.append_nil]
    exact next
  · rw [ways_sigil_append_of_ne dollar, misses]

/-- A match is found from the dollar sign in front of it on, if there is one. -/
theorem exists_find?_sigil (misses : ∀ front' rest', front ++ rest = front' ++ rest' →
      front'.length < front.length → ways core ⟨⟨front'.reverse, rest'⟩, []⟩ = [])
    (noDollar : rest.head? ≠ some '$')
    (leads : First core ⟨⟨front.reverse, rest⟩, []⟩ there) :
    ∃ start, (optional "$" ++ core).find? (front ++ rest) =
      some ⟨start, there.place, there.kept⟩ := by
  by_cases dollar : front.getLast? = some '$'
  · obtain ⟨before, rfl⟩ := List.getLast?_eq_some_iff.mp dollar
    rw [List.append_assoc]
    refine ⟨_, find?_of_first (fun front' rest' split shorter => ways_sigil_eq_nil ?_ ?_) ?_⟩
    · refine misses front' rest' (by rw [List.append_assoc, split]) ?_
      rw [List.length_append]
      omega
    · rintro more rfl
      refine misses _ more (by rw [List.append_assoc, split, List.append_assoc]; rfl) ?_
      rw [List.length_append, List.length_append]
      omega
    · rw [List.reverse_append] at leads
      rw [First, List.singleton_append, ways_sigil_append, List.head?_append]
      rw [First] at leads
      exact Option.or_eq_some_iff.mpr (Or.inl leads)
  · refine ⟨_, find?_of_first (fun front' rest' split shorter => ways_sigil_eq_nil ?_ ?_) ?_⟩
    · exact misses front' rest' split shorter
    · rintro more rfl
      have again : front ++ rest = (front' ++ ['$']) ++ more := by
        rw [split, List.append_assoc]
        rfl
      refine misses _ more again (Nat.lt_of_le_of_ne ?_ fun same => ?_)
      · rw [List.length_append]
        exact shorter
      · rw [(List.append_inj again same.symm).1] at dollar
        exact dollar List.getLast?_concat
    · rw [First, ways_sigil_append_of_ne noDollar]
      exact leads

end Search

end Pattern

namespace Declaration

variable {name source given front rest tail size : Text} {declaration : Declaration}
  {form : Form} {there : Progress}

/-! ## Forms and their patterns -/

theorem ways_append_eq (first second : Pattern) :
    ways (first ++ second) = fun here => (ways first here).flatMap (ways second) :=
  rfl

theorem ways_orElse_eq (first second : Pattern) :
    ways (orElse first second) = fun here => ways first here ++ ways second here :=
  rfl

theorem ways_nothing_eq : ways nothing = fun here => [here] :=
  rfl

/-- The forms whose declarations state a size. -/
def sizedForms : List Form :=
  [.allocated, .made, .repeated, .array, .introduced]

theorem map_ways_sizedDeclarations (name : Text) :
    (sizedDeclarations name).map ways = sizedForms.map fun form => ways (form.pattern name) := by
  simp only [sizedDeclarations, sizedForms, Form.pattern, Form.core, Form.tokens, typedSign, spaced,
    Form.takesSigil, List.map_cons, List.map_nil, wholeName, gap, some1, blanks, ways_append_eq,
    List.flatMap_assoc, if_true, if_false, Bool.false_eq_true]
  rfl

theorem ways_makers :
    ways (oneOf [
      "new" ++ gap ++ some1 (letter fun found => isWord found || "<>.".toList.contains found) ++
        blanks ++ bracketed nothing ++ blanks,
      bracketed (many (letter isDecimal) ++ blanks) ++
        some1 (letter fun found => isWord found || found = '.') ++ blanks,
      "array" ++ blanks,
      "c" ++ blanks,
      "list" ++ blanks,
      "Arrays.asList" ++ blanks,
      "List.of" ++ blanks]) =
    ways (oneOf makerPatterns) := by
  simp only [makerPatterns, makers, List.map_cons, List.map_nil, oneOf, ways_orElse_eq, bracketed,
    spaced, gap, some1, ways_append_eq, List.flatMap_assoc, ways_nothing_eq,
    List.flatMap_singleton]
  rfl

theorem ways_listDeclaration (name : Text) :
    ways (listDeclaration name) = ways (Form.listed.pattern name) := by
  simp only [listDeclaration, Form.pattern, Form.core, Form.tokens, typedSign, spaced,
    Form.takesSigil, wholeName, ways_append_eq, List.flatMap_assoc, if_true, Pattern.optional,
    ways_orElse_eq, ways_makers]

/-! ## Deciding -/

/-- A declaration that decides about a name in a source: none of an earlier form stands anywhere in
the source, and none of the same form stands in front of it. -/
structure Decides (name source : Text) (declaration : Declaration) (front rest tail : Text) :
    Prop where
  split : source = front ++ rest
  stands : Stands name declaration front rest tail
  first : ∀ other front' rest' tail', source = front' ++ rest' → other.form = declaration.form →
    front'.length < front.length → ¬ Stands name other front' rest' tail'
  foremost : ∀ other front' rest' tail', source = front' ++ rest' →
    other.form.rank < declaration.form.rank → ¬ Stands name other front' rest' tail'

theorem ways_core_eq_nil (isName : IsRun isWord name)
    (absent : ∀ other tail, other.form = form → ¬ Stands name other front rest tail)
    (kept : List (Nat × Piece)) : ways (form.core name) ⟨⟨front.reverse, rest⟩, kept⟩ = [] := by
  refine List.eq_nil_iff_forall_not_mem.mpr fun there member => ?_
  obtain ⟨other, tail, isForm, stands⟩ := (exists_mem_ways_core_iff isName).mp ⟨there, member⟩
  exact absent other tail isForm stands

theorem head?_ne_dollar (isName : IsRun isWord name)
    (stands : Stands name declaration front rest tail) : rest.head? ≠ some '$' := by
  obtain ⟨tokens, text, writes, row, rfl⟩ := stands.written
  obtain ⟨first, more, rfl, inWord⟩ := writes.exists_cons isName row
  rintro ⟨⟩
  exact absurd inWord (by decide +kernel)

theorem find?_pattern_eq_none (isName : IsRun isWord name)
    (absent : ∀ other front rest tail, source = front ++ rest → other.form = form →
      ¬ Stands name other front rest tail) : (form.pattern name).find? source = none := by
  refine find?_eq_none fun front rest split => ?_
  have misses : ∀ front rest, source = front ++ rest →
      ways (form.core name) ⟨⟨front.reverse, rest⟩, []⟩ = [] := fun front rest split =>
    ways_core_eq_nil isName (fun other tail isForm => absent other front rest tail split isForm) []
  rw [Form.pattern]
  split
  · refine ways_sigil_eq_nil (misses front rest split) ?_
    rintro more rfl
    exact misses _ more (by rw [split, List.append_assoc]; rfl)
  · exact misses front rest split

theorem Decides.exists_find? (isName : IsRun isWord name)
    (decides : Decides name source declaration front rest tail)
    (leads : First (declaration.form.core name) ⟨⟨front.reverse, rest⟩, []⟩ there) :
    ∃ start, (declaration.form.pattern name).find? source =
      some ⟨start, there.place, there.kept⟩ := by
  have misses : ∀ front' rest', front ++ rest = front' ++ rest' → front'.length < front.length →
      ways (declaration.form.core name) ⟨⟨front'.reverse, rest'⟩, []⟩ = [] := by
    intro front' rest' split shorter
    refine ways_core_eq_nil isName (fun other tail isForm => ?_) []
    exact decides.first other front' rest' tail (decides.split.trans split) isForm shorter
  rw [decides.split, Form.pattern]
  split
  · exact exists_find?_sigil misses (head?_ne_dollar isName decides.stands) leads
  · exact ⟨_, find?_of_first misses leads⟩

theorem Decides.find?_eq_none (isName : IsRun isWord name)
    (decides : Decides name source declaration front rest tail)
    (earlier : form.rank < declaration.form.rank) : (form.pattern name).find? source = none :=
  find?_pattern_eq_none isName fun other front rest tail split isForm =>
    decides.foremost other front rest tail split (isForm ▸ earlier)

/-! ## The count of the declaration that decides -/

theorem findSome?_sizedDeclarations (name source : Text) :
    ((sizedDeclarations name).findSome? fun declaration => declaration.find? source) =
      sizedForms.findSome? fun form => (form.pattern name).find? source := by
  have same : (sizedDeclarations name).map ways =
      (sizedForms.map fun form => form.pattern name).map ways :=
    (map_ways_sizedDeclarations name).trans List.map_map.symm
  rw [findSome?_find?_congr same, List.findSome?_map]
  rfl

/-- In front of a form that states a size, those of lower rank are looked for. -/
theorem exists_sizedForms (sized : form ≠ .listed) : ∃ earlier later,
    sizedForms = earlier ++ form :: later ∧ ∀ other ∈ earlier, other.rank < form.rank := by
  refine ⟨sizedForms.take form.rank, sizedForms.drop (form.rank + 1), ?_⟩
  cases form
  case listed => exact absurd rfl sized
  all_goals exact ⟨rfl, by decide⟩

/-- The size of the declaration that decides is the count. -/
theorem Decides.collectionSize?_of_sized (isName : IsRun isWord name)
    (isGiven : Text.bareName given = name)
    (decides : Decides name source declaration front rest tail) (sized : declaration.form ≠ .listed)
    {piece : Piece}
    (leads : First (declaration.form.core name) ⟨⟨front.reverse, rest⟩, []⟩ there)
    (kept : there.kept.lookup 1 = some piece) :
    collectionSize? source given = (Linear.ofText? piece.text).map Linear.trip := by
  obtain ⟨start, hit⟩ := decides.exists_find? isName leads
  obtain ⟨earlier, later, listed, below⟩ := exists_sizedForms sized
  have found : (sizedForms.findSome? fun form => (form.pattern name).find? source) =
      some ⟨start, there.place, there.kept⟩ :=
    List.findSome?_eq_some_iff.mpr ⟨earlier, declaration.form, later, listed, hit,
      fun form member => decides.find?_eq_none isName (below form member)⟩
  simp only [collectionSize?, isGiven, findSome?_sizedDeclarations, found, Match.group,
    Match.piece?, kept, Option.map_some, Option.getD_some]

/-- The elements of the list that decides are counted. -/
theorem Decides.collectionSize?_of_listed (isName : IsRun isWord name)
    (isGiven : Text.bareName given = name)
    (decides : Decides name source declaration front rest tail)
    (listed : declaration.form = .listed)
    (leads : First (declaration.form.core name) ⟨⟨front.reverse, rest⟩, []⟩ there)
    {close : Cursor} (closes : there.place.back.matchingClose? = some close)
    (nonempty : Text.arguments (there.place.textUpTo close) ≠ []) :
    collectionSize? source given =
      some (Trip.literal (Text.arguments (there.place.textUpTo close)).length) := by
  obtain ⟨start, hit⟩ := decides.exists_find? isName leads
  have unsized : (sizedForms.findSome? fun form => (form.pattern name).find? source) = none := by
    have misses := fun form => @decides.find?_eq_none _ _ _ _ _ _ form isName
    rw [listed] at misses
    refine List.findSome?_eq_none_iff.mpr fun form member => misses form ?_
    revert form
    decide
  rw [listed] at hit
  have found : (listDeclaration name).find? source = some ⟨start, there.place, there.kept⟩ :=
    (findFrom?_congr (ways_listDeclaration name) _).trans hit
  have counted : (Text.arguments (there.place.textUpTo close)).length ≠ 0 :=
    List.length_eq_zero_iff.not.mpr nonempty
  simp only [collectionSize?, isGiven, findSome?_sizedDeclarations, unsized, listedSize?,
    found, Match.last, Option.bind_eq_bind, Option.bind_some, closes, if_neg counted]

end Declaration

end InputDemand
