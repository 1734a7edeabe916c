import InputDemand.Proofs.Demand.Outline
import InputDemand.Proofs.Program.Loops
import InputDemand.Proofs.Program.Reads

/-!
# The outline of a counted program

The main loop of a counted program is the one it was written with, and no loop is nested in it.  So
of its sites just those of the lines inside lie in the loop.
-/

namespace InputDemand

open Pattern

theorem Pattern.findAll_eq_nil {pattern : Pattern} {text : Text}
    (absent : pattern.find? text = none) : pattern.findAll text = [] := by
  rw [findAll]
  cases text.length with
  | zero => rfl
  | succ count => rw [findMany, show pattern.findFrom? (Cursor.start text) = _ from absent]

namespace Language

variable {language : Language} {names : CountedNames} {pattern : Pattern}

/-! ## The nested loop -/

/-- The patterns that loop headers are found by. -/
def loopOpenings : Language → List Pattern
  | python => [rangeLoopOpening, eachLoopHeader]
  | go => [bareClauses, rangeClause]
  | r => [sequenceLoopOpening, repeatOpening]
  | sql => []
  | language =>
      forOpening :: doOpening :: (language.elementHeader?.map ElementHeader.opening).toList

theorem nestedLoop?_eq_none {body : Text}
    (silent : ∀ opening ∈ language.loopOpenings, opening.find? (language.mask body) = none) :
    language.nestedLoop? body = .ok none := by
  have all : ∀ opening ∈ language.loopOpenings, opening.findAll (language.mask body) = [] :=
    fun opening listed => findAll_eq_nil (silent opening listed)
  have start : placeFrom (language.mask body) 0 = .ok (Cursor.start (language.mask body)) := by
    rw [placeFrom, if_pos (Nat.zero_le _), Cursor.seek_zero]
  have counters : language.counterLoop? (language.mask body) 0 = none := by
    cases language <;>
      simp_all [loopOpenings, counterLoop?, sequenceHeaders, firstClauseLoop?]
  have collections : language.collectionLoop? body (language.mask body) 0 = .ok none := by
    cases language <;>
      simp_all [loopOpenings, collectionLoop?, sequenceHeaders, elementHeader?, pure, Except.pure]
  have bodyFirst : language.bodyFirstLoop? (language.mask body) 0 = .ok none := by
    cases language <;>
      simp_all [loopOpenings, bodyFirstLoop?, find?, pure, Except.pure]
  rw [nestedLoop?, counters]
  simp only [collections, ok_bind, bodyFirst]

/-- Whether a pattern matches nowhere in the body of the loop. -/
def isIdle (language : Language) (pattern : Pattern) : Bool :=
  pattern.takesLetter && pattern.misses false [] language.shownLine.indented.fed &&
    pattern.misses false [] language.bodyEnd

theorem find?_body (areNames : names.AreNames) (idle : language.isIdle pattern = true) :
    pattern.find? (language.shownLine.indented.below names.inside ++
      fill names.inHeader language.bodyEnd) = none := by
  simp only [isIdle, Bool.and_eq_true] at idle
  obtain ⟨⟨takes, lines⟩, ending⟩ := idle
  have overLines := @ReadLine.hunt_below_of_misses pattern language.shownLine.indented []
    (fill names.inHeader language.bodyEnd) names.inside lines areNames.inside
  have overEnd := @hunt_fill pattern
    ((language.shownLine.indented.below names.inside).reverse ++ []) [] _ _ areNames.inHeader ending
  rw [List.append_nil (fill names.inHeader language.bodyEnd)] at overEnd
  have whole := (overLines.append overEnd).findFrom?_eq rfl
  have nothing := @Hunt.matchAt?_of_shortens pattern
    ((fill names.inHeader language.bodyEnd).reverse ++
      ((language.shownLine.indented.below names.inside).reverse ++ []))
    (shortens_of_takesLetter takes)
  rw [find?, Cursor.start, whole, findFrom?, findFrom?.go, nothing]

theorem idle_loopOpenings (language : Language) :
    language.loopOpenings.all language.isIdle = true := by
  cases language <;> decide +kernel

theorem Masks.size_text {line shown : ReadLine} (masks : Masks language line shown) {name : Text}
    (isName : Text.isName name = true) :
    Text.size (line.text name) = Text.size (shown.text name) := by
  have masked := congrArg Text.size (masks name isName [])
  rwa [List.append_nil, mask, Lexicon.size_mask, Text.size_append, mask, Lexicon.size_mask,
    Text.size_nil, Nat.add_zero] at masked

/-- The body of the loop as it stands in the source. -/
def body (language : Language) (names : CountedNames) : Text :=
  language.readLine.indented.below names.inside ++ fill names.inHeader language.bodyEnd

theorem mask_body (areNames : names.AreNames) : language.mask (language.body names) =
    language.shownLine.indented.below names.inside ++ fill names.inHeader language.bodyEnd := by
  have ending : language.bodyEnd.all (Sign.passes language.lexicon.isPlain) = true := by
    cases language <;> decide
  have rest := mask_fill areNames.inHeader ending []
  rw [List.append_nil] at rest
  rw [body, (masks_readLine language).indented.below areNames.inside, rest]
  exact congrArg (_ ++ ·) (List.append_nil _)

theorem exists_loopEnd (language : Language) :
    ∃ closing, language.loopEnd = language.bodyEnd ++ closing := by
  cases language <;> exact ⟨_, rfl⟩

theorem slice_body (areNames : names.AreNames) :
    Text.slice (language.countedProgram names) (language.bodySpan names) =
      .ok (language.body names) := by
  obtain ⟨closing, ending⟩ := exists_loopEnd language
  let front := language.readLine.text names.bound ++
    fill names.inHeader ("\n" ++ language.loopHeader)
  have split : language.countedProgram names = front ++ (language.body names ++
      (fill names.inHeader closing ++ (language.readLine.below names.behind ++ ['\n']))) := by
    rw [countedProgram, countedBy, ending, fill_append]
    simp [front, body]
  have toBody : Text.size front = Text.size (language.toBody names) := by
    rw [Text.size_append, Masks.size_text (masks_readLine language) areNames.bound, Language.toBody,
      Text.size_append]
  have inside : Text.size (language.body names) =
      Text.size (language.shownLine.indented.below names.inside ++
        fill names.inHeader language.bodyEnd) := by
    rw [← mask_body areNames, mask, Lexicon.size_mask]
  rw [bodySpan, ← toBody, ← inside, split, Text.slice_append]

theorem nestedIn?_countedProgram {loop : Loop} (areNames : names.AreNames)
    (counted : language.IsCounted names loop) :
    nestedIn? language (language.countedProgram names) (some loop) = .ok none := by
  have idle : ∀ opening ∈ language.loopOpenings,
      opening.find? (language.mask (language.body names)) = none := by
    intro opening listed
    rw [mask_body areNames]
    exact find?_body areNames (List.all_eq_true.mp (idle_loopOpenings language) opening listed)
  simp only [nestedIn?, Option.bind_some, counted.body, slice_body areNames, ok_bind,
    nestedLoop?_eq_none idle]
  rfl

/-! ## The main loop -/

theorem exists_cons_of_successive {find : Nat → Except Misplaced (Option Loop)}
    {rounds resume : Nat} {loop : Loop} {loops : List Loop}
    (first : find resume = .ok (some loop))
    (found : successive find (rounds + 1) resume = .ok loops) :
    ∃ others, loops = loop :: others := by
  rw [successive, first] at found
  simp only [ok_bind] at found
  split at found
  · cases found
    exact ⟨[], rfl⟩
  · obtain ⟨later, _, same⟩ := bind_eq_ok found
    cases same
    exact ⟨later, rfl⟩

/-- The loop of a counted program is its first candidate. -/
theorem exists_candidates (reads : language ≠ sql) (areNames : names.AreNames)
    (free : names.bound ∉ Linear.reserved) (filled : names.inside ≠ []) :
    ∃ loop others, language.candidates (language.countedProgram names) = .ok (loop :: others) ∧
      language.IsCounted names loop := by
  obtain ⟨loop, first, counted⟩ := exists_counterLoop? reads areNames free filled
  rw [← mask_countedProgram language areNames] at first
  -- A source agrees with itself, so the candidates are found; the first of them is known.
  have self : language.mask (language.countedProgram names) = _ := rfl
  obtain ⟨candidates, offered, _⟩ := (language.agree_candidates self self).exists_ok
  obtain ⟨counters, searched, found⟩ := bind_eq_ok offered
  obtain ⟨collections, _, found⟩ := bind_eq_ok found
  obtain ⟨bodyFirst, _, found⟩ := bind_eq_ok found
  obtain ⟨others, same⟩ := exists_cons_of_successive (congrArg Except.ok first) searched
  subst same
  cases found
  exact ⟨loop, _, offered, counted⟩

/-! ## The sites -/

/-- The lines in front of the loop, inside and behind it are read where they stand. -/
structure AroundBody (body : Span) (first inside behind : List Site) : Prop where
  first : ∀ site ∈ first, site.span.start < body.start
  inside : ∀ site ∈ inside, body.start ≤ site.span.start ∧ site.span.start < body.stop
  behind : ∀ site ∈ behind, body.stop ≤ site.span.start

theorem ReadInParts.aroundBody {first inside behind : List Site}
    (parts : language.ReadInParts names first inside behind) :
    AroundBody (language.bodySpan names) first inside behind := by
  obtain ⟨closing, ending⟩ := exists_loopEnd language
  have toBody : Text.size (language.shownLine.text names.bound) ≤
      Text.size (language.toBody names) := by
    rw [Language.toBody, Text.size_append]
    exact Nat.le_add_right _ _
  have toBehind : Text.size (language.toBehind names) = Text.size (language.toBody names) +
      (Text.size (language.shownLine.indented.below names.inside) +
        (Text.size (fill names.inHeader language.bodyEnd) +
          Text.size (fill names.inHeader closing))) := by
    rw [Language.toBehind, ending]
    simp only [fill_append, Text.size_append]
  refine ⟨?_, ?_, ?_⟩
  · intro site listed
    exact Nat.lt_of_lt_of_le (parts.first.within site listed).2 toBody
  · intro site listed
    have within := parts.inside.within site listed
    simp only [bodySpan, Text.size_append]
    omega
  · intro site listed
    have within := parts.behind.within site listed
    simp only [bodySpan, Text.size_append]
    omega

theorem inBody_counted {loop : Loop} (counted : language.IsCounted names loop) (offset : Nat) :
    inBody (some loop) offset = (language.bodySpan names).contains offset := by
  rw [inBody, Option.bind_some, counted.body, Option.any_some]

/-- A counted program has an outline with its loop, its sites and no nested loop. -/
theorem exists_outline (reads : language ≠ sql) (areNames : names.AreNames)
    (free : names.bound ∉ Linear.reserved) (filled : names.inside ≠ []) :
    ∃ result loop first inside behind,
      InputDemand.outline language (language.countedProgram names) = .ok result ∧
      result.mainLoop? = some loop ∧ language.IsCounted names loop ∧ result.nestedLoop? = none ∧
      result.sites = placeSites (some loop) none 0 (first ++ (inside ++ behind)) ∧
      language.ReadInParts names first inside behind := by
  obtain ⟨first, inside, behind, found, parts⟩ := reads_countedProgram reads areNames
  obtain ⟨loop, others, offered, counted⟩ := exists_candidates reads areNames free filled
  -- The first candidate in whose body a site lies is the main loop.
  have chosen : chooseLoop (loop :: others) (first ++ (inside ++ behind)) = some loop := by
    have visible : inside ≠ [] := by
      rintro rfl
      exact filled (List.map_eq_nil_iff.mp parts.inside.targets.symm)
    obtain ⟨site, listed⟩ := List.exists_mem_of_ne_nil _ visible
    have within := parts.aroundBody.inside site listed
    have reading : ((first ++ (inside ++ behind)).any fun site =>
        inBody (some loop) site.span.start) = true := by
      refine List.any_eq_true.mpr ⟨site, by simp [listed], ?_⟩
      rw [inBody_counted counted, Span.contains, decide_eq_true within.1, decide_eq_true within.2]
      rfl
    rw [chooseLoop, List.find?_cons]
    simp only [reading, Option.some_or]
  have searched := nestedIn?_countedProgram areNames counted
  rw [← chosen] at searched
  refine ⟨_, loop, first, inside, behind, outline_eq_outlineOf found offered searched, chosen,
    counted, rfl, ?_, parts⟩
  rw [outlineOf, chosen]

end Language

end InputDemand
