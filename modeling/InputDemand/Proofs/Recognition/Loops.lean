import InputDemand.Recognition.Loops
import InputDemand.Proofs.Recognition.Calls
import InputDemand.Proofs.Recognition.Headers

/-!
# The loops of programs that mask alike

Loops are found in the masked source; a finder looks at the source itself only for the targets of
reading calls, which the masked source tells as well.  So two sources with one masked form have the
same loops.  Loops of one kind are found one behind the other, so none of them lies inside another.
-/

namespace InputDemand

variable {one other source masked : Text} {least : Nat} {loop : Loop}

theorem any_eq_of_map_bare {test : Site → Bool} {sites sites' : List Site}
    (blind : ∀ site, test site.bare = test site)
    (same : sites.map Site.bare = sites'.map Site.bare) : sites.any test = sites'.any test := by
  have told : ∀ sites : List Site, sites.any test = (sites.map Site.bare).any test := by
    intro sites
    rw [List.any_map]
    exact congrArg sites.any (funext fun site => (blind site).symm)
  rw [told sites, same, told sites']

/-! ## Loops over collections -/

theorem agree_rangedTrip (first : Language.mask .go one = masked)
    (second : Language.mask .go other = masked) (collection : Text) :
    Agree id (rangedTrip one masked collection) (rangedTrip other masked collection) := by
  unfold rangedTrip
  split
  · exact Agree.ok rfl
  · rename_i name constant _
    refine (Language.agree_reads .go first second).bind ?_
    intro sites sites' _ _ same
    have read : (sites.any fun site => site.target? = some name) =
        sites'.any fun site => site.target? = some name :=
      any_eq_of_map_bare (fun _ => rfl) same
    simp only [read]
    split <;> exact Agree.ok rfl
  · exact Agree.ok rfl

theorem agree_rangedLoop (first : Language.mask .go one = masked)
    (second : Language.mask .go other = masked) (found : Match) :
    Agree id (rangedLoop one masked found) (rangedLoop other masked found) := by
  refine (agree_rangedTrip first second (Text.trim (found.group 2))).bind ?_
  intro trip trip' _ _ same
  rw [show trip = trip' from same]
  exact Agree.ok rfl

namespace Language

theorem agree_collectionLoop? (language : Language) (first : language.mask one = masked)
    (second : language.mask other = masked) (least : Nat) :
    Agree id (language.collectionLoop? one masked least)
      (language.collectionLoop? other masked least) := by
  simp only [collectionLoop?]
  split
  · exact Agree.ok rfl
  · split
    · exact Agree.ok rfl
    · rename_i found _
      refine (agree_rangedLoop first second found).map ?_
      intro loop loop' same
      rw [show loop = loop' from same]
  · exact Agree.ok rfl
  · split <;> exact Agree.ok rfl

/-! ## Loops with their condition behind the body -/

theorem agree_bodyFirstLoop? (language : Language) (inside : least ≤ Text.size masked) :
    Agree id (language.bodyFirstLoop? masked least) (language.bodyFirstLoop? masked least) := by
  have place : placeFrom masked least = .ok (Cursor.seek masked least) := if_pos inside
  simp only [bodyFirstLoop?, place]
  split <;> exact Agree.ok rfl

end Language

/-! ## Loops one behind the other -/

section Successive

variable {lexicon : Lexicon} {kind : LoopKind} {find find' : Nat → Except Misplaced (Option Loop)}
  {rounds resume : Nat} {loops : List Loop}

theorem agree_successive (inside : resume ≤ Text.size masked)
    (agree : ∀ least, least ≤ Text.size masked → Agree id (find least) (find' least))
    (placed : ∀ least loop, find least = .ok (some loop) → loop.Placed lexicon masked kind least) :
    Agree id (successive find rounds resume) (successive find' rounds resume) := by
  induction rounds generalizing resume with
  | zero => exact Agree.ok rfl
  | succ rounds inductionHypothesis =>
      refine (agree resume inside).bind ?_
      intro found found' searched _ same
      rw [← show found = found' from same]
      cases found with
      | none => exact Agree.ok rfl
      | some loop =>
          simp only
          split
          · exact Agree.ok rfl
          -- The search goes on behind the loop, which is still inside the source.
          · have within := (placed resume loop searched).within
            refine (inductionHypothesis within.stop_le).bind ?_
            intro later later' _ _ same
            rw [show later = later' from same]
            exact Agree.ok rfl

/-- Every loop lies behind those found before it. -/
theorem placed_of_successive
    (placed : ∀ least loop, find least = .ok (some loop) → loop.Placed lexicon masked kind least)
    (found : successive find rounds resume = .ok loops) :
    (∀ loop ∈ loops, loop.Placed lexicon masked kind resume) ∧
      loops.Pairwise fun one other => one.stop ≤ other.header.start := by
  induction rounds generalizing resume loops with
  | zero =>
      cases found
      exact ⟨fun loop listed => (List.not_mem_nil listed).elim, List.Pairwise.nil⟩
  | succ rounds inductionHypothesis =>
      obtain ⟨first?, searched, found⟩ := bind_eq_ok found
      cases first? with
      | none =>
          cases found
          exact ⟨fun loop listed => (List.not_mem_nil listed).elim, List.Pairwise.nil⟩
      | some first =>
          have here := placed resume first searched
          simp only at found
          split at found
          · cases found
            exact ⟨fun loop listed => by rwa [List.mem_singleton.mp listed],
              List.pairwise_singleton _ first⟩
          · obtain ⟨later, successors, same⟩ := bind_eq_ok found
            cases same
            obtain ⟨behind, apart⟩ := inductionHypothesis successors
            refine ⟨?_, List.pairwise_cons.mpr ⟨?_, apart⟩⟩
            · intro loop listed
              rcases List.mem_cons.mp listed with rfl | listed
              · exact here
              -- The later loops lie behind the end of the first, and so behind `resume`.
              · have order := le_trans here.least_le (le_of_lt here.within.start_lt_stop)
                exact (behind loop listed).of_le order
            · exact fun loop listed => (behind loop listed).least_le

end Successive

/-! ## The loops of a program -/

namespace Language

/-- Candidates are loops with a place, and those of one kind lie one behind the other. -/
theorem placed_of_candidates {language : Language} {loops : List Loop}
    (found : language.candidates source = .ok loops) :
    (∀ loop ∈ loops, loop.Placed language.lexicon (language.mask source) loop.kind 0) ∧
      loops.Pairwise fun one other => one.kind = other.kind → one.stop ≤ other.header.start := by
  obtain ⟨counters, first, found⟩ := bind_eq_ok found
  obtain ⟨collections, second, found⟩ := bind_eq_ok found
  obtain ⟨bodyFirst, third, found⟩ := bind_eq_ok found
  cases found
  have counted := placed_of_successive
    (fun _ _ found => language.placed_of_counterLoop? (Except.ok.inj found)) first
  have collected := placed_of_successive (fun _ _ => language.placed_of_collectionLoop?) second
  have ended := placed_of_successive (fun _ _ => language.placed_of_bodyFirstLoop?) third
  have mixed : ∀ {kind kind' : LoopKind} {run run' : List Loop}, kind ≠ kind' →
      (∀ loop ∈ run, loop.Placed language.lexicon (language.mask source) kind 0) →
        (∀ loop ∈ run', loop.Placed language.lexicon (language.mask source) kind' 0) →
          ∀ one ∈ run, ∀ other ∈ run', one.kind = other.kind →
            one.stop ≤ other.header.start := by
    intro kind kind' run run' different isKind isKind' one listed other listed' same
    rw [(isKind one listed).kind_eq, (isKind' other listed').kind_eq] at same
    exact absurd same different
  constructor
  · intro loop listed
    rcases List.mem_append.mp listed with listed | listed
    · rcases List.mem_append.mp listed with listed | listed
      · rw [(counted.1 loop listed).kind_eq]
        exact counted.1 loop listed
      · rw [(collected.1 loop listed).kind_eq]
        exact collected.1 loop listed
    · rw [(ended.1 loop listed).kind_eq]
      exact ended.1 loop listed
  · refine List.pairwise_append.mpr ⟨List.pairwise_append.mpr ⟨?_, ?_, ?_⟩, ?_, ?_⟩
    · refine counted.2.imp ?_
      exact fun apart _ => apart
    · refine collected.2.imp ?_
      exact fun apart _ => apart
    · exact mixed (by decide) counted.1 collected.1
    · refine ended.2.imp ?_
      exact fun apart _ => apart
    · intro one listed other listed'
      rcases List.mem_append.mp listed with listed | listed
      · exact mixed (by decide) counted.1 ended.1 one listed other listed'
      · exact mixed (by decide) collected.1 ended.1 one listed other listed'

theorem agree_candidates (language : Language) (first : language.mask one = masked)
    (second : language.mask other = masked) :
    Agree id (language.candidates one) (language.candidates other) := by
  have size : Text.size one = Text.size masked := by
    rw [← first, mask, Lexicon.size_mask]
  have size' : Text.size other = Text.size masked := by
    rw [← second, mask, Lexicon.size_mask]
  have start := Nat.zero_le (Text.size masked)
  have counted : ∀ least loop,
      (pure (language.counterLoop? masked least) : Except Misplaced _) = .ok (some loop) →
        loop.Placed language.lexicon masked .counter least :=
    fun least loop found => language.placed_of_counterLoop? (Except.ok.inj found)
  simp only [candidates, first, second, size, size']
  refine (agree_successive start (fun _ _ => Agree.ok rfl) counted).bind ?_
  intro counters counters' _ _ sameCounters
  refine (agree_successive start (fun least _ => language.agree_collectionLoop? first second least)
    fun _ _ => language.placed_of_collectionLoop?).bind ?_
  intro collections collections' _ _ sameCollections
  refine (agree_successive start (fun _ => language.agree_bodyFirstLoop?)
    fun _ _ => language.placed_of_bodyFirstLoop?).bind ?_
  intro bodyFirst bodyFirst' _ _ sameBodyFirst
  rw [show counters = counters' from sameCounters,
    show collections = collections' from sameCollections,
    show bodyFirst = bodyFirst' from sameBodyFirst]
  exact Agree.ok rfl

/-- The loop inside a body lies within the body. -/
theorem placed_of_nestedLoop? {language : Language}
    (found : language.nestedLoop? source = .ok (some loop)) :
    ∃ kind, loop.Placed language.lexicon (language.mask source) kind 0 := by
  simp only [nestedLoop?] at found
  split at found
  · rename_i counter opens
    cases found
    exact ⟨_, language.placed_of_counterLoop? opens⟩
  · obtain ⟨collection?, searched, found⟩ := bind_eq_ok found
    cases collection? with
    | some collection =>
        cases found
        exact ⟨_, language.placed_of_collectionLoop? searched⟩
    | none => exact ⟨_, language.placed_of_bodyFirstLoop? found⟩

theorem agree_nestedLoop? (language : Language) (first : language.mask one = masked)
    (second : language.mask other = masked) :
    Agree id (language.nestedLoop? one) (language.nestedLoop? other) := by
  simp only [nestedLoop?, first, second]
  split
  · exact Agree.ok rfl
  · refine (language.agree_collectionLoop? first second 0).bind ?_
    intro found found' _ _ same
    rw [← show found = found' from same]
    cases found with
    | some loop => exact Agree.ok rfl
    | none => exact language.agree_bodyFirstLoop? (Nat.zero_le _)

end Language

/-! ## Loops inside loops -/

/-- Every source has candidates for its main loop, and none of them starts in the body of another
one of its kind. -/
theorem candidates_apart (language : Language) (source : Text) :
    ∃ loops, language.candidates source = .ok loops ∧
      ∀ one ∈ loops, ∀ other ∈ loops, one.kind = other.kind →
        ∀ body, one.body? = some body → ¬body.Has other.header.start := by
  have self : language.mask source = language.mask source := rfl
  obtain ⟨loops, offered, _⟩ := (language.agree_candidates self self).exists_ok
  obtain ⟨placed, apart⟩ := Language.placed_of_candidates offered
  refine ⟨loops, offered, List.Pairwise.forall_of_forall_of_flip ?_ ?_ ?_⟩
  · intro loop listed _ body found
    exact (placed loop listed).within.not_has_of_le found le_rfl
  · refine apart.imp ?_
    intro one other apart same body found
    exact Loop.not_has_of_stop_le found (apart same)
  · refine apart.imp_of_mem ?_
    intro one other listed listed' apart same body found
    have ahead := le_of_lt (placed one listed).within.start_lt_stop
    exact (placed other listed').within.not_has_of_le found (le_trans ahead (apart same.symm))

/-- A script with a loop over a collection in a counting loop, then one the other way round. -/
def nestedScript : Text :=
  ("for i in range(2):\n for x in a: f()\n" ++
    "for y in b:\n for j in range(3): input()\n").toList

/-- Candidates of different kinds may lie inside one another: of the loops of this script the inner
ones are offered as well. -/
theorem exists_candidate_inside :
    ∃ loops, Language.candidates .python nestedScript = .ok loops ∧
      ∃ outer ∈ loops, ∃ inner ∈ loops, ∃ body,
        outer.body? = some body ∧ body.Has inner.header.start := by
  have inside : (match Language.candidates .python nestedScript with
      | .error _ => false
      | .ok loops => loops.any fun outer => loops.any fun inner =>
          outer.body?.any fun body => body.contains inner.header.start) = true := by
    decide +kernel
  split at inside
  · cases inside
  · rename_i loops offered
    obtain ⟨outer, listed, inside⟩ := List.any_eq_true.mp inside
    obtain ⟨inner, listed', inside⟩ := List.any_eq_true.mp inside
    obtain ⟨body, found, inside⟩ := (Option.any_eq_true _ _).mp inside
    refine ⟨loops, offered, outer, listed, inner, listed', body, found, ?_⟩
    simpa [Span.contains, Span.Has] using inside

end InputDemand
