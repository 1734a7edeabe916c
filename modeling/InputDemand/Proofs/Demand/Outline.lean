import InputDemand.Demand.Outline
import InputDemand.Proofs.Recognition.Loops

/-!
# Outlines are well formed

Whatever a source looks like, its outline can be made.  The loops of the outline lie in order, the
nested one inside the main one; the sites come in order, each with its place relative to the loops;
and the main loop is one that reads input if any of the candidates does.
-/

namespace InputDemand

def Outline.mainBody? (outline : Outline) : Option Span :=
  outline.mainLoop?.bind Loop.body?

def Outline.nestedBody? (outline : Outline) : Option Span :=
  outline.nestedLoop?.bind Loop.body?

/-- A loop reads a value in its body. -/
def Loop.Reads (sites : List PlacedSite) (loop : Loop) : Prop :=
  ∃ body, loop.body? = some body ∧ ∃ site ∈ sites, body.Has site.start

/-- What holds of the outline of a source of so many bytes with these candidates for a main loop. -/
structure Outline.WellFormed (size : Nat) (candidates : List Loop) (outline : Outline) : Prop where
  mainLoop : ∀ loop, outline.mainLoop? = some loop → loop.Within size
  nestedLoop : ∀ loop, outline.nestedLoop? = some loop → loop.Within size
  nestedInMain : ∀ loop, outline.nestedLoop? = some loop →
    ∃ body, outline.mainBody? = some body ∧
      body.start ≤ loop.header.start ∧ loop.header.stop ≤ body.stop ∧
        ∀ inner, loop.body? = some inner → body.start ≤ inner.start ∧ inner.stop ≤ body.stop
  sitesInOrder : outline.sites.Pairwise fun one other => one.start ≤ other.start
  inLoop : ∀ site ∈ outline.sites,
    site.inLoop = true ↔ ∃ body, outline.mainBody? = some body ∧ body.Has site.start
  inNested : ∀ site ∈ outline.sites,
    site.inNested = true ↔
      site.inLoop = true ∧ ∃ body, outline.nestedBody? = some body ∧ body.Has site.start
  ordinals : (outline.sites.filter PlacedSite.inLoop).map PlacedSite.ordinal? =
    (List.range outline.loopReads).map some
  unnumbered : ∀ site ∈ outline.sites, site.inLoop = false → site.ordinal? = none
  bindingsInOrder : outline.bindings.Pairwise fun one other => one.offset ≤ other.offset
  bindingsUnread : ∀ binding ∈ outline.bindings, ∀ site ∈ outline.sites,
    site.target? ≠ some binding.name
  mainLoopOffered : ∀ loop, outline.mainLoop? = some loop → loop ∈ candidates
  mainLoopReads : (∃ loop ∈ candidates, loop.Reads outline.sites) →
    ∃ loop, outline.mainLoop? = some loop ∧ loop.Reads outline.sites
  mainLoopFirst : (∀ loop ∈ candidates, ¬loop.Reads outline.sites) →
    outline.mainLoop? = candidates.head?

variable {language : Language} {one other source masked : Text}

/-! ## The place of a site -/

theorem inBody_eq_true {loop? : Option Loop} {offset : Nat} :
    inBody loop? offset = true ↔ ∃ body, loop?.bind Loop.body? = some body ∧ body.Has offset := by
  unfold inBody
  cases loop?.bind Loop.body? with
  | none => simp
  | some body => simp [Span.contains, Span.Has]

section Placing

variable {mainLoop? nestedLoop? : Option Loop}

theorem map_toSite_placeSites (number : Nat) (sites : List Site) :
    (placeSites mainLoop? nestedLoop? number sites).map PlacedSite.toSite = sites := by
  induction sites generalizing number with
  | nil => rfl
  | cons site sites inductionHypothesis =>
      unfold placeSites
      split
      · rw [List.map_cons, inductionHypothesis]
      · rw [List.map_cons, inductionHypothesis]
        rfl

/-- A placed site says where it lies; only those in the main loop have numbers. -/
theorem place_of_mem_placeSites {number : Nat} {sites : List Site} {site : PlacedSite}
    (listed : site ∈ placeSites mainLoop? nestedLoop? number sites) :
    site.inLoop = inBody mainLoop? site.start ∧
      site.inNested = (site.inLoop && inBody nestedLoop? site.start) ∧
        (site.inLoop = false → site.ordinal? = none) := by
  induction sites generalizing number with
  | nil => cases listed
  | cons first sites inductionHypothesis =>
      unfold placeSites at listed
      split at listed
      · rename_i inside
        rcases List.mem_cons.mp listed with rfl | later
        · exact ⟨inside.symm, rfl, fun outside => by cases outside⟩
        · exact inductionHypothesis later
      · rename_i outside
        rcases List.mem_cons.mp listed with rfl | later
        · exact ⟨(Bool.not_eq_true _ ▸ outside).symm, rfl, fun _ => rfl⟩
        · exact inductionHypothesis later

/-- The sites in the main loop are numbered in a row. -/
theorem ordinals_placeSites (number : Nat) (sites : List Site) :
    let inside := (placeSites mainLoop? nestedLoop? number sites).filter PlacedSite.inLoop
    inside.map PlacedSite.ordinal? = (List.range' number inside.length).map some := by
  induction sites generalizing number with
  | nil => rfl
  | cons site sites inductionHypothesis =>
      unfold placeSites
      split
      · rw [List.filter_cons_of_pos rfl]
        simp only [List.map_cons, List.length_cons, List.range'_succ]
        rw [inductionHypothesis]
      · rw [List.filter_cons_of_neg (by simp [PlacedSite.outside])]
        exact inductionHypothesis number

end Placing

/-! ## The main loop -/

section Choosing

variable {candidates : List Loop} {sites : List Site} {loop : Loop}

/-- Whether a loop reads a value does not depend on the numbers and places of the sites. -/
theorem reads_iff_any {placed : List PlacedSite} (same : placed.map PlacedSite.toSite = sites) :
    loop.Reads placed ↔ (sites.any fun site => inBody (some loop) site.span.start) = true := by
  subst same
  simp only [List.any_map, List.any_eq_true, Function.comp_apply, inBody_eq_true,
    Option.bind_some, Loop.Reads]
  constructor
  · rintro ⟨body, found, site, listed, inside⟩
    exact ⟨site, listed, body, found, inside⟩
  · rintro ⟨site, listed, body, found, inside⟩
    exact ⟨body, found, site, listed, inside⟩

theorem mem_of_chooseLoop (chosen : chooseLoop candidates sites = some loop) :
    loop ∈ candidates := by
  rcases Option.or_eq_some_iff.mp chosen with reading | ⟨_, first⟩
  · exact List.mem_of_find?_eq_some reading
  · exact List.mem_of_head? first

/-- A loop that reads input is chosen if there is one. -/
theorem exists_chooseLoop_reads {placed : List PlacedSite}
    (same : placed.map PlacedSite.toSite = sites) (reads : ∃ loop ∈ candidates, loop.Reads placed) :
    ∃ loop, chooseLoop candidates sites = some loop ∧ loop.Reads placed := by
  obtain ⟨loop, listed, reading⟩ := reads
  rw [reads_iff_any same] at reading
  have succeeds : (candidates.find? fun loop =>
      sites.any fun site => inBody (some loop) site.span.start).isSome = true :=
    List.find?_isSome.mpr ⟨loop, listed, reading⟩
  obtain ⟨found, search⟩ := Option.isSome_iff_exists.mp succeeds
  have reading := List.find?_some search
  refine ⟨found, ?_, (reads_iff_any same).mpr reading⟩
  exact Option.or_eq_some_iff.mpr (Or.inl search)

theorem chooseLoop_eq_head? {placed : List PlacedSite}
    (same : placed.map PlacedSite.toSite = sites)
    (idle : ∀ loop ∈ candidates, ¬loop.Reads placed) :
    chooseLoop candidates sites = candidates.head? := by
  have none : candidates.find? (fun loop =>
      sites.any fun site => inBody (some loop) site.span.start) = none := by
    rw [List.find?_eq_none]
    intro loop listed
    rw [← reads_iff_any same]
    exact idle loop listed
  simp only [chooseLoop, none, Option.none_or]

end Choosing

/-! ## The nested loop -/

section Nesting

variable {mainLoop? : Option Loop} {loop : Loop}

theorem Loop.Within.shift {inner size base : Nat} (within : loop.Within inner)
    (fits : base + inner ≤ size) : (loop.shift base).Within size := by
  refine ⟨?_, ?_, ?_⟩
  · exact Nat.add_lt_add_right within.header base
  · have stop := within.stop
    simp only [Loop.shift, Span.shift]
    omega
  · intro span moved
    obtain ⟨body, found, rfl⟩ := Option.map_eq_some_iff.mp moved
    obtain ⟨behind, order, stop⟩ := within.body body found
    simp only [Loop.shift, Span.shift]
    omega

/-- If there is a loop, it lies in masked source. -/
def Masked (language : Language) (masked : Text) (loop? : Option Loop) : Prop :=
  ∀ loop, loop? = some loop → ∃ kind least, loop.Placed language.lexicon masked kind least

theorem masked_chooseLoop {candidates : List Loop} (masks : language.mask source = masked)
    (offered : language.candidates source = .ok candidates) (sites : List Site) :
    Masked language masked (chooseLoop candidates sites) := by
  intro loop chosen
  have lies := (Language.placed_of_candidates offered).1 loop (mem_of_chooseLoop chosen)
  rw [masks] at lies
  exact ⟨loop.kind, 0, lies⟩

theorem agree_nestedIn? (first : language.mask one = masked) (second : language.mask other = masked)
    (placed : Masked language masked mainLoop?) :
    Agree id (nestedIn? language one mainLoop?) (nestedIn? language other mainLoop?) := by
  unfold nestedIn?
  cases found : mainLoop?.bind Loop.body? with
  | none => exact Agree.ok rfl
  | some body =>
      obtain ⟨loop, isMain, hasBody⟩ := Option.bind_eq_some_iff.mp found
      obtain ⟨kind, least, lies⟩ := placed loop isMain
      obtain ⟨shown, cuts⟩ := lies.exists_inside language.regular_lexicon hasBody
      obtain ⟨inside, cut, mask⟩ := cuts one first
      obtain ⟨inside', cut', mask'⟩ := cuts other second
      simp only [cut, cut']
      refine (language.agree_nestedLoop? mask mask').bind ?_
      intro nested nested' _ _ same
      rw [show nested = nested' from same]
      exact Agree.ok rfl

/-- The nested loop lies within the body of the main loop. -/
theorem exists_shift_of_nestedIn? (found : nestedIn? language source mainLoop? = .ok (some loop)) :
    ∃ (body : Span) (inner : Loop) (size : Nat), mainLoop?.bind Loop.body? = some body ∧
      body.stop = body.start + size ∧ inner.Within size ∧ loop = inner.shift body.start := by
  unfold nestedIn? at found
  cases hasBody : mainLoop?.bind Loop.body? with
  | none =>
      rw [hasBody] at found
      cases found
  | some body =>
      simp only [hasBody] at found
      obtain ⟨inside, cut, found⟩ := bind_eq_ok found
      obtain ⟨nested?, searched, found⟩ := bind_eq_ok found
      obtain ⟨inner, isNested, rfl⟩ := Option.map_eq_some_iff.mp (Except.ok.inj found)
      subst isNested
      obtain ⟨kind, lies⟩ := Language.placed_of_nestedLoop? searched
      have within := lies.within
      rw [Language.mask, Lexicon.size_mask] at within
      exact ⟨body, inner, Text.size inside, rfl, (Text.holds_of_slice cut).2, within, rfl⟩

end Nesting

/-! ## The outline -/

/-- The outline that is made of the parts found in a source. -/
def outlineOf (language : Language) (source : Text) (sites : List Site) (candidates : List Loop)
    (nestedLoop? : Option Loop) : Outline where
  mainLoop? := chooseLoop candidates sites
  nestedLoop? := nestedLoop?
  sites := placeSites (chooseLoop candidates sites) nestedLoop? 0 sites
  bindings := (language.bindings source).filter fun binding =>
    sites.all fun site => site.target? ≠ some binding.name

section Parts

variable {sites : List Site} {candidates : List Loop} {nestedLoop? : Option Loop}

theorem outline_eq_outlineOf (found : language.reads source = .ok sites)
    (offered : language.candidates source = .ok candidates)
    (searched : nestedIn? language source (chooseLoop candidates sites) = .ok nestedLoop?) :
    outline language source = .ok (outlineOf language source sites candidates nestedLoop?) := by
  simp only [outline, found, offered, searched, ok_bind]
  rfl

theorem within_of_chooseLoop (offered : language.candidates source = .ok candidates) {loop : Loop}
    (chosen : chooseLoop candidates sites = some loop) : loop.Within (Text.size source) := by
  obtain ⟨_, _, lies⟩ := masked_chooseLoop rfl offered sites loop chosen
  have within := lies.within
  rwa [Language.mask, Lexicon.size_mask] at within

/-- A nested loop is found in a source that is as long as the body of the main loop, and then moved
into that body. -/
theorem exists_span_of_nestedIn? (offered : language.candidates source = .ok candidates)
    (searched : nestedIn? language source (chooseLoop candidates sites) = .ok nestedLoop?) :
    ∀ loop, nestedLoop? = some loop →
      ∃ (body : Span) (inner : Loop) (size : Nat),
        (chooseLoop candidates sites).bind Loop.body? = some body ∧
          body.stop = body.start + size ∧ body.stop ≤ Text.size source ∧ inner.Within size ∧
            loop = inner.shift body.start := by
  rintro loop rfl
  obtain ⟨body, inner, size, hasBody, stop, inside, shifted⟩ := exists_shift_of_nestedIn? searched
  obtain ⟨main, chosen, body?⟩ := Option.bind_eq_some_iff.mp hasBody
  have last := ((within_of_chooseLoop offered chosen).body body body?).2.2
  exact ⟨body, inner, size, hasBody, stop, last, inside, shifted⟩

theorem wellFormed_outlineOf (found : language.reads source = .ok sites)
    (offered : language.candidates source = .ok candidates)
    (searched : nestedIn? language source (chooseLoop candidates sites) = .ok nestedLoop?) :
    (outlineOf language source sites candidates nestedLoop?).WellFormed (Text.size source)
      candidates := by
  have same : (placeSites (chooseLoop candidates sites) nestedLoop? 0 sites).map
      PlacedSite.toSite = sites := map_toSite_placeSites 0 sites
  have spans := exists_span_of_nestedIn? offered searched
  constructor
  case mainLoop => exact fun _ => within_of_chooseLoop offered
  case nestedLoop =>
    intro loop isNested
    obtain ⟨body, inner, size, _, stop, last, inside, rfl⟩ := spans loop isNested
    exact inside.shift (stop ▸ last)
  case nestedInMain =>
    intro loop isNested
    obtain ⟨body, inner, size, hasBody, stop, _, inside, rfl⟩ := spans loop isNested
    have innerStop := inside.stop
    refine ⟨body, hasBody, Nat.le_add_left _ _, ?_, ?_⟩
    · simp only [Loop.shift, Span.shift]
      omega
    · intro moved found
      obtain ⟨innerBody, hasInner, rfl⟩ := Option.map_eq_some_iff.mp found
      have bodyStop := (inside.body innerBody hasInner).2.2
      simp only [Span.shift]
      omega
  case sitesInOrder =>
    have inOrder := Language.pairwise_reads found
    rw [← same, List.pairwise_map] at inOrder
    exact inOrder
  case inLoop =>
    intro site listed
    rw [(place_of_mem_placeSites listed).1, inBody_eq_true]
    rfl
  case inNested =>
    intro site listed
    rw [(place_of_mem_placeSites listed).2.1, Bool.and_eq_true, inBody_eq_true]
    rfl
  case ordinals =>
    rw [List.range_eq_range']
    exact ordinals_placeSites 0 sites
  case unnumbered => exact fun site listed => (place_of_mem_placeSites listed).2.2
  case bindingsInOrder => exact (language.pairwise_bindings source).filter _
  case bindingsUnread =>
    intro binding listed site member
    have unread := List.all_eq_true.mp (List.mem_filter.mp listed).2 site.toSite
    rw [← same] at unread
    exact of_decide_eq_true (unread (List.mem_map_of_mem member))
  case mainLoopOffered => exact fun loop => mem_of_chooseLoop
  case mainLoopReads => exact exists_chooseLoop_reads same
  case mainLoopFirst => exact chooseLoop_eq_head? same

end Parts

/-- The outline of every source is well formed. -/
theorem outline_wellFormed (language : Language) (source : Text) :
    ∃ result candidates, outline language source = .ok result ∧
      language.candidates source = .ok candidates ∧
      result.WellFormed (Text.size source) candidates := by
  have self : language.mask source = language.mask source := rfl
  obtain ⟨sites, _, found, _, _⟩ := language.agree_reads self self
  obtain ⟨candidates, offered, _⟩ := (language.agree_candidates self self).exists_ok
  have placed := masked_chooseLoop self offered sites
  obtain ⟨nestedLoop?, searched, _⟩ := (agree_nestedIn? self self placed).exists_ok
  exact ⟨_, candidates, outline_eq_outlineOf found offered searched, offered,
    wellFormed_outlineOf found offered searched⟩

end InputDemand
