import InputDemand.Proofs.Demand.Cuts

/-!
# Bodies mask alone

The loop nested in a body is looked for in the body alone: what is cut out of the source is masked
anew.  Nothing is lost by that, for wherever a body ends, be it inside a comment or a literal, the
masked form of the body is the body of the masked form.
-/

namespace InputDemand

/-- What a span covers of a source has the masked form that the span covers of the masked source. -/
def Span.MasksAlone (lexicon : Lexicon) (source : Text) (span : Span) : Prop :=
  ∃ inside, Text.slice source span = .ok inside ∧
    Text.slice (lexicon.mask source) span = .ok (lexicon.mask inside)

namespace Span.MasksAlone

variable {lexicon : Lexicon} {source inside : Text} {span : Span} {base : Nat}

theorem of_holds (outer : source.Holds base inside)
    (masked : (lexicon.mask source).Holds base (lexicon.mask inside)) :
    Span.MasksAlone lexicon source ⟨base, base + Text.size inside⟩ := by
  have cut := masked.slice
  rw [Lexicon.size_mask] at cut
  exact ⟨inside, outer.slice, cut⟩

/-- A span of a piece that masks alone does so in the whole, so much further to the right. -/
theorem shift (alone : Span.MasksAlone lexicon inside span) (outer : source.Holds base inside)
    (masked : (lexicon.mask source).Holds base (lexicon.mask inside)) :
    Span.MasksAlone lexicon source (span.shift base) := by
  obtain ⟨inner, cut, cutMasked⟩ := alone
  obtain ⟨holds, stop⟩ := Text.holds_of_slice cut
  obtain ⟨holdsMasked, _⟩ := Text.holds_of_slice cutMasked
  have moved := of_holds (outer.inside holds) (masked.inside holdsMasked)
  have ends : span.shift base =
      ⟨base + span.start, base + span.start + Text.size inner⟩ := by
    rw [Span.shift, stop, Nat.add_comm span.start base]
    congr 1
    omega
  rwa [ends]

end Span.MasksAlone

theorem Loop.Placed.masksAlone {lexicon : Lexicon} {source : Text} {kind : LoopKind} {least : Nat}
    {loop : Loop} {body : Span} (regular : lexicon.Regular)
    (placed : loop.Placed lexicon (lexicon.mask source) kind least)
    (found : loop.body? = some body) : body.MasksAlone lexicon source := by
  obtain ⟨inside, cut, outer, masked⟩ := exists_holds_of_placed regular rfl placed found
  have alone := Span.MasksAlone.of_holds outer masked
  rwa [← (Text.holds_of_slice cut).2] at alone

/-- Every candidate for a main loop has a body that masks alone, if it has one, and so has the loop
that is nested in the main loop of the outline. -/
theorem bodies_masksAlone (language : Language) (source : Text) :
    ∃ loops result, language.candidates source = .ok loops ∧ outline language source = .ok result ∧
      ∀ loop, loop ∈ loops ∨ result.mainLoop? = some loop ∨ result.nestedLoop? = some loop →
        ∀ body, loop.body? = some body → body.MasksAlone language.lexicon source := by
  have regular := language.regular_lexicon
  have self : language.mask source = language.mask source := rfl
  obtain ⟨sites, _, found, _, _⟩ := language.agree_reads self self
  obtain ⟨loops, offered, _⟩ := (language.agree_candidates self self).exists_ok
  have placed := masked_chooseLoop self offered sites
  obtain ⟨nestedLoop?, searched, _⟩ := (agree_nestedIn? self self placed).exists_ok
  refine ⟨loops, _, offered, outline_eq_outlineOf found offered searched, ?_⟩
  rintro loop (listed | isMain | rfl) body hasBody
  · exact ((Language.placed_of_candidates offered).1 loop listed).masksAlone regular hasBody
  · obtain ⟨kind, least, lies⟩ := placed loop isMain
    exact lies.masksAlone regular hasBody
  · obtain ⟨base, inside, inner, kind, outer, masked, lies, rfl⟩ :=
      exists_inner_of_nestedIn? self placed searched
    obtain ⟨innerBody, hasInner, rfl⟩ := Option.map_eq_some_iff.mp hasBody
    exact (lies.masksAlone regular hasInner).shift outer masked

end InputDemand
