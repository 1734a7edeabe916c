import InputDemand.Proofs.Recognition.Loops

/-!
# Sweeps over a source

The loops of one kind are found in a sweep, in which every search resumes at the end of the loop
found last.  A loop ends behind the position from where it was looked for, so the searches move on
through the source until one of them finds nothing.  Neither the number of rounds that a sweep is
given nor the test for a standstill ever ends it.
-/

namespace InputDemand

/-- A sweep from one position to another: the finder reports the listed loops one by one, each of
them ends behind the position from where it was looked for, the next search resumes at that end,
and from the last position nothing is reported any more. -/
inductive Sweeps (find : Nat → Except Misplaced (Option Loop)) : Nat → List Loop → Nat → Prop
  | nothing {resume : Nat} : find resume = .ok none → Sweeps find resume [] resume
  | found {resume last : Nat} {loop : Loop} {loops : List Loop} :
      find resume = .ok (some loop) → resume ≤ loop.header.start → resume < loop.stop →
      Sweeps find loop.stop loops last → Sweeps find resume (loop :: loops) last

namespace Sweeps

variable {find : Nat → Except Misplaced (Option Loop)} {resume last : Nat} {loops : List Loop}

theorem resume_le (sweeps : Sweeps find resume loops last) :
    ∀ loop ∈ loops, resume ≤ loop.header.start := by
  induction sweeps with
  | nothing _ =>
      intro loop listed
      exact (List.not_mem_nil listed).elim
  | found _ behind onward _ inductionHypothesis =>
      intro loop listed
      rcases List.mem_cons.mp listed with rfl | listed
      · exact behind
      · exact le_trans (le_of_lt onward) (inductionHypothesis loop listed)

theorem pairwise (sweeps : Sweeps find resume loops last) :
    loops.Pairwise fun one other => one.stop ≤ other.header.start := by
  induction sweeps with
  | nothing _ => exact List.Pairwise.nil
  | found _ _ _ later inductionHypothesis =>
      exact List.pairwise_cons.mpr ⟨later.resume_le, inductionHypothesis⟩

theorem exists_find (sweeps : Sweeps find resume loops last) {loop : Loop} (listed : loop ∈ loops) :
    ∃ least, find least = .ok (some loop) := by
  induction sweeps with
  | nothing _ => exact (List.not_mem_nil listed).elim
  | found reported _ _ _ inductionHypothesis =>
      rcases List.mem_cons.mp listed with rfl | listed
      · exact ⟨_, reported⟩
      · exact inductionHypothesis listed

theorem find_last (sweeps : Sweeps find resume loops last) : find last = .ok none := by
  induction sweeps with
  | nothing none => exact none
  | found _ _ _ _ inductionHypothesis => exact inductionHypothesis

theorem length_le (sweeps : Sweeps find resume loops last) : resume + loops.length ≤ last := by
  induction sweeps with
  | nothing _ => exact Nat.le_refl _
  | found _ _ onward _ inductionHypothesis =>
      rw [List.length_cons]
      omega

/-- More rounds than there are loops find all of them. -/
theorem successive_eq (sweeps : Sweeps find resume loops last) {rounds : Nat}
    (enough : loops.length < rounds) : successive find rounds resume = .ok loops := by
  induction sweeps generalizing rounds with
  | nothing none =>
      cases rounds with
      | zero => exact absurd enough (Nat.not_lt_zero _)
      | succ rounds =>
          rw [successive, none]
          rfl
  | found reported _ onward _ inductionHypothesis =>
      cases rounds with
      | zero => exact absurd enough (Nat.not_lt_zero _)
      | succ rounds =>
          have later := inductionHypothesis (Nat.lt_of_succ_lt_succ enough)
          rw [successive, reported]
          simp only [ok_bind, if_neg (Nat.not_le_of_lt onward), later]
          rfl

end Sweeps

/-- A finder that reports loops behind the positions asked for, and within a source of some size,
sweeps the source from any position. -/
theorem exists_sweeps {find : Nat → Except Misplaced (Option Loop)} {size : Nat}
    (answers : ∀ least, least ≤ size → ∃ found?, find least = .ok found?)
    (behind : ∀ least loop, find least = .ok (some loop) →
      least ≤ loop.header.start ∧ loop.Within size)
    {resume : Nat} (inside : resume ≤ size) :
    ∃ loops last, Sweeps find resume loops last ∧ last ≤ size := by
  -- What is left of the source behind the position grows less with every loop.
  induction left : size - resume using Nat.strong_induction_on generalizing resume with
  | _ bytes inductionHypothesis =>
      obtain ⟨found?, searched⟩ := answers resume inside
      cases found? with
      | none => exact ⟨[], resume, .nothing searched, inside⟩
      | some loop =>
          obtain ⟨order, within⟩ := behind resume loop searched
          have onward : resume < loop.stop := lt_of_le_of_lt order within.start_lt_stop
          have less : size - loop.stop < bytes := by
            have := within.stop_le
            omega
          obtain ⟨loops, last, sweeps, ends⟩ :=
            inductionHypothesis (size - loop.stop) less within.stop_le rfl
          exact ⟨loop :: loops, last, .found searched order onward sweeps, ends⟩

namespace Language

/-- The finder of the loops of a kind. -/
def finder (language : Language) (source : Text) :
    LoopKind → Nat → Except Misplaced (Option Loop)
  | .counter => fun least => return language.counterLoop? (language.mask source) least
  | .collection => language.collectionLoop? source (language.mask source)
  | .bodyFirst => language.bodyFirstLoop? (language.mask source)

variable {language : Language} {source : Text} {kind : LoopKind} {least : Nat} {loop : Loop}

theorem placed_of_finder (found : language.finder source kind least = .ok (some loop)) :
    loop.Placed language.lexicon (language.mask source) kind least := by
  cases kind with
  | counter => exact language.placed_of_counterLoop? (Except.ok.inj found)
  | collection => exact language.placed_of_collectionLoop? found
  | bodyFirst => exact language.placed_of_bodyFirstLoop? found

theorem within_of_finder (found : language.finder source kind least = .ok (some loop)) :
    loop.Within (Text.size source) := by
  have within := (placed_of_finder found).within
  have size : Text.size (language.mask source) = Text.size source := Lexicon.size_mask _ source
  rwa [size] at within

/-- A finder answers wherever it is asked to search in the source. -/
theorem exists_finder_eq_ok (kind : LoopKind) (inside : least ≤ Text.size source) :
    ∃ found?, language.finder source kind least = .ok found? := by
  have size : Text.size (language.mask source) = Text.size source := Lexicon.size_mask _ source
  cases kind with
  | counter => exact ⟨_, rfl⟩
  | collection =>
      obtain ⟨found?, searched, _⟩ := (language.agree_collectionLoop? rfl rfl least).exists_ok
      exact ⟨found?, searched⟩
  | bodyFirst =>
      obtain ⟨found?, searched, _⟩ := (language.agree_bodyFirstLoop? (size ▸ inside)).exists_ok
      exact ⟨found?, searched⟩

/-- The candidates are what sweeps with the three finders report.  Each sweep goes on from the
start of the source until its finder reports nothing; its loops are of one kind, take up some of
the source and start at or behind the ends of those in front, so none overlaps another; and any
number of rounds greater than that of the loops gives the same loops. -/
theorem candidates_of_sweeps (language : Language) (source : Text) :
    ∃ loops : LoopKind → List Loop,
      language.candidates source =
          .ok (loops .counter ++ loops .collection ++ loops .bodyFirst) ∧
        ∀ kind, ∃ last, Sweeps (language.finder source kind) 0 (loops kind) last ∧
          last ≤ Text.size source ∧ language.finder source kind last = .ok none ∧
          (∀ loop ∈ loops kind, loop.kind = kind ∧ loop.header.start < loop.stop) ∧
          ((loops kind).Pairwise fun one other => one.stop ≤ other.header.start) ∧
          ∀ rounds, (loops kind).length < rounds →
            successive (language.finder source kind) rounds 0 = .ok (loops kind) := by
  have swept : ∀ kind, ∃ loops last, Sweeps (language.finder source kind) 0 loops last ∧
      last ≤ Text.size source := by
    intro kind
    refine exists_sweeps (fun least => exists_finder_eq_ok kind) ?_ (Nat.zero_le _)
    intro least loop found
    exact ⟨(placed_of_finder found).least_le, within_of_finder found⟩
  choose loops last sweeps inside using swept
  -- A sweep takes no more rounds than there are bytes, and the candidates are given one more.
  have whole : ∀ kind, successive (language.finder source kind) (Text.size source + 1) 0 =
      .ok (loops kind) := by
    intro kind
    have fewer := (sweeps kind).length_le
    have within := inside kind
    exact (sweeps kind).successive_eq (by omega)
  refine ⟨loops, ?_, ?_⟩
  · have counters := whole .counter
    have collections := whole .collection
    have bodyFirst := whole .bodyFirst
    simp only [finder] at counters collections bodyFirst
    simp only [candidates, counters, collections, bodyFirst, ok_bind]
    rfl
  · intro kind
    refine ⟨last kind, sweeps kind, inside kind, (sweeps kind).find_last, ?_,
      (sweeps kind).pairwise, fun rounds enough => (sweeps kind).successive_eq enough⟩
    intro loop listed
    obtain ⟨least, found⟩ := (sweeps kind).exists_find listed
    exact ⟨(placed_of_finder found).kind_eq, (within_of_finder found).start_lt_stop⟩

end Language

end InputDemand
