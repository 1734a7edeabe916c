import InputDemand.Proofs.Demand.Cuts
import InputDemand.Proofs.Text.Lines

/-!
# The lines to point at

An analysis points at the lines on which values are read and at the lines of the main loop.  A site
and the start of the loop are put on a line by the line feeds in front of them, the end of the loop
by the number of lines up to it.  Both numbers speak of the same lines, whatever the body looks like
and however its lines end: every value that the loop reads is read on one of its lines.
-/

namespace InputDemand

/-! ## Runs of equal numbers -/

theorem mem_dropRepeats {number : Nat} {numbers : List Nat} :
    number ∈ dropRepeats numbers ↔ number ∈ numbers := by
  induction numbers with
  | nil => exact Iff.rfl
  | cons first numbers inductionHypothesis =>
      by_cases repeated : numbers.head? = some first
      · rw [dropRepeats, if_pos repeated, inductionHypothesis, List.mem_cons]
        constructor
        · exact Or.inr
        · rintro (rfl | member)
          · exact List.mem_of_head? repeated
          · exact member
      · rw [dropRepeats, if_neg repeated, List.mem_cons, List.mem_cons, inductionHypothesis]

/-- Numbers that do not decrease increase once repetitions are dropped. -/
theorem pairwise_dropRepeats {numbers : List Nat} (inOrder : numbers.Pairwise (· ≤ ·)) :
    (dropRepeats numbers).Pairwise (· < ·) := by
  induction numbers with
  | nil => exact List.Pairwise.nil
  | cons first numbers inductionHypothesis =>
      obtain ⟨least, others⟩ := List.pairwise_cons.mp inOrder
      by_cases repeated : numbers.head? = some first
      · rw [dropRepeats, if_pos repeated]
        exact inductionHypothesis others
      · rw [dropRepeats, if_neg repeated, List.pairwise_cons]
        refine ⟨fun number member => ?_, inductionHypothesis others⟩
        rw [mem_dropRepeats] at member
        cases numbers with
        | nil => cases member
        | cons second numbers =>
            have different : first ≠ second := fun same => repeated (congrArg some same.symm)
            have apart : first < second :=
              Nat.lt_of_le_of_ne (least second List.mem_cons_self) different
            rcases List.mem_cons.mp member with rfl | later
            · exact apart
            · exact Nat.lt_of_lt_of_le apart ((List.pairwise_cons.mp others).1 number later)

/-! ## Lines of an analysis -/

/-- The lines that an analysis points at: those on which values are read, in order and each once;
and those of the main loop, from the one on which its header starts to the one on which its last
byte stands. -/
structure Analysis.PointsAt (analysis : Analysis) (loopLines? : Option (Nat × Nat)) : Prop where
  inOrder : analysis.inputLines.Pairwise (· < ·)
  mem_inputLines : ∀ number, number ∈ analysis.inputLines ↔
    ∃ site ∈ analysis.outline.sites, analysis.source.OnLine site.start number
  hasLoop : loopLines?.isSome = analysis.outline.mainLoop?.isSome
  ends : ∀ first last, loopLines? = some (first, last) →
    ∃ loop, analysis.outline.mainLoop? = some loop ∧
      analysis.source.OnLine loop.header.start first ∧
        analysis.source.OnLine (loop.stop - 1) last
  order : ∀ first last, loopLines? = some (first, last) →
    first ≤ last ∧ last ≤ (Text.lines analysis.source).length
  around : ∀ first last, loopLines? = some (first, last) →
    ∀ body, analysis.outline.mainBody? = some body → ∀ site ∈ analysis.outline.sites,
      body.Has site.start → ∀ number, analysis.source.OnLine site.start number →
        first ≤ number ∧ number ≤ last

section Pointing

variable {analysis : Analysis} {loop : Loop}

theorem Span.onLine_line {span : Span} {source : Text} (inside : span.start ≤ Text.size source) :
    source.OnLine span.start (span.line source) :=
  (Text.onLine_iff inside).mpr rfl

theorem Analysis.mem_inputLines
    (inside : ∀ site ∈ analysis.outline.sites, site.start ≤ Text.size analysis.source)
    (number : Nat) : number ∈ analysis.inputLines ↔
      ∃ site ∈ analysis.outline.sites, analysis.source.OnLine site.start number := by
  rw [inputLines, mem_dropRepeats, List.mem_map]
  constructor
  · rintro ⟨site, listed, rfl⟩
    exact ⟨site, listed, Span.onLine_line (inside site listed)⟩
  · rintro ⟨site, listed, onLine⟩
    exact ⟨site, listed, onLine.number_eq.symm⟩

theorem Analysis.pairwise_inputLines
    (inOrder : analysis.outline.sites.Pairwise fun one other => one.start ≤ other.start) :
    analysis.inputLines.Pairwise (· < ·) := by
  apply pairwise_dropRepeats
  rw [List.pairwise_map]
  exact inOrder.imp fun order => Nat.succ_le_succ (Text.feedsBefore_le order)

/-- The last line of the main loop is the one on which its last byte stands. -/
theorem Analysis.loopLines_eq (isMain : analysis.outline.mainLoop? = some loop)
    (within : loop.Within (Text.size analysis.source))
    (lies : Span.LiesIn ⟨0, loop.stop⟩ analysis.source) :
    ∃ last, analysis.loopLines = .ok (some (loop.header.line analysis.source, last)) ∧
      analysis.source.OnLine (loop.stop - 1) last := by
  obtain ⟨there, text, offset⟩ := lies.exists_stop
  obtain ⟨upToStop, back, split, stop⟩ : ∃ upToStop back,
      analysis.source = upToStop ++ back ∧ loop.stop = Text.size upToStop :=
    ⟨there.before.reverse, there.rest, text.symm, by rw [Text.size_reverse]; exact offset.symm⟩
  have visible : upToStop ≠ [] := by
    rintro rfl
    have taken := within.start_lt_stop
    rw [stop] at taken
    exact Nat.not_lt_zero _ taken
  have onLine := Text.onLine_length_lines visible
  have some : 1 ≤ (Text.lines upToStop).length := by
    rw [onLine.number_eq]
    exact Nat.succ_le_succ (Nat.zero_le _)
  have cut : Text.slice analysis.source ⟨0, Text.size upToStop⟩ = .ok upToStop := by
    rw [split]
    have whole := Text.slice_append [] upToStop back
    rwa [Text.size_nil, Nat.zero_add] at whole
  have fits : min loop.stop (Text.size analysis.source) = Text.size upToStop := by
    rw [min_eq_left within.stop_le, stop]
  refine ⟨(Text.lines upToStop).length, ?_, ?_⟩
  · simp only [loopLines, isMain, fits, cut, ok_bind, max_eq_left some]
    rfl
  · rw [stop, split]
    exact onLine.append (Nat.sub_le _ _) back

theorem Analysis.exists_pointsAt {candidates : List Loop}
    (wellFormed : analysis.outline.WellFormed (Text.size analysis.source) candidates)
    (inside : ∀ site ∈ analysis.outline.sites, site.start ≤ Text.size analysis.source)
    (cuttable : ∀ loop, analysis.outline.mainLoop? = some loop →
      Span.LiesIn ⟨0, loop.stop⟩ analysis.source) :
    ∃ loopLines?, analysis.loopLines = .ok loopLines? ∧ analysis.PointsAt loopLines? := by
  have inOrder := analysis.pairwise_inputLines wellFormed.sitesInOrder
  have listed := analysis.mem_inputLines inside
  cases isMain : analysis.outline.mainLoop? with
  | none =>
      have computed : analysis.loopLines = .ok none := by
        simp only [loopLines, isMain]
        rfl
      exact ⟨none, computed, inOrder, listed, by rw [isMain]; rfl, nofun, nofun, nofun⟩
  | some loop =>
      have within := wellFormed.mainLoop loop isMain
      obtain ⟨last, computed, onLast⟩ := loopLines_eq isMain within (cuttable loop isMain)
      have taken := within.start_lt_stop
      have stop := within.stop_le
      have onFirst : analysis.source.OnLine loop.header.start (loop.header.line analysis.source) :=
        Span.onLine_line (by omega)
      -- A loop takes up some of the source, so there is a last line.
      have visible : analysis.source ≠ [] := by
        intro empty
        rw [empty, Text.size_nil] at stop
        omega
      refine ⟨some (_, last), computed, inOrder, listed, by rw [isMain]; rfl, ?_, ?_, ?_⟩
      · rintro first last' ⟨⟩
        exact ⟨loop, isMain, onFirst, onLast⟩
      · rintro first last' ⟨⟩
        refine ⟨onFirst.le_of_le onLast (by omega), ?_⟩
        exact onLast.le_of_le (Text.onLine_length_lines visible) (by omega)
      · rintro first last' ⟨⟩ body isBody site _ has number onLine
        have hasBody : loop.body? = some body := by
          rwa [Outline.mainBody?, isMain, Option.bind_some] at isBody
        have behind := (within.body body hasBody).1
        have bodyStop : body.stop ≤ loop.stop := by
          simp only [Loop.stop, hasBody]
          exact le_max_left _ _
        have header := within.header
        obtain ⟨start, upTo⟩ := has
        exact ⟨onFirst.le_of_le onLine (by omega), onLine.le_of_le onLast (by omega)⟩

end Pointing

/-- Whatever a source looks like, its analysis tells the lines to point at. -/
theorem analyze_pointsAt (language : Language) (source : Text) :
    ∃ analysis loopLines?, analyze language source = .ok analysis ∧
      analysis.language = language ∧ analysis.source = source ∧
        analysis.loopLines = .ok loopLines? ∧ analysis.PointsAt loopLines? := by
  have self : language.mask source = language.mask source := rfl
  obtain ⟨sites, _, found, _, _⟩ := language.agree_reads self self
  obtain ⟨candidates, offered, _⟩ := (language.agree_candidates self self).exists_ok
  have placed := masked_chooseLoop self offered sites
  obtain ⟨nestedLoop?, searched, _⟩ := (agree_nestedIn? self self placed).exists_ok
  obtain ⟨printed, _, prints, _, _⟩ := language.agree_prints self self
  have analyzed := analyze_eq (outline_eq_outlineOf found offered searched) prints
  have inside : ∀ site ∈ (outlineOf language source sites candidates nestedLoop?).sites,
      site.start ≤ Text.size source := by
    intro site listed
    have member := List.mem_map_of_mem (f := PlacedSite.toSite) listed
    rw [show (outlineOf language source sites candidates nestedLoop?).sites.map PlacedSite.toSite =
      sites from map_toSite_placeSites 0 sites] at member
    obtain ⟨piece, holds, _⟩ := Language.liesIn_of_reads found member
    have fits := holds.offset_add_size_le
    rw [Language.mask, Lexicon.size_mask] at fits
    exact Nat.le_of_add_right_le fits
  obtain ⟨loopLines?, computed, pointsAt⟩ := @Analysis.exists_pointsAt
    ⟨language, source, _, prompts _ printed⟩ _
    (wellFormed_outlineOf found offered searched) inside
    fun loop chosen => (cuttable_of_chooseLoop offered chosen).upToStop
  exact ⟨_, loopLines?, analyzed, rfl, rfl, computed, pointsAt⟩

end InputDemand
