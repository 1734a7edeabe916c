import InputDemand.Proofs.Demand.Masking
import InputDemand.Proofs.Pattern.Rounds

/-!
# No cut is refused

Analysing a source cuts the source and its masked form at many positions: at the ends of arguments,
literals, calls and loop bodies.  The source is cut at positions that were found in the masked form,
where a character of several bytes has become as many blanks.  Still every position is a place of
the very text that is cut there, so that no source makes the analysis fail.
-/

namespace InputDemand

/-- What comes before a place of a source can be cut out of it. -/
theorem Span.liesIn_of_place {source : Text} {offset : Nat}
    (place : ∃ there : Cursor, there.text = source ∧ there.offset = offset) :
    Span.LiesIn ⟨0, offset⟩ source := by
  obtain ⟨there, rfl, rfl⟩ := place
  refine ⟨there.before.reverse, ⟨[], there.rest, rfl, rfl⟩, ?_⟩
  rw [Text.size_reverse, Nat.zero_add, Cursor.offset]

theorem Span.LiesIn.of_slice {source inside : Text} {span : Span}
    (cut : Text.slice source span = .ok inside) : span.LiesIn source := by
  obtain ⟨holds, stop⟩ := Text.holds_of_slice cut
  exact ⟨inside, holds, stop⟩

/-- What lies in a piece of a text lies in the text, so much further to the right. -/
theorem Span.LiesIn.shift {text piece : Text} {span : Span} {base : Nat} (lies : span.LiesIn piece)
    (outer : text.Holds base piece) : (span.shift base).LiesIn text := by
  obtain ⟨part, holds, stop⟩ := lies
  refine ⟨part, ?_, ?_⟩
  · rw [Span.shift, Nat.add_comm]
    exact outer.inside holds
  · simp only [Span.shift, stop]
    omega

theorem Span.LiesIn.exists_stop {source : Text} {span : Span} (lies : span.LiesIn source) :
    ∃ there : Cursor, there.text = source ∧ there.offset = span.stop := by
  obtain ⟨there, located⟩ := lies.at?
  exact ⟨there, Cursor.at?_eq_ok_iff.mp located⟩

/-! ## Loops -/

namespace Loop

/-- The header and the body of a loop can be cut out of the masked source, and the body and all that
comes before its end out of the source. -/
structure Cuttable (source masked : Text) (loop : Loop) : Prop where
  header : loop.header.LiesIn masked
  body : ∀ body, loop.body? = some body → body.LiesIn masked ∧ body.LiesIn source
  upToStop : Span.LiesIn ⟨0, loop.stop⟩ source

variable {lexicon : Lexicon} {source masked inside : Text} {kind : LoopKind} {least base : Nat}
  {loop : Loop}

theorem Placed.cuttable (regular : lexicon.Regular) (masks : lexicon.mask source = masked)
    (placed : loop.Placed lexicon masked kind least) : loop.Cuttable source masked := by
  have bodies : ∀ body, loop.body? = some body → body.LiesIn source := by
    intro body found
    obtain ⟨_, cuts⟩ := placed.exists_inside regular found
    obtain ⟨inside, cut, _⟩ := cuts source masks
    exact .of_slice cut
  obtain ⟨start, stop, body?, lies, _, _, header, body⟩ := placed
  have text : stop.text = masked := by rw [← Cursor.text_eq_of_le lies.order, lies.text]
  refine ⟨?_, ?_, ?_⟩
  · rw [header, ← lies.text]
    exact Cursor.liesIn_spanUpTo lies.order
  · intro span found
    refine ⟨?_, bodies span found⟩
    rw [body, Option.map_eq_some_iff] at found
    obtain ⟨piece, found, rfl⟩ := found
    rw [← lies.text_eq_of_body found]
    exact Cursor.liesIn_spanUpTo (lies.body piece found).2.order
  -- Something shows in front of the header's end, and the body can be cut out up to its own end.
  · obtain ⟨letter, shown, visible⟩ := lies.shows
    have headerStop :=
      Lexicon.exists_place_behind_visible visible (masks.trans text.symm) shown
    refine Span.liesIn_of_place ?_
    unfold Loop.stop
    split
    · rw [header]
      exact headerStop
    · rename_i span found
      rcases le_total span.stop loop.header.stop with last | last
      · rw [max_eq_right last, header]
        exact headerStop
      · rw [max_eq_left last]
        exact (bodies span found).exists_stop

theorem Cuttable.shift {shown : Text} (cuttable : loop.Cuttable inside shown)
    (outer : source.Holds base inside) (outerMasked : masked.Holds base shown) :
    (loop.shift base).Cuttable source masked := by
  refine ⟨cuttable.header.shift outerMasked, ?_, ?_⟩
  · intro moved found
    obtain ⟨body, isBody, rfl⟩ := Option.map_eq_some_iff.mp found
    obtain ⟨first, second⟩ := cuttable.body body isBody
    exact ⟨first.shift outerMasked, second.shift outer⟩
  · have stop : (loop.shift base).stop = loop.stop + base := by
      unfold Loop.stop Loop.shift
      cases loop.body? with
      | none => rfl
      | some body => exact (Nat.add_max_add_right body.stop loop.header.stop base)
    rw [stop]
    exact Span.liesIn_of_place (cuttable.upToStop.shift outer).exists_stop

end Loop

/-- The main loop's body is a piece of the source, and its masked form one of the masked source. -/
theorem exists_holds_of_placed {lexicon : Lexicon} {source masked : Text} {kind : LoopKind}
    {least : Nat} {loop : Loop} {body : Span} (regular : lexicon.Regular)
    (masks : lexicon.mask source = masked) (placed : loop.Placed lexicon masked kind least)
    (found : loop.body? = some body) :
    ∃ inside, Text.slice source body = .ok inside ∧ source.Holds body.start inside ∧
      masked.Holds body.start (lexicon.mask inside) := by
  obtain ⟨start, stop, body?, lies, _, _, _, bodies⟩ := placed
  rw [bodies, Option.map_eq_some_iff] at found
  obtain ⟨piece, found, rfl⟩ := found
  obtain ⟨_, severable⟩ := lies.body piece found
  have text := lies.text_eq_of_body found
  obtain ⟨inside, cut, alone⟩ := severable.slice regular (masks.trans text.symm)
  refine ⟨inside, cut, (Text.holds_of_slice cut).1, ?_⟩
  rw [alone, ← text]
  exact Cursor.holds_textUpTo severable.order

/-- The nested loop is a loop of the main loop's body, which can be masked alone. -/
theorem exists_inner_of_nestedIn? {language : Language} {source masked : Text}
    {mainLoop? : Option Loop} {loop : Loop} (masks : language.mask source = masked)
    (placed : Masked language masked mainLoop?)
    (found : nestedIn? language source mainLoop? = .ok (some loop)) :
    ∃ (base : Nat) (inside : Text) (inner : Loop) (kind : LoopKind),
      source.Holds base inside ∧ masked.Holds base (language.mask inside) ∧
        inner.Placed language.lexicon (language.mask inside) kind 0 ∧ loop = inner.shift base := by
  unfold nestedIn? at found
  cases hasBody : mainLoop?.bind Loop.body? with
  | none =>
      rw [hasBody] at found
      cases found
  | some body =>
      obtain ⟨main, isMain, isBody⟩ := Option.bind_eq_some_iff.mp hasBody
      obtain ⟨kind, least, lies⟩ := placed main isMain
      obtain ⟨inside, cut, outer, outerMasked⟩ :=
        exists_holds_of_placed language.regular_lexicon masks lies isBody
      simp only [hasBody, cut, ok_bind] at found
      obtain ⟨nested?, searched, found⟩ := bind_eq_ok found
      obtain ⟨inner, isNested, rfl⟩ := Option.map_eq_some_iff.mp (Except.ok.inj found)
      subst isNested
      obtain ⟨kind', lies'⟩ := Language.placed_of_nestedLoop? searched
      exact ⟨body.start, inside, inner, kind', outer, outerMasked, lies', rfl⟩

section Printing

open Pattern

variable {source masked : Text} {marks : List Char} {found : Match} {print : Print}

end Printing

/-! ## Analyses -/

/-- Everything that an analysis tells of a source can be cut out of it: all reading calls with their
arguments, all printing statements, and all loops. -/
structure Analysis.Cuttable (analysis : Analysis) (candidates : List Loop) : Prop where
  reads : ∀ site ∈ analysis.outline.sites,
    site.span.LiesIn (analysis.language.mask analysis.source)
  arguments : ∀ rule found, (rule, found) ∈ analysis.language.claimedReads analysis.source →
    (∀ opening, rule ≠ .extraction opening) →
      found.last.offset + 1 = found.stop.offset ∧
        ∀ offset argument, (offset, argument) ∈ found.last.callArguments →
          (analysis.language.mask analysis.source).Holds offset argument
  prints : ∃ prints, analysis.language.prints analysis.source = .ok prints ∧
    ∀ print ∈ prints, print.span.LiesIn (analysis.language.mask analysis.source)
  candidates : ∀ loop ∈ candidates,
    loop.Cuttable analysis.source (analysis.language.mask analysis.source)
  mainLoop : ∀ loop, analysis.outline.mainLoop? = some loop →
    loop.Cuttable analysis.source (analysis.language.mask analysis.source)
  nestedLoop : ∀ loop, analysis.outline.nestedLoop? = some loop →
    loop.Cuttable analysis.source (analysis.language.mask analysis.source)

section Reading

variable {language : Language} {source : Text} {sites : List Site} {site : Site} {found : Match}
  {rule : ReadRule}

theorem Language.liesIn_of_reads (computed : language.reads source = .ok sites)
    (listed : site ∈ sites) : site.span.LiesIn (language.mask source) := by
  obtain ⟨claimed, made, spans⟩ := exists_readSites_of_reads computed
  have member : site.span ∈ claimed.map Site.span := spans ▸ List.mem_map_of_mem listed
  obtain ⟨site', listed', same⟩ := List.mem_map.mp member
  rw [← same]
  exact liesIn_of_readSites language.opens_readRules made listed'

end Reading

theorem exists_loopLines (analysis : Analysis)
    (main : ∀ loop, analysis.outline.mainLoop? = some loop →
      Span.LiesIn ⟨0, loop.stop⟩ analysis.source) :
    ∃ lines?, analysis.loopLines = .ok lines? := by
  unfold Analysis.loopLines
  split
  · exact ⟨none, rfl⟩
  · rename_i loop isMain
    have lies := main loop isMain
    obtain ⟨piece, holds, stop⟩ := lies
    have inside := holds.offset_add_size_le
    rw [← stop] at inside
    rw [min_eq_left inside]
    refine exists_ok_bind (main loop isMain).slice fun upToStop _ => ⟨_, rfl⟩

theorem cuttable_of_chooseLoop {language : Language} {source : Text} {candidates : List Loop}
    {sites : List Site} {loop : Loop} (offered : language.candidates source = .ok candidates)
    (chosen : chooseLoop candidates sites = some loop) :
    loop.Cuttable source (language.mask source) := by
  obtain ⟨kind, least, lies⟩ := masked_chooseLoop rfl offered sites loop chosen
  exact lies.cuttable language.regular_lexicon rfl

theorem exists_loopLines_of_analyze {language : Language} {source : Text} {analysis : Analysis}
    (analyzed : analyze language source = .ok analysis) :
    ∃ lines?, analysis.loopLines = .ok lines? := by
  obtain ⟨outlined, found, printed⟩ := bind_eq_ok analyzed
  obtain ⟨prints, _, made⟩ := bind_eq_ok printed
  cases made
  obtain ⟨sites, _, chosen⟩ := bind_eq_ok found
  obtain ⟨candidates, offered, nested⟩ := bind_eq_ok chosen
  obtain ⟨nestedLoop?, _, made⟩ := bind_eq_ok nested
  cases made
  exact exists_loopLines _ fun loop main => (cuttable_of_chooseLoop offered main).upToStop

end InputDemand
