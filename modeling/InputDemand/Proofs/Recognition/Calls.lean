import InputDemand.Recognition.Calls
import InputDemand.Proofs.Source.Sites

/-!
# The calls of programs that mask alike

For every language, two sources with one masked form have the same reading calls but for their
prompts, the same printing calls but for their texts, and the same assignments of numbers.
-/

namespace InputDemand

namespace Language

open Pattern

variable {one other source masked : Text}

theorem endsWith_callOf (function : Pattern) : EndsWith (callOf function) '(' :=
  (endsWith_word '(').andThen _

theorem opens_readRules (language : Language) : ∀ rule ∈ language.readRules, rule.Opens := by
  cases language <;>
    simp [readRules, scriptReads, consoleReads, or_imp, forall_and, ReadRule.Opens, endsWith_callOf]

/-! ## Scanners -/

theorem agree_completeScannerSite {site site' : Site} (lies : site.span.LiesIn masked)
    (same : site.bare = site'.bare) :
    Agree Site.bare (completeScannerSite masked site) (completeScannerSite masked site') := by
  obtain ⟨span, target?, inline?⟩ := site
  obtain ⟨span', target?', inline?'⟩ := site'
  cases same
  cases target? with
  | some target => exact Agree.ok rfl
  | none =>
      obtain ⟨call, cut⟩ := lies.slice
      obtain ⟨behind, located⟩ := lies.at?
      have scanned : ∃ target?, scannerTarget? masked ⟨span, none, inline?⟩ = .ok target? ∧
          scannerTarget? masked ⟨span, none, inline?'⟩ = .ok target? := by
        simp only [scannerTarget?, cut, located]
        exact ⟨_, rfl, rfl⟩
      obtain ⟨target?, first, second⟩ := scanned
      simp only [completeScannerSite, first, second]
      exact Agree.ok rfl

theorem span_of_completeScannerSite {site completed : Site}
    (computed : completeScannerSite masked site = .ok completed) : completed.span = site.span := by
  unfold completeScannerSite at computed
  split at computed
  · cases computed
    rfl
  · obtain ⟨target?, _, same⟩ := bind_eq_ok computed
    cases same
    rfl

/-! ## Reading and printing calls, and assignments -/

theorem agree_reads (language : Language) (first : language.mask one = masked)
    (second : language.mask other = masked) :
    Agree (List.map Site.bare) (language.reads one) (language.reads other) := by
  have opens := language.opens_readRules
  simp only [reads, first, second]
  refine (agree_readSites opens first second).bind ?_
  intro sites sites' found found' same
  split
  · rename_i isGo
    subst isGo
    refine Agree.mapM_of_map_eq same ?_
    intro site listed site' _ alike
    have lies := liesIn_of_readSites opens found listed
    exact agree_completeScannerSite lies alike
  · exact Agree.ok same

/-- Sites of a program are those that its rules find, but for their targets. -/
theorem exists_readSites_of_reads {language : Language} {sites : List Site}
    (found : language.reads source = .ok sites) :
    ∃ claimed, readSites source (language.mask source) language.literalMarks language.readRules =
      .ok claimed ∧ sites.map Site.span = claimed.map Site.span := by
  obtain ⟨claimed, computed, completed⟩ := bind_eq_ok found
  refine ⟨claimed, computed, ?_⟩
  split at completed
  · exact map_of_mapM completed fun _ _ => span_of_completeScannerSite
  · cases completed
    rfl

theorem pairwise_reads {language : Language} {sites : List Site}
    (found : language.reads source = .ok sites) :
    sites.Pairwise fun one other => one.span.start ≤ other.span.start := by
  obtain ⟨claimed, computed, spans⟩ := exists_readSites_of_reads found
  have inOrder : (claimed.map Site.span).Pairwise fun one other => one.start ≤ other.start :=
    List.pairwise_map.mpr (pairwise_of_readSites computed)
  rw [← spans, List.pairwise_map] at inOrder
  exact inOrder

/-- The matches of a program's reading rules, those of earlier rules first. -/
def claimedReads (language : Language) (source : Text) : List (ReadRule × Match) :=
  claims (language.mask source) ReadRule.opening language.readRules

theorem calls_readRules {language : Language} (simple : language ∉ [c, cpp, go, php]) :
    ∀ rule ∈ language.readRules, ∃ opening receiver prompt? stream?,
      rule = .call opening receiver prompt? stream? := by
  cases language <;> simp_all [readRules, scriptReads]

theorem agree_prints (language : Language) (first : language.mask one = masked)
    (second : language.mask other = masked) :
    Agree (List.map Print.span) (language.prints one) (language.prints other) := by
  simp only [prints, first, second]
  exact InputDemand.agree_prints first second

theorem bindings_eq (language : Language) (same : language.mask one = language.mask other) :
    language.bindings one = language.bindings other := by
  rw [bindings, bindings, same]

theorem pairwise_bindings (language : Language) (source : Text) :
    (language.bindings source).Pairwise fun one other => one.offset ≤ other.offset := by
  unfold bindings
  split
  · exact List.Pairwise.nil
  · exact pairwise_mergeSort_key Binding.offset _

end Language

/-! ## One site for every value -/

/-- The sites of a program are found in source order.  They start at different places unless a read
lies in the reach of another, as it may among the arguments of a call that reads into several, or
in front of the semicolon that ends a chain of operands. -/
theorem reads_apart (language : Language) (source : Text) :
    ∃ sites, language.reads source = .ok sites ∧
      sites.Pairwise (fun one other => one.span.start ≤ other.span.start) ∧
      (Unswallowed (language.claimedReads source) →
        sites.Pairwise fun one other => one.span.start < other.span.start) ∧
      (language ∉ [.c, .cpp, .go, .php] →
        sites.Pairwise fun one other => one.span.start < other.span.start) := by
  have self : language.mask source = language.mask source := rfl
  obtain ⟨sites, _, found, _, _⟩ := language.agree_reads self self
  obtain ⟨claimed, computed, spans⟩ := Language.exists_readSites_of_reads found
  have strictly : Unswallowed (language.claimedReads source) →
      sites.Pairwise fun one other => one.span.start < other.span.start := by
    intro apart
    have spread : (claimed.map Site.span).Pairwise fun one other => one.start < other.start :=
      List.pairwise_map.mpr (pairwise_lt_of_readSites language.opens_readRules apart computed)
    rw [← spans, List.pairwise_map] at spread
    exact spread
  refine ⟨sites, found, Language.pairwise_reads found, strictly, ?_⟩
  intro simple
  exact strictly (unswallowed_of_calls (Language.calls_readRules simple))

/-- A statement that reads one value to decide whether to read another. -/
def chainedScript : Text :=
  "if (cin >> a) cin >> b;".toList

/-- The chain of the first read runs on over the second one, so the operand of that is a site
twice. -/
theorem exists_site_twice :
    ∃ sites, Language.reads .cpp chainedScript = .ok sites ∧
      ¬sites.Pairwise fun one other => one.span.start ≠ other.span.start := by
  have self : Language.mask .cpp chainedScript = Language.mask .cpp chainedScript := rfl
  obtain ⟨sites, _, found, _, _⟩ := Language.cpp.agree_reads self self
  obtain ⟨claimed, computed, spans⟩ := Language.exists_readSites_of_reads found
  obtain ⟨pieces, made, sorted⟩ := bind_eq_ok computed
  cases sorted
  -- The sites as they are found; sorting only changes their order.
  have starts : (match (claims (Language.mask .cpp chainedScript) ReadRule.opening
          (Language.readRules .cpp)).mapM fun claim => claim.1.sites chainedScript
            (Language.mask .cpp chainedScript) (Language.literalMarks .cpp) claim.2 with
      | .error _ => false
      | .ok pieces => pieces.flatten.map (fun site => site.span.start) = [11, 21, 21]) = true := by
    decide +kernel
  rw [made] at starts
  refine ⟨sites, found, ?_⟩
  intro apart
  have spread : (sites.map Site.span).Pairwise fun one other => one.start ≠ other.start :=
    List.pairwise_map.mpr apart
  rw [spans, List.pairwise_map] at spread
  have unsorted := (List.mergeSort_perm _ _).pairwise spread fun different => Ne.symm different
  have distinct : (pieces.flatten.map fun site => site.span.start).Pairwise (· ≠ ·) :=
    List.pairwise_map.mpr unsorted
  rw [of_decide_eq_true starts] at distinct
  revert distinct
  decide

end InputDemand
