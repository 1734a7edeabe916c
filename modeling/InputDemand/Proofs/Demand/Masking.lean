import InputDemand.Proofs.Demand.Outline
import InputDemand.Proofs.Demand.Silence

/-!
# What comments and literals have no say in

Two sources with one masked form differ only inside comments and the contents of literals.  They
have the same loops, the nested one included, the same calls and the same assignments, so that
for any answers their plans differ in nothing but the texts of the questions.
-/

namespace InputDemand

variable {language : Language} {one other masked : Text}

/-! ## Outlines -/

theorem map_bare_placeSites (mainLoop? nestedLoop? : Option Loop) (number : Nat)
    (sites : List Site) :
    (placeSites mainLoop? nestedLoop? number sites).map PlacedSite.bare =
      placeSites mainLoop? nestedLoop? number (sites.map Site.bare) := by
  induction sites generalizing number with
  | nil => rfl
  | cons site sites inductionHypothesis =>
      have sameSpan : site.bare.span = site.span := rfl
      simp only [placeSites, List.map_cons, sameSpan]
      split <;> rw [List.map_cons, inductionHypothesis] <;> rfl

theorem chooseLoop_eq_of_map_bare {sites sites' : List Site}
    (same : sites.map Site.bare = sites'.map Site.bare) (candidates : List Loop) :
    chooseLoop candidates sites = chooseLoop candidates sites' := by
  have reads : ∀ loop : Loop, (sites.any fun site => inBody (some loop) site.span.start) =
      sites'.any fun site => inBody (some loop) site.span.start :=
    fun loop => any_eq_of_map_bare (fun _ => rfl) same
  simp only [chooseLoop, reads]

theorem all_target_ne_eq_of_map_bare {sites sites' : List Site}
    (same : sites.map Site.bare = sites'.map Site.bare) (name : Text) :
    (sites.all fun site => decide (site.target? ≠ some name)) =
      sites'.all fun site => decide (site.target? ≠ some name) := by
  rw [List.all_eq_not_any_not, List.all_eq_not_any_not]
  exact congrArg Bool.not (any_eq_of_map_bare (fun _ => rfl) same)

theorem agree_outline (language : Language) (first : language.mask one = masked)
    (second : language.mask other = masked) :
    Agree Outline.bare (outline language one) (outline language other) := by
  obtain ⟨sites, sites', found, found', same⟩ := language.agree_reads first second
  obtain ⟨candidates, offered, offered'⟩ := (language.agree_candidates first second).exists_ok
  have chosen := chooseLoop_eq_of_map_bare same candidates
  have placed := masked_chooseLoop first offered sites
  obtain ⟨nestedLoop?, searched, searched'⟩ := (agree_nestedIn? first second placed).exists_ok
  -- Both outlines are made of the same parts but for the prompts of their sites.
  rw [outline_eq_outlineOf found offered searched,
    outline_eq_outlineOf found' offered' (chosen ▸ searched')]
  refine Agree.ok ?_
  simp only [Outline.bare, outlineOf, map_bare_placeSites, same, chosen,
    all_target_ne_eq_of_map_bare same, language.bindings_eq (first.trans second.symm)]

/-! ## Plans -/

/-- What two sources of a language have in common that differ only in comments and literals.  The
outlines agree but for the prompts that calls carry; the plans have as many slots, halt for the same
reason, and ask slot by slot at the same site and in the same iteration. -/
structure Alike (language : Language) (one other : Text) : Prop where
  candidates : ∃ loops,
    language.candidates one = .ok loops ∧ language.candidates other = .ok loops
  bindings : language.bindings one = language.bindings other
  prints : Agree (List.map Print.span) (language.prints one) (language.prints other)
  reads : Agree (List.map Site.bare) (language.reads one) (language.reads other)
  outlines : Agree Outline.bare (outline language one) (outline language other)
  plans : ∃ first second, analyze language one = .ok first ∧ analyze language other = .ok second ∧
    ∀ answers, (first.plan answers).silent = (second.plan answers).silent

/-- Plans of outlines that agree but for their prompts differ in nothing but texts. -/
theorem silent_plan_eq {first second : Outline} (same : first.bare = second.bare)
    (prints prints' : List Print) (answers : List Text) :
    (first.plan (prompts first.sites prints) answers).silent =
      (second.plan (prompts second.sites prints') answers).silent := by
  have sites : first.sites.map PlacedSite.bare = second.sites.map PlacedSite.bare :=
    congrArg Outline.sites same
  rw [Outline.silent_plan, Outline.silent_plan, map_silent_prompts, map_silent_prompts, same, sites]

theorem analyze_eq {source : Text} {result : Outline} {found : List Print}
    (outlined : outline language source = .ok result)
    (printed : language.prints source = .ok found) :
    analyze language source = .ok ⟨language, source, result, prompts result.sites found⟩ := by
  simp only [analyze, outlined, printed, ok_bind]
  rfl

/-- Sources with one masked form are alike: whatever stands in comments and literals has no say in
what is asked, only in how. -/
theorem alike_of_mask_eq (language : Language) (one other : Text)
    (same : language.mask one = language.mask other) : Alike language one other := by
  have outlines := agree_outline language same rfl
  have prints := language.agree_prints same rfl
  refine ⟨(language.agree_candidates same rfl).exists_ok, language.bindings_eq same, prints,
    language.agree_reads same rfl, outlines, ?_⟩
  obtain ⟨first, second, outlined, outlined', bare⟩ := outlines
  obtain ⟨found, found', printed, printed', _⟩ := prints
  exact ⟨_, _, analyze_eq outlined printed, analyze_eq outlined' printed',
    silent_plan_eq bare found found'⟩

/-- A script that reads a name and three cells for each of two rows. -/
def rowScript : Text :=
  "for i in range(2):\n  a = input('é')  # row\n  for j in range(3):\n    b = input('x')\n".toList

def rowScriptReworded : Text :=
  "for i in range(2):\n  a = input('no')  # ---\n  for j in range(3):\n    b = input('y')\n".toList

theorem alike_rowScript :
    Language.mask .python rowScript = Language.mask .python rowScriptReworded ∧
      Alike .python rowScript rowScriptReworded := by
  have same : Language.mask .python rowScript = Language.mask .python rowScriptReworded := by
    decide +kernel
  exact ⟨same, alike_of_mask_eq .python rowScript rowScriptReworded same⟩

end InputDemand
