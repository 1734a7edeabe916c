import InputDemand.Proofs.Pattern.Matches
import InputDemand.Proofs.Source.Arguments
import InputDemand.Proofs.Source.Literal

/-!
# Calls found in two sources that mask alike

Calls are found in the masked source; only the literals they carry are read from the source itself.
So two sources with one masked form have the same reading and printing calls but for those literals.
-/

namespace InputDemand

/-- A site without the prompt that its call carries. -/
def Site.bare (site : Site) : Site :=
  { site with inline? := none }

/-- The calls that a rule finds open with a round bracket. -/
def ReadRule.Opens : ReadRule → Prop
  | call opening .. => Pattern.EndsWith opening '('
  | destinations opening .. => Pattern.EndsWith opening '('
  | extraction _ => True

section Members

variable {Member : Type}

theorem mem_of_mem_eraseDupsBy (same : Member → Member → Bool) (member : Member) :
    ∀ members : List Member, member ∈ members.eraseDupsBy same → member ∈ members
  | [], listed => by cases listed
  | first :: members, listed => by
      rw [List.eraseDupsBy_cons] at listed
      rcases List.mem_cons.mp listed with rfl | later
      · exact List.mem_cons_self
      · have kept := mem_of_mem_eraseDupsBy same member _ later
        exact List.mem_cons_of_mem first (List.mem_filter.mp kept).1
  termination_by members => members.length
  decreasing_by exact Nat.lt_succ_of_le (List.length_filter_le _ members)

theorem mem_findAll_of_mem_claims {masked : Text} {opening : Member → Pattern}
    {rules : List Member} {rule : Member} {found : Match}
    (claimed : (rule, found) ∈ claims masked opening rules) :
    rule ∈ rules ∧ found ∈ (opening rule).findAll masked := by
  have listed := mem_of_mem_eraseDupsBy _ _ _ claimed
  obtain ⟨origin, member, matched⟩ := List.mem_flatMap.mp listed
  obtain ⟨hit, hits, same⟩ := List.mem_map.mp matched
  cases same
  exact ⟨member, hits⟩

theorem pairwise_mergeSort_key (key : Member → Nat) (members : List Member) :
    (members.mergeSort fun one other => key one ≤ key other).Pairwise
      fun one other => key one ≤ key other := by
  have transitive : ∀ one other third : Member, decide (key one ≤ key other) = true →
      decide (key other ≤ key third) = true → decide (key one ≤ key third) = true := by
    intro one other third first second
    exact decide_eq_true (le_trans (of_decide_eq_true first) (of_decide_eq_true second))
  have total : ∀ one other : Member,
      (decide (key one ≤ key other) || decide (key other ≤ key one)) = true := by
    intro one other
    simpa using Nat.le_total (key one) (key other)
  exact (List.pairwise_mergeSort transitive total members).imp of_decide_eq_true

/-- Sorting by what a view shows is sorting what it shows. -/
theorem map_mergeSort_key {Shown : Type} (view : Member → Shown) (key : Shown → Nat)
    (members : List Member) :
    (members.mergeSort fun one other => key (view one) ≤ key (view other)).map view =
      (members.map view).mergeSort fun one other => key one ≤ key other :=
  List.map_mergeSort fun _ _ _ _ => rfl

end Members

variable {lexicon : Lexicon} {source one other masked : Text} {marks : List Char} {found : Match}
  {arguments : List (Nat × Text)}

/-! ## Reading calls -/

/-- The prompt in an argument can be read off the source. -/
theorem exists_promptAt? {offset : Nat} {argument : Text} (mask : lexicon.mask source = masked)
    (holds : masked.Holds offset argument) :
    ∃ prompt?, promptAt? source masked marks offset = .ok prompt? := by
  unfold promptAt?
  refine exists_ok_bind holds.at? fun place located => ?_
  refine exists_ok_bind ?_ fun literal? _ => ⟨_, rfl⟩
  have text : place.text = masked := (Cursor.at?_eq_ok_iff.mp located).1
  refine Cursor.exists_soleLiteral? marks (mask.trans ?_)
  cases named : argumentName.matchAt? place with
  | none => exact text.symm
  | some found =>
      have lies := Pattern.liesBehind_of_matchAt? named
      rw [← text]
      exact Cursor.text_eq_of_le (le_trans lies.start lies.stop)

theorem agree_callSite (first : lexicon.mask one = masked) (second : lexicon.mask other = masked)
    (holds : ∀ offset argument, (offset, argument) ∈ arguments → masked.Holds offset argument)
    (receiver : Receiver) (prompt? : Option Nat) :
    Agree Site.bare (callSite one masked marks found arguments receiver prompt?)
      (callSite other masked marks found arguments receiver prompt?) := by
  cases asked : prompt?.bind fun index => arguments[index]? with
  | none =>
      simp only [callSite, asked]
      exact Agree.ok rfl
  | some argument =>
      obtain ⟨index, _, listed⟩ := Option.bind_eq_some_iff.mp asked
      have stands := holds argument.1 argument.2 (List.mem_of_getElem? listed)
      simp only [callSite, asked]
      refine (Agree.of_exists (exists_promptAt? first stands) (exists_promptAt? second stands)).bind
        ?_
      intro inline? inline?' _ _ _
      exact Agree.ok rfl

theorem span_of_callSite {receiver : Receiver} {prompt? : Option Nat} {site : Site}
    (called : callSite source masked marks found arguments receiver prompt? = .ok site) :
    site.span = Cursor.callSpan found.start found.last := by
  simp only [callSite] at called
  split at called
  · cases called
    rfl
  · obtain ⟨inline?, _, same⟩ := bind_eq_ok called
    cases same
    rfl

theorem bracket_of_mem_findAll {opening : Pattern} (ends : Pattern.EndsWith opening '(')
    (member : found ∈ opening.findAll masked) :
    found.last.rest.head? = some '(' ∧ found.start ≤ found.last ∧ found.start.text = masked := by
  obtain ⟨bracket, order⟩ := ends.findAll member
  exact ⟨Cursor.rest_back bracket, order, Pattern.text_of_mem_findAll member⟩

theorem holds_of_mem_callArguments {opening : Pattern} (ends : Pattern.EndsWith opening '(')
    (member : found ∈ opening.findAll masked) {offset : Nat} {argument : Text}
    (listed : (offset, argument) ∈ found.last.callArguments) : masked.Holds offset argument := by
  obtain ⟨bracket, order, text⟩ := bracket_of_mem_findAll ends member
  rw [← text, Cursor.text_eq_of_le order]
  exact Cursor.holds_of_mem_callArguments bracket listed

/-- A match of a rule gives the same sites in both sources, but for their prompts. -/
theorem ReadRule.agree_sites {rule : ReadRule} (opens : rule.Opens)
    (first : lexicon.mask one = masked) (second : lexicon.mask other = masked)
    (member : found ∈ rule.opening.findAll masked) :
    Agree (List.map Site.bare) (rule.sites one masked marks found)
      (rule.sites other masked marks found) := by
  cases rule with
  | call opening receiver prompt? stream? =>
      simp only [sites]
      split
      · refine (agree_callSite first second ?_ receiver prompt?).bind ?_
        · exact fun offset argument listed => holds_of_mem_callArguments opens member listed
        · intro site site' _ _ same
          exact Agree.ok (congrArg (fun site => [site]) same)
      · exact Agree.ok rfl
  | destinations opening leading stream? =>
      simp only [sites]
      split <;> exact Agree.ok rfl
  | extraction opening => exact Agree.ok rfl

theorem agree_readSites {rules : List ReadRule} (opens : ∀ rule ∈ rules, rule.Opens)
    (first : lexicon.mask one = masked) (second : lexicon.mask other = masked) :
    Agree (List.map Site.bare) (readSites one masked marks rules)
      (readSites other masked marks rules) := by
  have pieces : Agree (List.map (List.map Site.bare))
      ((claims masked ReadRule.opening rules).mapM fun claim =>
        claim.1.sites one masked marks claim.2)
      ((claims masked ReadRule.opening rules).mapM fun claim =>
        claim.1.sites other masked marks claim.2) := by
    refine Agree.mapM ?_
    rintro ⟨rule, found⟩ claimed
    obtain ⟨member, matched⟩ := mem_findAll_of_mem_claims claimed
    exact ReadRule.agree_sites (opens rule member) first second matched
  refine pieces.bind ?_
  intro sites sites' _ _ same
  refine Agree.ok ?_
  have sorted := map_mergeSort_key Site.bare fun site => site.span.start
  exact (sorted sites.flatten).trans
    (.trans (by rw [List.map_flatten, List.map_flatten, same]) (sorted sites'.flatten).symm)

theorem pairwise_of_readSites {rules : List ReadRule} {sites : List Site}
    (found : readSites source masked marks rules = .ok sites) :
    sites.Pairwise fun one other => one.span.start ≤ other.span.start := by
  obtain ⟨pieces, _, sorted⟩ := bind_eq_ok found
  cases sorted
  exact pairwise_mergeSort_key (fun site => site.span.start) pieces.flatten

/-! ## Printing calls -/

theorem agree_printOf (first : lexicon.mask one = masked) (second : lexicon.mask other = masked)
    (text : found.stop.text = masked) :
    Agree Print.span (printOf one marks found) (printOf other marks found) := by
  have literals := Agree.of_exists (Cursor.exists_soleLiteral? marks (first.trans text.symm))
    (Cursor.exists_soleLiteral? marks (second.trans text.symm))
  refine literals.bind ?_
  intro literal? literal?' _ _ _
  split <;> exact Agree.ok rfl

theorem agree_prints {openings : List Pattern} (first : lexicon.mask one = masked)
    (second : lexicon.mask other = masked) :
    Agree (List.map Print.span) (prints one masked marks openings)
      (prints other masked marks openings) := by
  have pieces : Agree (List.map Print.span)
      ((claims masked id openings).mapM fun claim => printOf one marks claim.2)
      ((claims masked id openings).mapM fun claim => printOf other marks claim.2) := by
    refine Agree.mapM ?_
    rintro ⟨opening, hit⟩ claimed
    have matched := (mem_findAll_of_mem_claims claimed).2
    have lies := Pattern.liesBehind_of_mem_findAll matched
    have text : hit.stop.text = masked :=
      (Cursor.text_eq_of_le lies.stop).symm.trans (Pattern.text_of_mem_findAll matched)
    exact agree_printOf first second text
  refine pieces.bind ?_
  intro found found' _ _ same
  refine Agree.ok ?_
  have sorted := map_mergeSort_key Print.span Span.start
  exact (sorted found).trans (.trans (by rw [same]) (sorted found').symm)

end InputDemand
