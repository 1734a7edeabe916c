import InputDemand.Proofs.Source.Calls

/-!
# Where the sites of reading calls start

A match of a rule may give several sites: one for every destination argument of its call, or one for
every operand up to the end of its statement.  They all start within the reach of the match, one
behind the other.  So sites start at different places unless one match lies in the reach of another.
-/

namespace InputDemand

/-- The bytes in which the sites of a match start: the first byte of a call that reads one value, a
call with destinations through its closing bracket, an extraction up to the end of its statement. -/
def ReadRule.reach (found : Match) : ReadRule → Span
  | call .. => ⟨found.start.offset, found.start.offset + 1⟩
  | destinations .. => Cursor.callSpan found.start found.last
  | extraction _ => found.start.spanUpTo (found.stop.skipWhile (· ≠ ';'))

/-- No match starts in the reach of one that starts in front of it. -/
def Unswallowed (claimed : List (ReadRule × Match)) : Prop :=
  ∀ one ∈ claimed, ∀ other ∈ claimed, one.2.start.offset < other.2.start.offset →
    (one.1.reach one.2).stop ≤ other.2.start.offset

/-! ## Arguments and operands one behind the other -/

namespace Text

variable {text piece : Text} {offset start : Nat}

theorem Holds.offset_add_size_le (holds : text.Holds offset piece) :
    offset + size piece ≤ size text := by
  obtain ⟨front, back, rfl, rfl⟩ := holds
  simp only [size_append]
  omega

theorem size_pos_of_isEmpty (holds : piece.isEmpty = false) : 0 < size piece := by
  cases piece with
  | nil => cases holds
  | cons letter piece =>
      have positive := letter.utf8Size_pos
      rw [size_cons]
      omega

theorem blankWidth_lt_size (shows : (trim piece).isEmpty = false) :
    blankWidth piece < size piece := by
  have inside := (show piece.Holds 0 piece from ⟨[], [], by simp, rfl⟩).trim.offset_add_size_le
  have positive := size_pos_of_isEmpty shows
  omega

theorem start_le_of_mem_located {pieces : List Text}
    (member : (offset, piece) ∈ located start pieces) : start ≤ offset := by
  induction pieces generalizing start with
  | nil => cases member
  | cons first pieces inductionHypothesis =>
      rcases List.mem_cons.mp member with here | later
      · cases here
        exact le_rfl
      · have behind := inductionHypothesis later
        omega

theorem pairwise_located (start : Nat) (pieces : List Text) :
    (located start pieces).Pairwise fun one other => one.1 + size one.2 < other.1 := by
  induction pieces generalizing start with
  | nil => exact List.Pairwise.nil
  | cons first pieces inductionHypothesis =>
      refine List.pairwise_cons.mpr ⟨?_, inductionHypothesis _⟩
      rintro ⟨offset, piece⟩ later
      exact start_le_of_mem_located later

theorem pairwise_arguments (text : Text) :
    (arguments text).Pairwise fun one other => one.1 < other.1 := by
  refine (pairwise_located 0 (splitOutside ',' text)).filterMap _ ?_
  rintro ⟨start, piece⟩ ⟨start', piece'⟩ apart ⟨offset, argument⟩ trimmed ⟨offset', argument'⟩
    trimmed'
  simp only [Option.ite_none_left_eq_some, Option.some.injEq, Prod.mk.injEq] at trimmed trimmed'
  obtain ⟨shows, rfl, rfl⟩ := trimmed
  obtain ⟨_, rfl, rfl⟩ := trimmed'
  have inside := blankWidth_lt_size (Bool.eq_false_iff.mpr shows)
  simp only at apart ⊢
  omega

theorem isEmpty_of_mem_arguments (member : (offset, piece) ∈ arguments text) :
    piece.isEmpty = false := by
  obtain ⟨⟨start, whole⟩, _, trimmed⟩ := List.mem_filterMap.mp member
  simp only [Option.ite_none_left_eq_some, Option.some.injEq, Prod.mk.injEq] at trimmed
  obtain ⟨shows, _, rfl⟩ := trimmed
  exact Bool.eq_false_iff.mpr shows

end Text

namespace Cursor

theorem pairwise_callArguments (opening : Cursor) :
    opening.callArguments.Pairwise fun one other => one.1 < other.1 := by
  unfold callArguments
  split
  · exact List.Pairwise.nil
  · refine List.pairwise_map.mpr ((Text.pairwise_arguments _).imp ?_)
    intro one other apart
    exact Nat.add_lt_add_left apart _

/-- The arguments of a call start between its brackets. -/
theorem start_of_mem_callArguments {opening : Cursor} {offset : Nat} {argument : Text}
    (bracket : opening.rest.head? = some '(')
    (member : (offset, argument) ∈ opening.callArguments) :
    ∃ close, opening.matchingClose? = some close ∧
      opening.offset < offset ∧ offset < close.offset := by
  unfold callArguments at member
  split at member
  · cases member
  · rename_i close closed
    obtain ⟨⟨inset, argument⟩, listed, same⟩ := List.mem_map.mp member
    cases same
    have order := next_le_matchingClose? closed bracket rfl
    have behind := offset_lt_next bracket
    have span := offset_eq_add_textUpTo order
    have inside := (Text.holds_of_mem_arguments listed).offset_add_size_le
    have shows := Text.size_pos_of_isEmpty (Text.isEmpty_of_mem_arguments listed)
    exact ⟨close, closed, by omega, by omega⟩

end Cursor

section Operands

variable {start : Nat} {site : Site}

theorem splitOperands_ne_nil (text : Text) : splitOperands text ≠ [] := by
  fun_induction splitOperands text <;> simp_all

/-- Splitting a chain of operands only drops the signs between them. -/
theorem intercalate_splitOperands (text : Text) :
    ['>', '>'].intercalate (splitOperands text) = text := by
  fun_induction splitOperands text with
  | case1 => rfl
  | case2 rest inductionHypothesis =>
      rw [List.intercalate_cons_of_ne_nil (splitOperands_ne_nil rest), inductionHypothesis]
      rfl
  | case3 letter rest _ missing => exact absurd missing (splitOperands_ne_nil rest)
  | case4 letter rest _ piece pieces split inductionHypothesis =>
      rw [← inductionHypothesis, split]
      cases pieces with
      | nil => rfl
      | cons second pieces => simp [List.intercalate_cons_cons]

/-- The site of an operand covers a piece of the chain. -/
theorem holds_of_mem_operandSites {operands : List Text}
    (member : site ∈ operandSites start operands) :
    ∃ inset piece, site.span = argumentSpan (start + inset) piece ∧ piece.isEmpty = false ∧
      Text.Holds (['>', '>'].intercalate operands) inset piece := by
  induction operands generalizing start with
  | nil => cases member
  | cons first operands inductionHypothesis =>
      -- Behind the first operand and the sign stands a chain of the same form.
      have later : site ∈ operandSites (start + Text.size first + 2) operands →
          ∃ inset piece, site.span = argumentSpan (start + inset) piece ∧
            piece.isEmpty = false ∧
              Text.Holds (['>', '>'].intercalate (first :: operands)) inset piece := by
        intro member
        obtain ⟨inset, piece, span, shows, holds⟩ := inductionHypothesis member
        refine ⟨Text.size first + 2 + inset, piece, ?_, shows, ?_⟩
        · rw [span]
          simp only [Nat.add_assoc]
        · cases operands with
          | nil => cases member
          | cons second operands =>
              rw [List.intercalate_cons_cons]
              refine Text.Holds.inside ⟨first ++ ['>', '>'], [], ?_, ?_⟩ holds
              · rw [List.append_nil]
              · rw [Text.size_append]
                rfl
      unfold operandSites at member
      simp only at member
      split at member
      · exact later member
      · rename_i shows
        rcases List.mem_cons.mp member with rfl | member
        · refine ⟨Text.blankWidth first, Text.trim first, rfl, Bool.eq_false_iff.mpr shows, ?_⟩
          have whole : Text.Holds (['>', '>'].intercalate (first :: operands)) 0 first := by
            cases operands with
            | nil =>
                rw [List.intercalate_singleton]
                simpa using Text.holds_zero first []
            | cons second operands =>
                rw [List.intercalate_cons_cons, List.append_assoc]
                exact Text.holds_zero first _
          simpa using whole.trim
        · exact later member

theorem pairwise_operandSites (start : Nat) (operands : List Text) :
    (operandSites start operands).Pairwise fun one other => one.span.start < other.span.start := by
  induction operands generalizing start with
  | nil => exact List.Pairwise.nil
  | cons first operands inductionHypothesis =>
      unfold operandSites
      simp only
      split
      · exact inductionHypothesis _
      · rename_i shows
        refine List.pairwise_cons.mpr ⟨?_, inductionHypothesis _⟩
        intro site member
        obtain ⟨inset, piece, span, _, _⟩ := holds_of_mem_operandSites member
        have inside := Text.blankWidth_lt_size (Bool.eq_false_iff.mpr shows)
        rw [span]
        simp only [argumentSpan]
        omega

end Operands

/-! ## The sites of one match -/

section Match

variable {source masked : Text} {marks : List Char} {found : Match} {rule : ReadRule}
  {sites : List Site}

theorem Cursor.start_callSpan (start opening : Cursor) :
    (callSpan start opening).start = start.offset := rfl

theorem start_of_mem_destinationSites {site : Site} {leading : Nat}
    (bracket : found.last.rest.head? = some '(') (order : found.start ≤ found.last)
    (listed : site ∈ destinationSites found (found.last.callArguments.drop leading)) :
    found.start.offset ≤ site.span.start ∧
      site.span.start < (Cursor.callSpan found.start found.last).stop := by
  have ahead := Cursor.offset_le_of_le order
  unfold destinationSites at listed
  split at listed
  · rw [List.mem_singleton.mp listed]
    refine ⟨le_rfl, ?_⟩
    simp only [Cursor.callSpan]
    cases closed : found.last.matchingClose? with
    | none =>
        simp only [Option.getD_none]
        omega
    | some close =>
        have behind := Cursor.offset_le_of_le (Cursor.matchingClose?_eq_some closed).1
        simp only [Option.getD_some]
        omega
  · obtain ⟨⟨offset, argument⟩, destination, rfl⟩ := List.mem_map.mp listed
    obtain ⟨close, closed, behind, inside⟩ :=
      Cursor.start_of_mem_callArguments bracket (List.mem_of_mem_drop destination)
    simp only [argumentSpan, Cursor.callSpan, closed, Option.getD_some]
    omega

theorem pairwise_destinationSites (leading : Nat) :
    (destinationSites found (found.last.callArguments.drop leading)).Pairwise
      fun one other => one.span.start < other.span.start := by
  unfold destinationSites
  split
  · exact List.pairwise_singleton _ _
  · refine List.pairwise_map.mpr (.imp ?_ ((Cursor.pairwise_callArguments found.last).drop))
    exact fun apart => apart

/-- Every site of a match starts in its reach. -/
theorem ReadRule.start_of_mem_sites {site : Site} (opens : rule.Opens)
    (member : found ∈ rule.opening.findAll masked)
    (computed : rule.sites source masked marks found = .ok sites) (listed : site ∈ sites) :
    found.start.offset ≤ site.span.start ∧ site.span.start < (rule.reach found).stop := by
  cases rule with
  | call opening receiver prompt? stream? =>
      simp only [ReadRule.sites] at computed
      split at computed
      · obtain ⟨site', called, same⟩ := bind_eq_ok computed
        cases same
        rw [List.mem_singleton.mp listed, span_of_callSite called]
        exact ⟨le_rfl, Nat.lt_succ_self _⟩
      · cases computed
        cases listed
  | destinations opening leading stream? =>
      obtain ⟨bracket, order, _⟩ := bracket_of_mem_findAll opens member
      simp only [ReadRule.sites] at computed
      split at computed
      · cases computed
        exact start_of_mem_destinationSites bracket order listed
      · cases computed
        cases listed
  | extraction opening =>
      cases computed
      obtain ⟨inset, piece, span, shows, holds⟩ := holds_of_mem_operandSites listed
      rw [intercalate_splitOperands] at holds
      have lies := Pattern.liesBehind_of_mem_findAll member
      have order := Cursor.offset_le_of_le lies.stop
      have inside := holds.offset_add_size_le
      have positive := Text.size_pos_of_isEmpty shows
      have stop : (ReadRule.reach found (.extraction opening)).stop =
          found.stop.offset + Text.size (found.stop.rest.takeWhile (· ≠ ';')) := by
        simp only [ReadRule.reach, Cursor.spanUpTo, Cursor.offset, Cursor.skipWhile,
          Text.size_append, Text.size_reverse]
        exact Nat.add_comm _ _
      rw [span, stop]
      simp only [argumentSpan]
      omega

/-- The sites of a match lie in the masked source. -/
theorem ReadRule.liesIn_of_mem_sites {site : Site} (opens : rule.Opens)
    (member : found ∈ rule.opening.findAll masked)
    (computed : rule.sites source masked marks found = .ok sites) (listed : site ∈ sites) :
    site.span.LiesIn masked := by
  cases rule with
  | call opening receiver prompt? stream? =>
      obtain ⟨bracket, order, text⟩ := bracket_of_mem_findAll opens member
      have lies := Cursor.liesIn_callSpan bracket order
      rw [text] at lies
      simp only [ReadRule.sites] at computed
      split at computed
      · obtain ⟨site', called, same⟩ := bind_eq_ok computed
        cases same
        rw [List.mem_singleton.mp listed, span_of_callSite called]
        exact lies
      · cases computed
        cases listed
  | destinations opening leading stream? =>
      obtain ⟨bracket, order, text⟩ := bracket_of_mem_findAll opens member
      have lies := Cursor.liesIn_callSpan bracket order
      rw [text] at lies
      simp only [ReadRule.sites] at computed
      split at computed
      · cases computed
        unfold destinationSites at listed
        split at listed
        · rw [List.mem_singleton.mp listed]
          exact lies
        · obtain ⟨⟨start, argument⟩, destination, rfl⟩ := List.mem_map.mp listed
          have holds := holds_of_mem_callArguments opens member (List.mem_of_mem_drop destination)
          exact ⟨argument, holds, rfl⟩
      · cases computed
        cases listed
  | extraction opening =>
      cases computed
      obtain ⟨inset, piece, span, _, holds⟩ := holds_of_mem_operandSites listed
      rw [intercalate_splitOperands] at holds
      have lies := Pattern.liesBehind_of_mem_findAll member
      have chain := Cursor.holds_textUpTo (Cursor.le_skipWhile (· ≠ ';') found.stop)
      rw [Cursor.textUpTo_skipWhile, ← Cursor.text_eq_of_le lies.stop, lies.text] at chain
      rw [span]
      exact ⟨piece, chain.inside holds, rfl⟩

/-- The sites of a match start one behind the other. -/
theorem ReadRule.pairwise_sites (computed : rule.sites source masked marks found = .ok sites) :
    sites.Pairwise fun one other => one.span.start < other.span.start := by
  cases rule with
  | call opening receiver prompt? stream? =>
      simp only [ReadRule.sites] at computed
      split at computed
      · obtain ⟨site, _, same⟩ := bind_eq_ok computed
        cases same
        exact List.pairwise_singleton _ _
      · cases computed
        exact List.Pairwise.nil
  | destinations opening leading stream? =>
      simp only [ReadRule.sites] at computed
      split at computed
      · cases computed
        exact pairwise_destinationSites leading
      · cases computed
        exact List.Pairwise.nil
  | extraction opening =>
      cases computed
      exact pairwise_operandSites _ _

end Match

/-! ## The sites of all matches -/

section Claims

variable {Member : Type}

theorem pairwise_eraseDupsBy (same : Member → Member → Bool) :
    ∀ members : List Member,
      (members.eraseDupsBy same).Pairwise fun one other => same other one = false
  | [] => List.Pairwise.nil
  | first :: members => by
      rw [List.eraseDupsBy_cons]
      refine List.pairwise_cons.mpr ⟨?_, pairwise_eraseDupsBy same _⟩
      intro other kept
      have kept := List.mem_filter.mp (mem_of_mem_eraseDupsBy same other _ kept)
      exact of_decide_eq_true kept.2
  termination_by members => members.length
  decreasing_by exact Nat.lt_succ_of_le (List.length_filter_le _ members)

theorem pairwise_claims (masked : Text) (opening : Member → Pattern) (rules : List Member) :
    (claims masked opening rules).Pairwise fun one other =>
      one.2.start.offset ≠ other.2.start.offset := by
  refine (pairwise_eraseDupsBy _ _).imp ?_
  intro one other different same
  rw [same, beq_self_eq_true] at different
  cases different

end Claims

variable {source masked : Text} {marks : List Char} {rules : List ReadRule} {sites : List Site}

theorem liesIn_of_readSites {site : Site} (opens : ∀ rule ∈ rules, rule.Opens)
    (found : readSites source masked marks rules = .ok sites) (listed : site ∈ sites) :
    site.span.LiesIn masked := by
  obtain ⟨pieces, computed, sorted⟩ := bind_eq_ok found
  cases sorted
  obtain ⟨piece, member, inside⟩ := List.mem_flatten.mp (List.mem_mergeSort.mp listed)
  obtain ⟨⟨rule, hit⟩, claimed, matched⟩ := exists_of_mem_mapM computed member
  obtain ⟨rule', hits⟩ := mem_findAll_of_mem_claims claimed
  exact ReadRule.liesIn_of_mem_sites (opens rule rule') hits matched inside

/-- If no match lies in the reach of another, sites start at different places. -/
theorem pairwise_lt_of_readSites (opens : ∀ rule ∈ rules, rule.Opens)
    (apart : Unswallowed (claims masked ReadRule.opening rules))
    (found : readSites source masked marks rules = .ok sites) :
    sites.Pairwise fun one other => one.span.start < other.span.start := by
  have inOrder := pairwise_of_readSites found
  obtain ⟨pieces, computed, sorted⟩ := bind_eq_ok found
  cases sorted
  have starts : ∀ claim ∈ claims masked ReadRule.opening rules, ∀ piece,
      claim.1.sites source masked marks claim.2 = .ok piece → ∀ site ∈ piece,
        claim.2.start.offset ≤ site.span.start ∧
          site.span.start < (claim.1.reach claim.2).stop := by
    rintro ⟨rule, hit⟩ claimed piece made site listed
    obtain ⟨member, matched⟩ := mem_findAll_of_mem_claims claimed
    exact ReadRule.start_of_mem_sites (opens rule member) matched made listed
  have different : pieces.flatten.Pairwise fun one other =>
      one.span.start ≠ other.span.start := by
    refine List.pairwise_flatten.mpr ⟨?_, ?_⟩
    · intro piece listed
      obtain ⟨claim, _, made⟩ := exists_of_mem_mapM computed listed
      exact (ReadRule.pairwise_sites made).imp Nat.ne_of_lt
    · refine pairwise_of_mapM computed (pairwise_claims masked ReadRule.opening rules) ?_
      intro one listed other listed' piece piece' made made' distinct site inside site' inside'
      have reach := starts one listed piece made site inside
      have reach' := starts other listed' piece' made' site' inside'
      rcases Nat.lt_or_gt_of_ne distinct with before | behind
      · have := apart one listed other listed' before
        omega
      · have := apart other listed' one listed behind
        omega
  have sortedDifferent := (List.mergeSort_perm pieces.flatten
    fun one other => one.span.start ≤ other.span.start).symm.pairwise different
      fun apart => Ne.symm apart
  exact (inOrder.and sortedDifferent).imp fun both => lt_of_le_of_ne both.1 both.2

/-- Calls that read one value each are never in the way of one another. -/
theorem unswallowed_of_calls
    (areCalls : ∀ rule ∈ rules, ∃ opening receiver prompt? stream?,
      rule = .call opening receiver prompt? stream?) :
    Unswallowed (claims masked ReadRule.opening rules) := by
  rintro ⟨rule, hit⟩ claimed other _ before
  obtain ⟨opening, receiver, prompt?, stream?, rfl⟩ :=
    areCalls rule (mem_findAll_of_mem_claims claimed).1
  exact before

end InputDemand
