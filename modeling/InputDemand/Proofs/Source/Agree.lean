import InputDemand.Text.Basic

/-!
# Computations that agree

Cutting a source may be refused, so what is computed from a source may fail.  Two computations agree
up to a view if neither fails and the view shows the same of both results.
-/

namespace InputDemand

variable {Result Other View Shown : Type}

/-- Two computations succeed, and a view shows the same of their results. -/
def Agree (view : Result → View) (one other : Except Misplaced Result) : Prop :=
  ∃ first second, one = .ok first ∧ other = .ok second ∧ view first = view second

@[simp]
theorem ok_bind (result : Result) (next : Result → Except Misplaced Other) :
    (Except.ok result >>= next) = next result := rfl

theorem exists_ok_bind {first : Except Misplaced Result}
    {next : Result → Except Misplaced Other} (succeeds : ∃ result, first = .ok result)
    (goesOn : ∀ result, first = .ok result → ∃ other, next result = .ok other) :
    ∃ other, (first >>= next) = .ok other := by
  obtain ⟨result, rfl⟩ := succeeds
  exact goesOn result rfl

theorem bind_eq_ok {first : Except Misplaced Result} {next : Result → Except Misplaced Other}
    {other : Other} (succeeds : (first >>= next) = .ok other) :
    ∃ result, first = .ok result ∧ next result = .ok other := by
  cases first with
  | error misplaced => cases succeeds
  | ok result => exact ⟨result, rfl, succeeds⟩

theorem exists_of_mem_mapM {Member : Type} {compute : Member → Except Misplaced Result}
    {members : List Member} {results : List Result} {result : Result}
    (succeeds : members.mapM compute = .ok results) (listed : result ∈ results) :
    ∃ member ∈ members, compute member = .ok result := by
  induction members generalizing results with
  | nil =>
      cases succeeds
      cases listed
  | cons member members inductionHypothesis =>
      rw [List.mapM_cons] at succeeds
      obtain ⟨first, computed, succeeds⟩ := bind_eq_ok succeeds
      obtain ⟨others, later, succeeds⟩ := bind_eq_ok succeeds
      cases succeeds
      rcases List.mem_cons.mp listed with rfl | listed
      · exact ⟨member, List.mem_cons_self, computed⟩
      · obtain ⟨origin, origins, computed⟩ := inductionHypothesis later listed
        exact ⟨origin, List.mem_cons_of_mem member origins, computed⟩

theorem pairwise_of_mapM {Member : Type} {compute : Member → Except Misplaced Result}
    {members : List Member} {results : List Result} {related : Member → Member → Prop}
    {shown : Result → Result → Prop} (succeeds : members.mapM compute = .ok results)
    (apart : members.Pairwise related)
    (keeps : ∀ one ∈ members, ∀ other ∈ members, ∀ first second, compute one = .ok first →
      compute other = .ok second → related one other → shown first second) :
    results.Pairwise shown := by
  induction members generalizing results with
  | nil =>
      cases succeeds
      exact List.Pairwise.nil
  | cons member members inductionHypothesis =>
      rw [List.mapM_cons] at succeeds
      obtain ⟨first, computed, succeeds⟩ := bind_eq_ok succeeds
      obtain ⟨others, later, succeeds⟩ := bind_eq_ok succeeds
      cases succeeds
      obtain ⟨here, apart⟩ := List.pairwise_cons.mp apart
      refine List.pairwise_cons.mpr ⟨?_, inductionHypothesis later apart ?_⟩
      · intro second listed
        obtain ⟨origin, origins, computed'⟩ := exists_of_mem_mapM later listed
        exact keeps member List.mem_cons_self origin (List.mem_cons_of_mem member origins) first
          second computed computed' (here origin origins)
      · intro one listed other listed'
        exact keeps one (List.mem_cons_of_mem member listed) other
          (List.mem_cons_of_mem member listed')

theorem map_of_mapM {Member View : Type} {compute : Member → Except Misplaced Result}
    {members : List Member} {results : List Result} {before : Member → View}
    {behind : Result → View}
    (succeeds : members.mapM compute = .ok results)
    (keeps : ∀ member result, compute member = .ok result → behind result = before member) :
    results.map behind = members.map before := by
  induction members generalizing results with
  | nil =>
      cases succeeds
      rfl
  | cons member members inductionHypothesis =>
      rw [List.mapM_cons] at succeeds
      obtain ⟨first, computed, succeeds⟩ := bind_eq_ok succeeds
      obtain ⟨others, later, succeeds⟩ := bind_eq_ok succeeds
      cases succeeds
      rw [List.map_cons, List.map_cons, keeps member first computed, inductionHypothesis later]

namespace Agree

variable {view : Result → View} {shown : Other → Shown} {one other : Except Misplaced Result}

theorem ok {first second : Result} (same : view first = view second) :
    Agree view (.ok first) (.ok second) :=
  ⟨first, second, rfl, rfl, same⟩

theorem bind {next next' : Result → Except Misplaced Other} (agree : Agree view one other)
    (goOn : ∀ first second, one = .ok first → other = .ok second → view first = view second →
      Agree shown (next first) (next' second)) :
    Agree shown (one >>= next) (other >>= next') := by
  obtain ⟨first, second, rfl, rfl, same⟩ := agree
  exact goOn first second rfl rfl same

theorem of_exists {one other : Except Misplaced Result} (first : ∃ result, one = .ok result)
    (second : ∃ result, other = .ok result) : Agree (fun _ => ()) one other := by
  obtain ⟨result, rfl⟩ := first
  obtain ⟨result', rfl⟩ := second
  exact ok rfl

theorem map {change change' : Result → Other} (agree : Agree view one other)
    (same : ∀ first second, view first = view second →
      shown (change first) = shown (change' second)) :
    Agree shown (change <$> one) (change' <$> other) := by
  obtain ⟨first, second, rfl, rfl, equal⟩ := agree
  exact ok (same first second equal)

theorem exists_ok (agree : Agree id one other) :
    ∃ result, one = .ok result ∧ other = .ok result := by
  obtain ⟨first, second, succeeds, succeeds', same⟩ := agree
  exact ⟨first, succeeds, by rw [succeeds', show second = first from same.symm]⟩

/-- Computations about the members of two lists that look alike agree if those about members that
look alike do. -/
theorem mapM_of_map_eq {Member Look : Type} {look : Member → Look}
    {members members' : List Member} {one other : Member → Except Misplaced Result}
    (alike : members.map look = members'.map look)
    (agree : ∀ member ∈ members, ∀ member' ∈ members', look member = look member' →
      Agree view (one member) (other member')) :
    Agree (List.map view) (members.mapM one) (members'.mapM other) := by
  induction members generalizing members' with
  | nil =>
      rw [List.map_eq_nil_iff.mp (show members'.map look = [] from alike.symm)]
      exact ok rfl
  | cons member members inductionHypothesis =>
      cases members' with
      | nil => cases alike
      | cons member' members' =>
          obtain ⟨same, sames⟩ := List.cons_eq_cons.mp alike
          rw [List.mapM_cons, List.mapM_cons]
          refine (agree member List.mem_cons_self member' List.mem_cons_self same).bind ?_
          intro first second _ _ equal
          have later := inductionHypothesis sames fun another listed another' listed' =>
            agree another (List.mem_cons_of_mem member listed) another'
              (List.mem_cons_of_mem member' listed')
          refine later.bind ?_
          intro firsts seconds _ _ equals
          refine ok ?_
          rw [List.map_cons, List.map_cons, equal, equals]

theorem mapM {Member : Type} {members : List Member} {one other : Member → Except Misplaced Result}
    (agree : ∀ member ∈ members, Agree view (one member) (other member)) :
    Agree (List.map view) (members.mapM one) (members.mapM other) := by
  refine mapM_of_map_eq (congrArg (List.map id) (Eq.refl members)) ?_
  intro member listed member' _ same
  rw [← show member = member' from same]
  exact agree member listed

end Agree

end InputDemand
