import InputDemand.Proofs.Loop.Expression

/-!
# How often a counter passes

A counter that starts at a value, is compared with a limit and moves by a step makes so many passes,
over the integers without bounds.  The count of a header is this number whenever its bound is known:
the passes number `index`, `index + 1`, … are made as long as `index` strides stay below the distance
of the two ends.
-/

namespace InputDemand

/-! ## Loops with a counter -/

/-- The values that a counter takes in a loop with the test in front: so many, from a value on, as
long as the test holds. -/
inductive Takes (goesOn : Int → Prop) (move : Int) : Int → Nat → Prop
  | stop {counter : Int} : ¬ goesOn counter → Takes goesOn move counter 0
  | next {counter : Int} {count : Nat} : goesOn counter →
      Takes goesOn move (counter + move) count → Takes goesOn move counter (count + 1)

/-- The passes of a loop with the test behind its body: so many, from a value of the counter on. -/
inductive TakesBodyFirst (goesOn : Int → Prop) (move : Int) : Int → Nat → Prop
  | last {counter : Int} : ¬ goesOn (counter + move) → TakesBodyFirst goesOn move counter 1
  | next {counter : Int} {count : Nat} : goesOn (counter + move) →
      TakesBodyFirst goesOn move (counter + move) count →
      TakesBodyFirst goesOn move counter (count + 1)

section Loops

variable {goesOn : Int → Prop} {move first : Int} {count : Nat}

theorem counter_succ (first move : Int) (index : Nat) :
    first + move + index * move = first + (index + 1 : Nat) * move := by
  rw [Int.natCast_add, Int.add_mul, Int.natCast_one, Int.one_mul, Int.add_assoc,
    Int.add_comm move]

/-- The test holds for all values that the counter takes, and then no more. -/
theorem takes_iff :
    Takes goesOn move first count ↔
      (∀ index : Nat, index < count → goesOn (first + index * move)) ∧
        ¬ goesOn (first + count * move) := by
  induction count generalizing first with
  | zero =>
      have here : first + ((0 : Nat) : Int) * move = first := by simp
      rw [here]
      constructor
      · rintro (stopped | _)
        exact ⟨fun index before => absurd before (Nat.not_lt_zero index), stopped⟩
      · rintro ⟨_, stopped⟩
        exact .stop stopped
  | succ count inductionHypothesis =>
      constructor
      · rintro (_ | ⟨here, rest⟩)
        obtain ⟨goes, stopped⟩ := inductionHypothesis.mp rest
        rw [counter_succ] at stopped
        refine ⟨fun index before => ?_, stopped⟩
        cases index with
        | zero => simpa using here
        | succ index =>
            rw [← counter_succ]
            exact goes index (Nat.lt_of_succ_lt_succ before)
      · rintro ⟨goes, stopped⟩
        refine .next (by simpa using goes 0 (Nat.succ_pos count)) ?_
        refine inductionHypothesis.mpr ⟨fun index before => ?_, ?_⟩
        · rw [counter_succ]
          exact goes (index + 1) (Nat.succ_lt_succ before)
        · rw [counter_succ]
          exact stopped

/-- Behind its first pass a loop with the test behind its body is one with the test in front. -/
theorem takesBodyFirst_iff :
    TakesBodyFirst goesOn move first count ↔
      ∃ more, count = more + 1 ∧ Takes goesOn move (first + move) more := by
  constructor
  · intro taken
    induction taken with
    | last stopped => exact ⟨0, rfl, .stop stopped⟩
    | next goes _ inductionHypothesis =>
        obtain ⟨more, rfl, rest⟩ := inductionHypothesis
        exact ⟨more + 1, rfl, .next goes rest⟩
  · rintro ⟨more, rfl, taken⟩
    induction more generalizing first with
    | zero =>
        cases taken with
        | stop stopped => exact .last stopped
    | succ more inductionHypothesis =>
        cases taken with
        | next goes rest => exact .next goes (inductionHypothesis rest)

/-- A counter whose test holds for the first `passes` values takes these. -/
theorem takes_iff_eq {passes : Nat}
    (holds : ∀ index : Nat, goesOn (first + index * move) ↔ index < passes) :
    Takes goesOn move first count ↔ count = passes := by
  rw [takes_iff]
  simp only [holds]
  constructor
  · rintro ⟨within, stopped⟩
    refine Nat.le_antisymm (Nat.not_lt.mp fun more => ?_) (Nat.not_lt.mp stopped)
    exact absurd (within passes more) (Nat.lt_irrefl passes)
  · rintro rfl
    exact ⟨fun _ within => within, Nat.lt_irrefl count⟩

theorem takesBodyFirst_iff_eq {passes : Nat}
    (holds : ∀ index : Nat, goesOn (first + index * move) ↔ index < passes) :
    TakesBodyFirst goesOn move first count ↔ count = max 1 passes := by
  have later : ∀ index : Nat, goesOn (first + move + index * move) ↔ index < passes - 1 := by
    intro index
    rw [counter_succ, holds]
    omega
  rw [takesBodyFirst_iff]
  simp only [takes_iff_eq later]
  constructor
  · rintro ⟨more, rfl, rfl⟩
    omega
  · intro same
    exact ⟨passes - 1, by omega, rfl⟩

/-- A counter that must not meet its limit takes the values in front of it. -/
theorem takes_ne_iff {limit : Int} {passes : Nat} (moves : move ≠ 0)
    (meets : limit = first + passes * move) :
    Takes (fun counter => counter ≠ limit) move first count ↔ count = passes := by
  have holds : ∀ index : Nat, first + index * move ≠ limit ↔ index ≠ passes := by
    intro index
    rw [meets]
    constructor
    · rintro differs rfl
      exact differs rfl
    · intro differs same
      have scaled : (index : Int) * move = passes * move := by omega
      exact differs (Int.ofNat.inj (Int.eq_of_mul_eq_mul_right moves scaled))
  rw [takes_iff]
  simp only [holds]
  constructor
  · rintro ⟨_, stopped⟩
    exact Decidable.not_not.mp stopped
  · rintro rfl
    exact ⟨fun index within => Nat.ne_of_lt within, fun differs => differs rfl⟩

end Loops

/-! ## Counts -/

/-- A pass is counted as long as so many strides stay below the distance. -/
theorem Trip.lt_iterations {trip : Trip} {value : Int} (strides : trip.stride ≠ 0)
    (fits : value + trip.offset ≤ maxSigned) (index : Nat) :
    index < trip.iterations value ↔ (index : Int) * trip.stride < value + trip.offset := by
  have positive : 0 < trip.stride := Nat.pos_of_ne_zero strides
  have stride : max trip.stride 1 = trip.stride := by omega
  -- Below, where the sum saturates as well, no pass is left anyway.
  have distance : (min (max (value + trip.offset) minSigned) maxSigned).toNat =
      (value + trip.offset).toNat := by
    simp only [minSigned, maxSigned] at fits ⊢
    omega
  rw [Trip.iterations, stride, distance]
  generalize value + trip.offset = distance
  have scaled : (index : Int) * trip.stride = ((index * trip.stride : Nat) : Int) := by
    push_cast
    rfl
  rw [scaled, Nat.lt_iff_add_one_le, Nat.le_div_iff_mul_le positive, Nat.succ_mul]
  omega

/-- Whether a value is that of a bound when names have some values. -/
def Bound.HasValue (valueOf : Text → Int) (value : Int) : Bound → Prop
  | literal number => value = number
  | name identifier => value = valueOf identifier
  | unknown _ => False

/-- Whether the value of the name in a count, if there is one, leaves the sum within 64 bits. -/
def Trip.Fits (valueOf : Text → Int) (trip : Trip) : Prop :=
  ∀ name, trip.bound = .name name → valueOf name + trip.offset ≤ maxSigned

theorem le_maxSigned_of_signed? {value number : Int} (fits : signed? value = some number) :
    number ≤ maxSigned := by
  unfold signed? at fits
  split at fits
  · rename_i fit
    cases fits
    exact of_decide_eq_true (Bool.and_eq_true_iff.mp fit).2
  · cases fits

section Between

variable {near far : Text} {extra value : Int} {stride : Nat} {valueOf : Text → Int}

/-- A count that is not unknown states the distance between a number and a linear form. -/
theorem exists_of_tripBetween
    (known : ∀ expression, (tripBetween near far extra stride).bound ≠ .unknown expression) :
    ∃ first name? constant, Linear.ofText? near = some ⟨none, first⟩ ∧
      Linear.ofText? far = some ⟨name?, constant⟩ ∧ constant - first + extra ≤ maxSigned ∧
      tripBetween near far extra stride =
        match name? with
        | none => ⟨.literal (constant - first + extra), 0, stride⟩
        | some name => ⟨.name name, constant - first + extra, stride⟩ := by
  unfold tripBetween at known ⊢
  dsimp only at known ⊢
  split at known
  · rename_i first name? constant nearRead farRead
    split at known
    · exact absurd rfl (known _)
    · rename_i distance sum
      obtain ⟨difference, fitsDifference, fits⟩ := Option.bind_eq_some_iff.mp sum
      have small := le_maxSigned_of_signed? fits
      have exactly : distance = constant - first + extra := by
        rw [eq_of_signed? fits, eq_of_signed? fitsDifference]
      subst exactly
      exact ⟨first, name?, constant, nearRead, farRead, small, rfl⟩
  · exact absurd rfl (known _)

/-- With its bound known, a count is the distance from the near end to the far end. -/
theorem value_tripBetween
    (known : (tripBetween near far extra stride).bound.HasValue valueOf value)
    (fits : (tripBetween near far extra stride).Fits valueOf) :
    ∃ first last, Linear.ofText? near = some ⟨none, first⟩ ∧ Linear.ofText? far = some last ∧
      (tripBetween near far extra stride).stride = stride ∧
      value + (tripBetween near far extra stride).offset = last.valueAt valueOf - first + extra ∧
      value + (tripBetween near far extra stride).offset ≤ maxSigned := by
  obtain ⟨first, name?, constant, nearRead, farRead, small, trip⟩ :=
    exists_of_tripBetween fun expression unknown => by
      rw [unknown] at known
      exact known
  refine ⟨first, ⟨name?, constant⟩, nearRead, farRead, ?_⟩
  cases name? with
  | none =>
      rw [trip] at known ⊢
      cases known
      exact ⟨rfl, by rw [Int.add_zero, Linear.valueAt_none], by rwa [Int.add_zero]⟩
  | some name =>
      rw [trip] at known fits ⊢
      cases known
      refine ⟨rfl, ?_, fits name rfl⟩
      rw [Linear.valueAt_some]
      dsimp only
      omega

end Between

/-! ## Comparisons and steps -/

/-- How a counter has to stand to its limit for a loop to go on. -/
def Comparison.Holds : Comparison → Int → Int → Prop
  | less, counter, limit => counter < limit
  | lessOrEqual, counter, limit => counter ≤ limit
  | greater, counter, limit => counter > limit
  | greaterOrEqual, counter, limit => counter ≥ limit
  | notEqual, counter, limit => counter ≠ limit

def Step.move : Step → Int
  | up amount => amount
  | down amount => -amount

def Step.amount : Step → Nat
  | up amount => amount
  | down amount => amount

/-- How far it is from one value to another in the direction of a step. -/
def Step.distance (first last : Int) : Step → Int
  | up _ => last - first
  | down _ => first - last

/-- A step has the direction that a comparison needs; an inequality leaves both open. -/
inductive Comparison.Agrees : Comparison → Step → Prop
  | less {amount : Nat} : Agrees less (.up amount)
  | lessOrEqual {amount : Nat} : Agrees lessOrEqual (.up amount)
  | greater {amount : Nat} : Agrees greater (.down amount)
  | greaterOrEqual {amount : Nat} : Agrees greaterOrEqual (.down amount)
  | notEqual {step : Step} : Agrees notEqual step

/-- What an inclusive end adds to a distance. -/
def Comparison.extra : Comparison → Int
  | lessOrEqual | greaterOrEqual => 1
  | less | greater | notEqual => 0

/-- The trip count of a counter, from the near end in the direction of its step. -/
def Step.trip (start limit : Text) (extra : Int) : Step → Trip
  | up stride => tripBetween start limit extra stride
  | down stride => tripBetween limit start extra stride

section Headers

variable {start limit : Text} {comparison : Comparison} {step : Step} {count : Count}

theorem agrees_of_countTo? (counted : countTo? start comparison limit step = some count) :
    comparison.Agrees step ∧ step.amount ≠ 0 := by
  have moves : step.amount ≠ 0 := by
    intro zero
    cases step <;> cases zero <;> cases comparison <;> cases counted
  refine ⟨?_, moves⟩
  unfold countTo? at counted
  split at counted
  · cases counted
  · cases counted
  · exact .less
  · exact .notEqual
  · exact .lessOrEqual
  · exact .greater
  · exact .notEqual
  · exact .greaterOrEqual
  · cases counted

theorem countTo?_of_agrees (agrees : comparison.Agrees step) (moves : step.amount ≠ 0) :
    ∃ direction, countTo? start comparison limit step =
      some ⟨step.trip start limit comparison.extra, direction⟩ := by
  cases step with
  | up amount =>
      obtain ⟨less, rfl⟩ := Nat.exists_eq_succ_of_ne_zero moves
      cases agrees <;> exact ⟨.ascending, rfl⟩
  | down amount =>
      obtain ⟨less, rfl⟩ := Nat.exists_eq_succ_of_ne_zero moves
      cases agrees <;> exact ⟨.descending, rfl⟩

/-- A header states no count if its step does not agree with the comparison, or is zero. -/
theorem countTo?_eq_none_iff :
    countTo? start comparison limit step = none ↔ ¬ comparison.Agrees step ∨ step.amount = 0 := by
  constructor
  · intro refused
    rw [← Decidable.not_not (p := step.amount = 0), ← not_and_or]
    rintro ⟨agrees, moves⟩
    obtain ⟨direction, counted⟩ := @countTo?_of_agrees start limit _ _ agrees moves
    cases refused.symm.trans counted
  · intro refused
    cases counted : countTo? start comparison limit step with
    | none => rfl
    | some count =>
        obtain ⟨agrees, moves⟩ := agrees_of_countTo? counted
        exact absurd refused (not_or.mpr ⟨not_not.mpr agrees, moves⟩)

theorem trip_of_countTo? (counted : countTo? start comparison limit step = some count) :
    count.trip = step.trip start limit comparison.extra := by
  obtain ⟨agrees, moves⟩ := agrees_of_countTo? counted
  obtain ⟨direction, stated⟩ := @countTo?_of_agrees start limit _ _ agrees moves
  cases counted.symm.trans stated
  rfl

end Headers

/-- As long as a counter is compared by its order, it goes on while so many of its strides stay
below the distance. -/
theorem Comparison.holds_iff {comparison : Comparison} {step : Step}
    (agrees : comparison.Agrees step) (ordered : comparison ≠ .notEqual) (first last : Int)
    (index : Nat) :
    comparison.Holds (first + index * step.move) last ↔
      (index : Int) * step.amount < step.distance first last + comparison.extra := by
  cases agrees with
  | less | lessOrEqual =>
      simp only [Comparison.Holds, Step.move, Step.amount, Step.distance, Comparison.extra]
      omega
  | greater | greaterOrEqual =>
      simp only [Comparison.Holds, Step.move, Step.amount, Step.distance, Comparison.extra,
        Int.mul_neg]
      omega
  | notEqual => exact absurd rfl ordered

/-- What a header with a known count says: its texts denote two values, and for each the passes
counted are those made. -/
theorem lt_iterations_of_countTo? {start limit : Text} {comparison : Comparison} {step : Step}
    {count : Count} {valueOf : Text → Int} {value : Int}
    (counted : countTo? start comparison limit step = some count)
    (known : count.trip.bound.HasValue valueOf value) (fits : count.trip.Fits valueOf) :
    ∃ first last, (∀ other, Denotes valueOf start other ↔ other = first) ∧
      (∀ other, Denotes valueOf limit other ↔ other = last) ∧
      ∀ index : Nat, index < count.trip.iterations value ↔
        (index : Int) * step.amount < step.distance first last + comparison.extra := by
  have moves := (agrees_of_countTo? counted).2
  rw [trip_of_countTo? counted] at known fits ⊢
  cases step with
  | up amount =>
      obtain ⟨first, last, nearRead, farRead, stride, distance, small⟩ :=
        value_tripBetween known fits
      refine ⟨first, last.valueAt valueOf, Linear.denotes_iff nearRead, Linear.denotes_iff farRead,
        fun index => ?_⟩
      exact (Trip.lt_iterations (by rw [stride]; exact moves) small index).trans
        (by rw [stride, distance]; rfl)
  | down amount =>
      obtain ⟨last, first, nearRead, farRead, stride, distance, small⟩ :=
        value_tripBetween known fits
      refine ⟨first.valueAt valueOf, last, Linear.denotes_iff farRead, Linear.denotes_iff nearRead,
        fun index => ?_⟩
      exact (Trip.lt_iterations (by rw [stride]; exact moves) small index).trans
        (by rw [stride, distance]; rfl)

end InputDemand
