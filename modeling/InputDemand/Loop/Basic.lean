import InputDemand.Text.Integer

/-!
# Loops and their trip counts

A loop runs as often as its trip count says.  The count is an expression over one bound, which is
a number, a name whose value the program reads or assigns, or something the text does not tell.
-/

namespace InputDemand

/-- What decides how often a loop runs. -/
inductive Bound where
  | literal (value : Int)
  /-- A name that gets its value from input or from an assignment. -/
  | name (identifier : Text)
  /-- An expression whose value the source does not tell. -/
  | unknown (expression : Text)
deriving DecidableEq, Repr

def Bound.text : Bound → Text
  | literal value => Text.ofInt value
  | name identifier => identifier
  | unknown expression => expression

/-- A count: the bound's value plus `offset`, not below zero, divided by `stride` and rounded up. -/
structure Trip where
  bound : Bound
  offset : Int
  stride : Nat
deriving DecidableEq, Repr

namespace Trip

def literal (count : Int) : Trip :=
  ⟨.literal count, 0, 1⟩

def unknown (expression : Text) : Trip :=
  ⟨.unknown expression, 0, 1⟩

/-- The number of iterations once the bound has a value.  The sum is kept within 64 bits. -/
def iterations (trip : Trip) (value : Int) : Nat :=
  let distance := (min (max (value + trip.offset) minSigned) maxSigned).toNat
  let stride := max trip.stride 1
  (distance + stride - 1) / stride

end Trip

inductive Direction where
  | ascending
  | descending
deriving DecidableEq, Repr

/-- How a loop decides to go on. -/
inductive LoopKind where
  | counter
  | collection
  /-- By a condition behind its body, which therefore runs at least once. -/
  | bodyFirst
deriving DecidableEq, Repr

structure Loop where
  kind : LoopKind
  trip : Trip
  direction : Direction
  /-- The counter or element variable, if the header names one. -/
  counter? : Option Text
  /-- The collection that is gone through. -/
  collection? : Option Text
  header : Span
  /-- The body, if it could be delimited. -/
  body? : Option Span
deriving DecidableEq, Repr

namespace Loop

def shift (loop : Loop) (base : Nat) : Loop :=
  { loop with
    header := loop.header.shift base
    body? := loop.body?.map (·.shift base) }

/-- The end of the loop: of its body or of its header, whichever comes later. -/
def stop (loop : Loop) : Nat :=
  match loop.body? with
  | none => loop.header.stop
  | some body => max body.stop loop.header.stop

end Loop

end InputDemand
