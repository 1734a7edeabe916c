import InputDemand.Recognition.Loops

/-!
# The outline of a program

At most one main loop, at most one loop nested in it, every reading site with its place relative to
the two, and the assignments of numbers to names that are never read.
-/

namespace InputDemand

/-- A site with its place relative to the main loop. -/
structure PlacedSite extends Site where
  /-- Whether the site lies in the body of the main loop. -/
  inLoop : Bool
  /-- Whether it lies in the body of the nested loop as well. -/
  inNested : Bool
  /-- Its number among the sites in the body of the main loop, counted from zero. -/
  ordinal? : Option Nat
deriving DecidableEq, Repr

namespace PlacedSite

def start (site : PlacedSite) : Nat :=
  site.span.start

def outside (site : Site) : PlacedSite :=
  ⟨site, false, false, none⟩

end PlacedSite

/-- What a program reads, and in which loops. -/
structure Outline where
  mainLoop? : Option Loop
  /-- The loop inside the main loop's body, in positions of the whole source. -/
  nestedLoop? : Option Loop
  /-- In source order. -/
  sites : List PlacedSite
  /-- In source order; no site has one of their names as its target. -/
  bindings : List Binding
deriving DecidableEq, Repr

namespace Outline

def loopReads (outline : Outline) : Nat :=
  (outline.sites.filter PlacedSite.inLoop).length

/-- The number that was last assigned to a name in front of a position. -/
def valueBefore? (outline : Outline) (name : Text) (offset : Nat) : Option Int :=
  (outline.bindings.reverse.find? fun binding => binding.name = name && binding.offset < offset).map
    Binding.value

end Outline

/-- Whether a position lies in the body of a loop, if there is a loop with a body. -/
def inBody (loop? : Option Loop) (offset : Nat) : Bool :=
  (loop?.bind Loop.body?).any fun body => body.contains offset

/-- The loop to take as the main one: the first that reads input in its body, or else the first. -/
def chooseLoop (candidates : List Loop) (sites : List Site) : Option Loop :=
  let reads := fun (loop : Loop) => sites.any fun site => inBody (some loop) site.span.start
  (candidates.find? reads).or candidates.head?

/-- Places sites relative to the loops; `number` of those in the main loop are already placed. -/
def placeSites (mainLoop? nestedLoop? : Option Loop) (number : Nat) : List Site → List PlacedSite
  | [] => []
  | site :: sites =>
      if inBody mainLoop? site.span.start then
        ⟨site, true, inBody nestedLoop? site.span.start, some number⟩ ::
          placeSites mainLoop? nestedLoop? (number + 1) sites
      else PlacedSite.outside site :: placeSites mainLoop? nestedLoop? number sites

/-- The loop nested in the body of the main loop. -/
def nestedIn? (language : Language) (source : Text) (mainLoop? : Option Loop) :
    Except Misplaced (Option Loop) := do
  match mainLoop?.bind Loop.body? with
  | none => return none
  | some body =>
      let inside ← Text.slice source body
      return (← language.nestedLoop? inside).map fun loop => loop.shift body.start

def outline (language : Language) (source : Text) : Except Misplaced Outline := do
  let sites ← language.reads source
  let mainLoop? := chooseLoop (← language.candidates source) sites
  let nestedLoop? ← nestedIn? language source mainLoop?
  return {
    mainLoop?
    nestedLoop?
    sites := placeSites mainLoop? nestedLoop? 0 sites
    bindings := (language.bindings source).filter fun binding =>
      sites.all fun site => site.target? ≠ some binding.name }

end InputDemand
