import InputDemand.Demand.Plan

/-!
# Analyses

Everything that is known of a program from its text: its outline and one prompt for every value it
reads.  From an analysis follow the plan for any answers and the lines to point at in the source.
-/

namespace InputDemand

/-- A program with its outline and its prompts. -/
structure Analysis where
  language : Language
  source : Text
  outline : Outline
  /-- One for every site of the outline, in the same order. -/
  prompts : List Prompt
deriving DecidableEq, Repr

/-- Keeps the first of every run of equal numbers. -/
def dropRepeats : List Nat → List Nat
  | [] => []
  | number :: numbers =>
      let rest := dropRepeats numbers
      if numbers.head? = some number then rest else number :: rest

namespace Analysis

def plan (analysis : Analysis) (answers : List Text) : Plan :=
  analysis.outline.plan analysis.prompts answers

/-- The numbers of the lines on which a value is read. -/
def inputLines (analysis : Analysis) : List Nat :=
  dropRepeats (analysis.outline.sites.map fun site => site.span.line analysis.source)

/-- The numbers of the first and the last line of the main loop. -/
def loopLines (analysis : Analysis) : Except Misplaced (Option (Nat × Nat)) := do
  match analysis.outline.mainLoop? with
  | none => return none
  | some loop =>
      let stop := min loop.stop (Text.size analysis.source)
      let upToStop ← Text.slice analysis.source ⟨0, stop⟩
      return some (loop.header.line analysis.source, max (Text.lines upToStop).length 1)

end Analysis

def analyze (language : Language) (source : Text) : Except Misplaced Analysis := do
  let outline ← outline language source
  let prints ← language.prints source
  return ⟨language, source, outline, prompts outline.sites prints⟩

end InputDemand
