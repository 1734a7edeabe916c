import InputDemand.Demand.Prompt

/-!
# Demand plans

A plan lists the values a program will read, as far as the answers given so far tell.  It is made by
following the program: the sites in front of the main loop, then its iterations with those of the
nested loop inside, then the sites behind it.  What has been asked is a trail; a trail halts when a
count depends on a value that is asked but not yet answered, or cannot be told at all, and every
action leaves a halted trail as it is.
-/

namespace InputDemand

/-- The iteration of the main loop that a value belongs to, and that of the nested loop if the
value belongs to one. -/
structure Iteration where
  outer : Nat
  inner? : Option Nat
deriving DecidableEq, Repr

/-- A value that the program will read. -/
structure Slot where
  prompt : Prompt
  iteration? : Option Iteration
deriving DecidableEq, Repr

/-- Why a plan lists no further values. -/
inductive Halt where
  /-- The answer for a name is still missing. -/
  | pending (name : Text)
  /-- The rest cannot be told. -/
  | openEnded
deriving DecidableEq, Repr

/-- The values that a program will read, and why there are no more if it may read more. -/
structure Plan where
  slots : Array Slot
  halt? : Option Halt
deriving DecidableEq, Repr

namespace Plan

def size (plan : Plan) : Nat :=
  plan.slots.size

/-- Whether the plan lists everything that the program will read. -/
def isComplete (plan : Plan) : Bool :=
  plan.halt?.isNone

end Plan

/-- The greatest number of values that are planned; a plan that would need more is open-ended. -/
def maxSlots : Nat := 1000

/-- What is known of a name that a value was read into. -/
inductive Reading where
  | value (value : Int)
  /-- The answer is not a whole number that fits. -/
  | garbled
  | unanswered
deriving DecidableEq, Repr

/-- What is known of a name by the answer to its question. -/
def Reading.ofAnswer : Option Text → Reading
  | none => unanswered
  | some answer =>
      match Text.signed? (Text.trim answer) with
      | none => garbled
      | some number => value number

/-- What has been asked on the way through a program. -/
structure Trail where
  slots : Array Slot
  /-- What is known of the names that were read, the latest first. -/
  names : List (Text × Reading)
  halt? : Option Halt
deriving DecidableEq, Repr

namespace Trail

def empty : Trail :=
  ⟨#[], [], none⟩

def halted (trail : Trail) : Bool :=
  trail.halt?.isSome

/-- Halts the trail, unless it has halted before. -/
def halt (trail : Trail) (reason : Halt) : Trail :=
  if trail.halted then trail else { trail with halt? := some reason }

/-- What is known of the names behind a question. -/
def namesAfter (answers : List Text) (trail : Trail) (prompt : Prompt) : List (Text × Reading) :=
  match prompt.site.target? with
  | none => trail.names
  | some target => (target, Reading.ofAnswer answers[trail.slots.size]?) :: trail.names

def ask (answers : List Text) (iteration? : Option Iteration) (trail : Trail) (prompt : Prompt) :
    Trail :=
  if trail.halted then trail
  else if maxSlots ≤ trail.slots.size then trail.halt .openEnded
  else { trail with
    slots := trail.slots.push ⟨prompt, iteration?⟩
    names := trail.namesAfter answers prompt }

end Trail

/-- How often a loop runs, by what is known of its bound: the latest reading of its name, or else
the number last assigned in front of the loop. -/
def Outline.count (outline : Outline) (loop : Loop) (names : List (Text × Reading)) :
    Except Halt Nat :=
  match loop.trip.bound with
  | .literal value => .ok (loop.trip.iterations value)
  | .unknown _ => .error .openEnded
  | .name name =>
      match names.lookup name with
      | some (.value value) => .ok (loop.trip.iterations value)
      | some .unanswered => .error (.pending name)
      | some .garbled => .error .openEnded
      | none =>
          match outline.valueBefore? name loop.header.start with
          | some value => .ok (loop.trip.iterations value)
          | none => .error .openEnded

/-- Goes on by the count of a loop, or halts for the reason why there is none. -/
def Outline.counted (outline : Outline) (loop : Loop) (goOn : Nat → Trail → Trail)
    (trail : Trail) : Trail :=
  match outline.count loop trail.names with
  | .error reason => trail.halt reason
  | .ok count => goOn count trail

/-- The fewest passes that a loop makes once it is entered. -/
def Loop.fewest (loop : Loop) : Nat :=
  if loop.kind = .bodyFirst then 1 else 0

/-- A step of a loop body: a value to ask for, or the nested loop with the values it asks for. -/
inductive Segment where
  | ask (prompt : Prompt)
  | nested (loop : Loop) (prompts : List Prompt)

/-- Whether a segment asks for the value of a name directly. -/
def Segment.reads (name : Text) : Segment → Bool
  | ask prompt => prompt.site.target? = some name
  | nested .. => false

/-- Passes number `first`, `first + 1`, …, as many as asked, until the trail halts. -/
def passes (pass : Nat → Trail → Trail) : Nat → Nat → Trail → Trail
  | 0, _, trail => trail
  | count + 1, first, trail =>
      if trail.halted then trail else passes pass count (first + 1) (pass first trail)

/-- The name that decides about a loop, if nothing is known of it yet and the body asks for it. -/
def lateName? (loop : Loop) (segments : List Segment) (trail : Trail) : Option Text :=
  match loop.trip.bound with
  | .name name =>
      if (trail.names.lookup name).isNone && segments.any (Segment.reads name) then some name
      else none
  | _ => none

/-- Runs a loop whose passes run `segments` one by one.  The count is taken on entry; if its name
is first read in the body itself, it is taken behind that read in the first pass, which then counts
as one. -/
def runLoop (outline : Outline) (loop : Loop) (segments : List Segment)
    (run : Nat → Trail → Segment → Trail) (trail : Trail) : Trail :=
  let pass := fun index trail => segments.foldl (run index) trail
  if segments.isEmpty then trail
  else
    match lateName? loop segments trail with
    | none => outline.counted loop (fun count => passes pass (max count loop.fewest) 0) trail
    | some name =>
        -- `back` starts with the read that decides; the first pass is run up to right behind it.
        let front := segments.takeWhile fun segment => !segment.reads name
        let back := segments.drop front.length
        outline.counted loop
          (fun count read => passes pass (count - 1) 1 ((back.drop 1).foldl (run 0) read))
          ((front ++ back.take 1).foldl (run 0) trail)

/-- Runs the nested loop within a pass of the main loop.  A loop without a body halts. -/
def runNested (outline : Outline) (answers : List Text) (outer : Nat) (loop : Loop)
    (prompts : List Prompt) (trail : Trail) : Trail :=
  if loop.body?.isNone then trail.halt .openEnded
  else
    runLoop outline loop (prompts.map .ask) (fun inner trail segment =>
      match segment with
      | .ask prompt => trail.ask answers (some ⟨outer, some inner⟩) prompt
      | .nested .. => trail) trail

def runSegment (outline : Outline) (answers : List Text) (outer : Nat) (trail : Trail) :
    Segment → Trail
  | .ask prompt => trail.ask answers (some ⟨outer, none⟩) prompt
  | .nested loop prompts => runNested outline answers outer loop prompts trail

/-- The part of the source whose sites belong to the nested loop: its body, or from its header to
the end of the main loop's body if it has none. -/
def nestedRegion (mainBody : Span) (nested : Loop) : Span :=
  nested.body?.getD ⟨nested.header.start, mainBody.stop⟩

/-- The steps of the main loop's body.  The nested loop stands where its first site is. -/
def segments (mainBody : Span) (nested? : Option Loop) (inside : List Prompt) : List Segment :=
  match nested? with
  | none => inside.map .ask
  | some nested =>
      let inNested := fun (prompt : Prompt) =>
        (nestedRegion mainBody nested).contains prompt.site.start
      let front := inside.takeWhile fun prompt => !inNested prompt
      let back := inside.drop front.length
      -- The sites of the nested loop are taken together, even if others stand between them.
      if back.isEmpty then front.map .ask
      else
        front.map .ask ++ [.nested nested (back.filter inNested)] ++
          (back.filter fun prompt => !inNested prompt).map .ask

namespace Outline

/-- The way through a program without a loop. -/
def straightTrail (answers : List Text) (prompts : List Prompt) (trail : Trail) : Trail :=
  prompts.foldl (Trail.ask answers none) trail

/-- The way through a program whose loop has no body: only the sites in front of it are certain. -/
def cutTrail (answers : List Text) (header : Span) (prompts : List Prompt) : Trail :=
  let certain := prompts.takeWhile fun prompt => prompt.site.start < header.start
  let trail := straightTrail answers certain Trail.empty
  if certain.length < prompts.length then trail.halt .openEnded else trail

def loopTrail (outline : Outline) (answers : List Text) (mainLoop : Loop) (body : Span)
    (prompts : List Prompt) : Trail :=
  let inside := prompts.filter fun prompt => prompt.site.inLoop
  let outside := prompts.filter fun prompt => !prompt.site.inLoop
  let before := outside.filter fun prompt => prompt.site.start < body.start
  let behind := outside.filter fun prompt => body.start ≤ prompt.site.start
  let entered := straightTrail answers before Trail.empty
  let left := runLoop outline mainLoop (InputDemand.segments body outline.nestedLoop? inside)
    (runSegment outline answers) entered
  straightTrail answers behind left

/-- The way through a program, as far as the answers lead. -/
def trail (outline : Outline) (prompts : List Prompt) (answers : List Text) : Trail :=
  match outline.mainLoop? with
  | none => straightTrail answers prompts Trail.empty
  | some mainLoop =>
      match mainLoop.body? with
      | none => cutTrail answers mainLoop.header prompts
      | some body => outline.loopTrail answers mainLoop body prompts

def plan (outline : Outline) (prompts : List Prompt) (answers : List Text) : Plan :=
  let trail := outline.trail prompts answers
  ⟨trail.slots, trail.halt?⟩

end Outline

end InputDemand
