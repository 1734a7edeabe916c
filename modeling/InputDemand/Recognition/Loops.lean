import InputDemand.Recognition.BodyFirstLoops
import InputDemand.Recognition.CollectionLoops
import InputDemand.Recognition.CounterLoops

/-!
# The loops of a program

The loops that a program may be taken to run, in order of preference, and the loop inside a body.
-/

namespace InputDemand

/-- The loops that a finder reports one behind the other: each search resumes behind the loop found
last, until nothing is found or a search would not get on.  At most `rounds` of them. -/
def successive (find : Nat → Except Misplaced (Option Loop)) :
    Nat → Nat → Except Misplaced (List Loop)
  | 0, _ => return []
  | rounds + 1, resume => do
      match ← find resume with
      | none => return []
      | some loop =>
          -- A search from the same place would find the same loop for ever.
          if loop.stop ≤ resume then return [loop]
          else return loop :: (← successive find rounds loop.stop)

namespace Language

/-- The loops that may be the program's main loop, in order of preference: all counting loops, then
all loops over collections, then all loops with their condition behind the body.  Every search
resumes at a greater position of the source, so their number is bounded by its length. -/
def candidates (language : Language) (source : Text) : Except Misplaced (List Loop) := do
  let masked := language.mask source
  let rounds := Text.size source + 1
  let counters ← successive (fun least => return language.counterLoop? masked least) rounds 0
  let collections ← successive (language.collectionLoop? source masked) rounds 0
  let bodyFirst ← successive (language.bodyFirstLoop? masked) rounds 0
  return counters ++ collections ++ bodyFirst

/-- The first loop inside the text of a body: a counting loop if there is one, else a loop over a
collection, else one with its condition behind its body. -/
def nestedLoop? (language : Language) (body : Text) : Except Misplaced (Option Loop) := do
  let masked := language.mask body
  match language.counterLoop? masked 0 with
  | some loop => return some loop
  | none =>
      match ← language.collectionLoop? body masked 0 with
      | some loop => return some loop
      | none => language.bodyFirstLoop? masked 0

end Language

end InputDemand
