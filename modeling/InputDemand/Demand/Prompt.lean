import InputDemand.Demand.Outline

/-!
# Prompts

The text by which a value is asked for: the prompt of the reading call itself, or what the nearest
printing statement in front of it prints, or else a numbered placeholder.
-/

namespace InputDemand

/-- The text that asks for the value of a site. -/
structure Prompt where
  text : Text
  site : PlacedSite
  placeholder : Bool
deriving DecidableEq, Repr

/-- The placeholder for the site with a number, counted from one. -/
def placeholderText (number : Nat) : Text :=
  "Enter value ".toList ++ Text.ofNat number

/-- The printing statement that ends last at or in front of a position; of several that end at one
place, the last. -/
def printBefore? (prints : List Print) (offset : Nat) : Option Print :=
  (prints.filter fun print => print.span.stop ≤ offset).foldl (fun best? print =>
    match best? with
    | none => some print
    | some best => if best.span.stop ≤ print.span.stop then some print else some best) none

/-- The prompt of the site with a number, counted from one.  A blank text counts as none. -/
def promptFor (prints : List Print) (number : Nat) (site : PlacedSite) : Prompt :=
  let printed? := (printBefore? prints site.start).bind Print.literal?
  match (site.inline?.or printed?).filter fun text => !Text.blank text with
  | some text => ⟨text, site, false⟩
  | none => ⟨placeholderText number, site, true⟩

/-- One prompt for every site, in the order of the sites, of which the first has a number. -/
def promptsFrom (prints : List Print) (number : Nat) : List PlacedSite → List Prompt
  | [] => []
  | site :: sites => promptFor prints number site :: promptsFrom prints (number + 1) sites

def prompts (sites : List PlacedSite) (prints : List Print) : List Prompt :=
  promptsFrom prints 1 sites

end InputDemand
