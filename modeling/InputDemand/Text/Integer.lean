import InputDemand.Text.Basic

/-!
# Reading integers

A number is written in ASCII digits.  A signed number may carry a plus or a minus sign, an
unsigned one a plus sign only.  Numbers that do not fit into 64 bits are refused.
-/

namespace InputDemand

def maxSigned : Int := 9223372036854775807

def minSigned : Int := -9223372036854775808

def maxUnsigned : Nat := 18446744073709551615

def fitsSigned (value : Int) : Bool :=
  minSigned ≤ value && value ≤ maxSigned

/-- An integer, if it fits into 64 bits with a sign. -/
def signed? (value : Int) : Option Int :=
  if fitsSigned value then some value else none

namespace Text

/-- The value of a text of ASCII digits; nothing if the text is empty or holds anything else. -/
def digitsValue? (text : Text) : Option Nat :=
  if text.isEmpty || !text.all Char.isDigit then none
  else some (text.foldl (fun value digit => 10 * value + (digit.toNat - '0'.toNat)) 0)

/-- A signed 64-bit integer in decimal. -/
def signed? (text : Text) : Option Int :=
  match text with
  | '-' :: digits => (digitsValue? digits).bind fun value => InputDemand.signed? (-(value : Int))
  | '+' :: digits => (digitsValue? digits).bind fun value => InputDemand.signed? (value : Int)
  | digits => (digitsValue? digits).bind fun value => InputDemand.signed? (value : Int)

def unsigned? (text : Text) : Option Nat :=
  let digits := match text with
    | '+' :: digits => digits
    | digits => digits
  (digitsValue? digits).filter fun value => value ≤ maxUnsigned

end Text

end InputDemand
