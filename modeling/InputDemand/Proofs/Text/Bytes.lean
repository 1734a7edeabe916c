import InputDemand.Text.Basic

/-!
# The bytes of a text

A text is stored in its UTF-8 form.  An ASCII character is one byte there, and no other character
has that byte in its form.
-/

namespace InputDemand

def Text.bytes (text : Text) : List UInt8 :=
  text.flatMap String.utf8EncodeChar

theorem Text.bytes_cons (letter : Char) (text : Text) :
    Text.bytes (letter :: text) = String.utf8EncodeChar letter ++ text.bytes :=
  List.flatMap_cons

theorem Text.bytes_append (front back : Text) :
    Text.bytes (front ++ back) = front.bytes ++ back.bytes :=
  List.flatMap_append

theorem Text.bytes_replicate_blank (count : Nat) :
    Text.bytes (List.replicate count ' ') = List.replicate count 32 := by
  have blank : String.utf8EncodeChar ' ' = [32] := by decide
  rw [bytes, List.flatMap_replicate, blank, List.flatten_replicate_singleton]

end InputDemand
