import InputDemand.Proofs.Loop.Deciding
import InputDemand.Proofs.Loop.Elements
import InputDemand.Proofs.Loop.Readings

/-!
# Declared sizes

The declaration that decides about a collection gives its count: a size states a number, a name, or
a name plus or minus a number, and a list states how many elements it lists.  Of a list that is
repeated either the repetitions or the elements are counted, never both.
-/

namespace InputDemand

open Pattern

/-! ## Counts that sizes state -/

/-- The count that the text of a size states; there is none if its number does not fit. -/
inductive Text.Counts : Text → Option Trip → Prop
  | number {digits : Text} {amount : Nat} : digitsValue? digits = some amount →
      Counts digits ((InputDemand.signed? amount).map Trip.literal)
  | name {sigil name : Text} : sigil ∈ sigils → isIdentifier name = true →
      name ∉ Linear.reserved → Counts (sigil ++ name) (some ⟨.name name, 0, 1⟩)
  | moved {sigil name gap behind digits : Text} {sign : Char} {amount : Nat} : sigil ∈ sigils →
      isIdentifier name = true → name ∉ Linear.reserved → blank gap = true →
      sign = '+' ∨ sign = '-' → blank behind = true → digitsValue? digits = some amount →
      Counts (sigil ++ (name ++ (gap ++ sign :: (behind ++ digits))))
        ((InputDemand.signed? amount).map fun constant =>
          ⟨.name name, if sign = '-' then -constant else constant, 1⟩)
  | padded {front size back : Text} {count : Option Trip} : blank front = true →
      blank back = true → Counts size count → Counts (front ++ (size ++ back)) count

namespace Linear

variable {sigil name behind gap digits : Text} {sign : Char} {amount : Nat}

theorem ofBare?_of_identifier (isSigil : sigil ∈ sigils) (isName : Text.isIdentifier name = true)
    (behind : Text) :
    ofBare? (sigil ++ (name ++ behind)) = ofNameFirst? (sigil ++ (name ++ behind)) := by
  obtain ⟨first, more, split, noDigit, noSign, noDecimal, _⟩ :=
    Text.exists_cons_of_identifier isSigil isName
  have opens : sigil ++ (name ++ behind) = first :: (more ++ behind) := by
    rw [← List.append_assoc, split, List.cons_append]
  have noNumber : Text.signed? (first :: (more ++ behind)) = none := by
    rw [Text.signed?_of_unsigned, Text.digitsValue?_eq_none List.mem_cons_self noDigit]
    · rfl
    · rintro rfl
      exact noSign (by decide)
    · rintro rfl
      exact noSign (by decide)
  rw [opens, ofBare?, noNumber, Denotes.ofNumberFirst?_eq_none noDecimal]
  cases ofNameFirst? (first :: (more ++ behind)) <;> rfl

theorem ofNameFirst?_name (isSigil : sigil ∈ sigils) (isName : Text.isIdentifier name = true)
    (unreserved : name ∉ reserved) :
    ofNameFirst? (sigil ++ (name ++ [])) = some ⟨some name, 0⟩ := by
  rw [ofNameFirst?, Text.readName?_identifier isSigil isName rfl]
  simp [unreserved]

theorem ofNameFirst?_moved (isSigil : sigil ∈ sigils) (isName : Text.isIdentifier name = true)
    (unreserved : name ∉ reserved) (blankGap : Text.blank gap = true)
    (isSign : sign = '+' ∨ sign = '-') (blankBehind : Text.blank behind = true)
    (read : Text.digitsValue? digits = some amount) :
    ofNameFirst? (sigil ++ (name ++ (gap ++ sign :: (behind ++ digits)))) =
      (signed? amount).map fun constant =>
        ⟨some name, if sign = '-' then -constant else constant⟩ := by
  obtain ⟨visibleSign, noWord⟩ : isBlank sign = false ∧ isWord sign = false := by
    rcases isSign with rfl | rfl <;> decide +kernel
  obtain ⟨first, more, split, _, visible, _⟩ := Text.exists_first_digit read
  have decimal : Text.allDecimal digits = true := by
    obtain ⟨nonempty, isDigit⟩ := Text.all_isDigit_of_digitsValue? read
    rw [Text.allDecimal, List.isEmpty_eq_false_iff.mpr nonempty, Bool.not_false, Bool.true_and]
    exact List.all_eq_true.mpr fun letter member => isDecimal_of_isDigit (isDigit letter member)
  have number : (behind ++ digits).dropWhile isBlank = digits := by
    rw [split]
    exact Text.dropWhile_gap blankBehind more visible
  have isSign : (decide (sign = '+') || decide (sign = '-')) = true := by
    simpa only [Bool.or_eq_true, decide_eq_true_eq] using isSign
  rw [ofNameFirst?, Text.readName?_identifier isSigil isName
    (Text.stops_gap (fun _ => id) blankGap noWord (behind ++ digits))]
  simp only [Option.bind_eq_bind, Option.bind_some, Text.dropWhile_gap blankGap _ visibleSign,
    number, isSign, decimal, Bool.and_self, if_true, Text.signed?_of_digitsValue? read,
    List.contains_eq_mem, unreserved, decide_false, Bool.false_eq_true, if_false]
  cases signed? (amount : Int) <;> rfl

theorem ofBare?_digits (number : Text.digitsValue? digits = some amount) :
    ofBare? digits = (signed? amount).map fun value => ⟨none, value⟩ := by
  rw [← Text.signed?_of_digitsValue? number]
  cases fits : Text.signed? digits with
  | some value =>
      rw [ofBare?, fits]
      rfl
  | none =>
      cases read : ofBare? digits with
      | none => rfl
      | some linear =>
          obtain ⟨value, fitsToo, _⟩ := Denotes.exists_signed?_of_digits number read
          rw [fits] at fitsToo
          cases fitsToo

end Linear

/-- The size of a collection is read as the count that it states. -/
theorem Text.Counts.map_trip {size : Text} {count : Option Trip} (counts : Counts size count) :
    (Linear.ofText? size).map Linear.trip = count := by
  induction counts with
  | number read =>
      rw [Linear.ofText?_of_bare (bare_digits read), Linear.ofBare?_digits read, Option.map_map]
      rfl
  | name isSigil isName unreserved =>
      have named := (Linear.ofBare?_of_identifier isSigil isName []).trans
        (Linear.ofNameFirst?_name isSigil isName unreserved)
      rw [List.append_nil] at named
      rw [Linear.ofText?_of_bare (bare_identifier isSigil isName), named]
      rfl
  | @moved sigil name gap behind digits sign amount isSigil isName unreserved blankGap isSign
      blankBehind read =>
      have number : ∃ value, SignedNumber (sign :: (behind ++ digits)) value := by
        rcases isSign with rfl | rfl
        · exact ⟨_, .plus blankBehind read⟩
        · exact ⟨_, .minus blankBehind read⟩
      obtain ⟨value, number⟩ := number
      rw [Linear.ofText?_of_bare (Denotes.bare_moved isSigil isName number),
        Linear.ofBare?_of_identifier isSigil isName,
        Linear.ofNameFirst?_moved isSigil isName unreserved blankGap isSign blankBehind read,
        Option.map_map]
      rfl
  | padded blankFront blankBack _ inductionHypothesis =>
      rw [Linear.ofText?_padded blankFront blankBack]
      exact inductionHypothesis

namespace Declaration

variable {name source given front rest tail : Text} {declaration : Declaration}

/-- A declaration is read as it stands, from the edge of its first word on. -/
theorem Stands.exists_first (isName : IsRun isWord name)
    (stands : Stands name declaration front rest tail) (ends : declaration.Ends tail) :
    ∃ (before : Text) (pieces : List Piece),
      pieces.map Piece.text = declaration.size?.toList.map (List.dropWhile isBlank) ∧
      First (declaration.form.core name) ⟨⟨front.reverse, rest⟩, []⟩
        ⟨⟨before, tail⟩, pieces.map (Prod.mk 1)⟩ := by
  obtain ⟨outside, tokens, text, writes, row, rfl⟩ := stands
  obtain ⟨before, pieces, kept, leads⟩ := writes.reads isName row ends front.reverse []
  obtain ⟨first, more, rfl, inWord⟩ := writes.exists_cons isName row
  have atEdge : First wordEdge ⟨⟨front.reverse, first :: more ++ tail⟩, []⟩
      ⟨⟨front.reverse, first :: more ++ tail⟩, []⟩ := by
    rw [First, ways, if_pos ((isEdge_iff rfl inWord).mpr outside)]
    rfl
  rw [List.append_nil] at leads
  exact ⟨before, pieces, kept, atEdge.append leads⟩

/-- The size of the declaration that decides is read as the count that it states. -/
theorem Decides.collectionSize?_of_counts (isName : IsRun isWord name)
    (isGiven : Text.bareName given = name)
    (decides : Decides name source declaration front rest tail) (ends : declaration.Ends tail)
    {size : Text} (sized : declaration.size? = some size) {count : Option Trip}
    (counts : Text.Counts size count) : collectionSize? source given = count := by
  have form : declaration.form ≠ .listed := fun isListed => by
    cases declaration with
    | listed => cases sized
    | _ => cases isListed
  obtain ⟨before, pieces, kept, leads⟩ := decides.stands.exists_first isName ends
  rw [sized] at kept
  obtain ⟨piece, rfl, text⟩ := List.map_eq_singleton_iff.mp kept
  rw [decides.collectionSize?_of_sized isName isGiven form leads rfl, text]
  have padded := Linear.ofText?_padded (@List.all_takeWhile _ isBlank size)
    (rfl : Text.blank [] = true) (size.dropWhile isBlank)
  rw [List.append_nil, List.takeWhile_append_dropWhile] at padded
  rw [← padded]
  exact counts.map_trip

theorem exists_append_last {tokens : List Text} {last text : Text}
    (row : Text.Spaced (tokens ++ [last]) text) : ∃ more, text = more ++ last := by
  cases tokens with
  | nil => exact ⟨[], Text.spaced_singleton.mp row⟩
  | cons token tokens =>
      obtain ⟨front, gap, _, _, rfl⟩ :=
        (spaced_append_singleton (List.cons_ne_nil token tokens)).mp row
      exact ⟨front ++ gap, (List.append_assoc front gap last).symm⟩

theorem Writes.exists_opening {sign text : Text} {maker tokens : List Text} {opening : Char}
    (writes : Writes name (.listed sign maker opening) tokens) (row : Text.Spaced tokens text) :
    opens opening = true ∧ ∃ more, text = more ++ [opening] := by
  cases writes with
  | @listed index assignment _ opened _ _ _ _ _ _ isOpening inner =>
      obtain ⟨before, rfl⟩ := @exists_append_last [name, index, sign] opened text row
      obtain ⟨within, rfl⟩ := exists_append_last inner
      exact ⟨(opening_letter isOpening).1, before ++ within,
        (List.append_assoc before within [opening]).symm⟩

/-- The elements of the list that decides are counted. -/
theorem Decides.collectionSize?_of_lists {sign items behind : Text} {maker : List Text}
    {opening closing : Char} {count : Nat} (isName : IsRun isWord name)
    (isGiven : Text.bareName given = name)
    (decides : Decides name source (.listed sign maker opening) front rest
      (items ++ closing :: behind))
    (ends : (listed sign maker opening).Ends (items ++ closing :: behind))
    (lists : Text.Lists items count) (nonempty : count ≠ 0) (isClosing : closes closing = true) :
    collectionSize? source given = some (Trip.literal count) := by
  obtain ⟨before, pieces, none, leads⟩ := decides.stands.exists_first isName ends
  obtain ⟨_, tokens, text, writes, row, rfl⟩ := decides.stands
  obtain ⟨isOpening, more, rfl⟩ := writes.exists_opening row
  -- The search stops behind the opening bracket, whatever way leads there.
  obtain ⟨passed, _, split, behindText⟩ := passed_of_mem_ways _ (List.mem_of_head? leads)
  have whole : more ++ [opening] = passed := List.append_cancel_right split
  rw [← whole, List.reverse_append] at behindText
  have found : (Cursor.mk before (items ++ closing :: behind)).back =
      ⟨more.reverse ++ front.reverse, opening :: (items ++ closing :: behind)⟩ := by
    rw [show before = _ from behindText]
    rfl
  have closed := Cursor.matchingClose?_of_balanced lists.balanced isOpening isClosing
    (more.reverse ++ front.reverse) behind
  rw [← found] at closed
  have counted := decides.collectionSize?_of_listed isName isGiven rfl leads closed
  rw [Cursor.textUpTo_of_rest rfl, lists.length_arguments] at counted
  refine counted fun empty => nonempty ?_
  rw [← lists.length_arguments, empty]
  rfl

/-- Behind a list it is said how often the list is repeated. -/
def Repeats (repetitions : Nat) (behind : Text) : Prop :=
  ∃ gap digits rest, Text.blank gap = true ∧ Text.digitsValue? digits = some repetitions ∧
    rest.head?.all (fun letter => !isWord letter) = true ∧
    behind.dropWhile isBlank = '*' :: (gap ++ (digits ++ rest))

/-- The number of elements that a declaration gives a collection if no list is repeated: its size,
or the number of elements up to the bracket that closes the list. -/
inductive States : Declaration → Text → Option Trip → Prop
  | sized {declaration : Declaration} {size tail : Text} {count : Option Trip} :
      declaration.form ≠ .repeated → declaration.size? = some size → Text.Counts size count →
      States declaration tail count
  | listed {sign items behind : Text} {maker : List Text} {opening closing : Char} {count : Nat} :
      Text.Lists items count → count ≠ 0 → closes closing = true →
      (behind.dropWhile isBlank).head? ≠ some '*' →
      States (.listed sign maker opening) (items ++ closing :: behind) (some (Trip.literal count))

theorem signed?_natCast (amount : Nat) :
    signed? amount = if (amount : Int) ≤ maxSigned then some (amount : Int) else none := by
  have low : minSigned ≤ (amount : Int) := by
    rw [minSigned]
    omega
  rw [signed?, fitsSigned, decide_eq_true low, Bool.true_and]
  simp only [decide_eq_true_eq]

theorem literal_eq_literal_iff (count other : Nat) :
    some (Trip.literal count) = some (Trip.literal other) ↔ count = other := by
  simp only [Trip.literal, Option.some.injEq, Trip.mk.injEq, Bound.literal.injEq, and_true,
    Int.natCast_inj]

/-- A factor is the product just if the other factor is one or the product is zero. -/
theorem eq_mul_iff (count factor : Nat) : count = factor * count ↔ factor = 1 ∨ count = 0 := by
  constructor
  · intro product
    rcases Nat.eq_zero_or_pos count with none | some
    · exact Or.inr none
    · exact Or.inl (Nat.eq_of_mul_eq_mul_right some (by rw [← product, Nat.one_mul]))
  · rintro (rfl | rfl)
    · rw [Nat.one_mul]
    · rw [Nat.mul_zero]

/-- The declaration that decides gives the number of elements, unless a list is repeated.  Of a list
in square brackets that holds none, only the repetitions are counted then, which is right just for a
single element or no repetition; of any other list only the elements, which is right just for one
repetition. -/
theorem collectionSize?_of_decides (isName : IsRun isWord name)
    (isGiven : Text.bareName given = name)
    (decides : Decides name source declaration front rest tail) (ends : declaration.Ends tail) :
    (∀ count, declaration.States tail count → collectionSize? source given = count) ∧
    (∀ items size, declaration = .repeated items size →
      (∀ count, Text.Counts size count → collectionSize? source given = count) ∧
      ∀ elements repetitions, Text.Lists items elements →
        Text.digitsValue? size = some repetitions →
        (collectionSize? source given = some (Trip.literal ↑(elements * repetitions)) ↔
          repetitions ≤ maxSigned ∧ (elements = 1 ∨ repetitions = 0))) ∧
    ∀ items closing behind elements repetitions, declaration.form = .listed →
      tail = items ++ closing :: behind → closes closing = true → Text.Lists items elements →
      elements ≠ 0 → Repeats repetitions behind →
      collectionSize? source given = some (Trip.literal elements) ∧
        (collectionSize? source given = some (Trip.literal ↑(elements * repetitions)) ↔
          repetitions = 1) := by
  refine ⟨?_, ?_, ?_⟩
  · intro count states
    cases states with
    | sized _ sized counts =>
        exact decides.collectionSize?_of_counts isName isGiven ends sized counts
    | listed lists nonempty isClosing _ =>
        exact decides.collectionSize?_of_lists isName isGiven ends lists nonempty isClosing
  · rintro items size rfl
    have reported : ∀ {count}, Text.Counts size count → collectionSize? source given = count :=
      decides.collectionSize?_of_counts isName isGiven ends rfl
    refine ⟨fun count => reported, fun elements repetitions _ read => ?_⟩
    rw [reported (.number read), signed?_natCast]
    split
    · rename_i fits
      rw [Option.map_some, literal_eq_literal_iff, eq_mul_iff, and_iff_right fits]
    · rename_i large
      exact iff_of_false nofun fun right => large right.1
  · rintro items closing behind elements repetitions isListed rfl isClosing lists nonempty _
    cases declaration with
    | listed sign maker opening =>
        have counted :=
          decides.collectionSize?_of_lists isName isGiven ends lists nonempty isClosing
        refine ⟨counted, ?_⟩
        rw [counted, literal_eq_literal_iff, Nat.mul_comm, eq_mul_iff, or_iff_left nonempty]
    | _ => cases isListed

/-- A list that holds more than a number does not belong to the type of other elements. -/
theorem Uncomposed.of_stop {inner : Text} {stop : Char}
    (inside : inner.all (fun letter => isBlank letter || isDecimal letter) = true)
    (outside : (isBlank stop || isDecimal stop) = false) (other : stop ≠ ']') (rest : Text) :
    Uncomposed (inner ++ stop :: rest) := by
  intro inner' letter more split inside'
  have stops : (stop :: rest).head?.all (fun letter => !(isBlank letter || isDecimal letter)) =
      true := by
    rw [List.head?_cons, Option.all_some, outside]
    rfl
  have closes : (']' :: letter :: more).head?.all
      (fun letter => !(isBlank letter || isDecimal letter)) = true := by
    rw [List.head?_cons, Option.all_some]
    decide +kernel
  have left := (Text.span_append (List.all_eq_true.mp inside) stops).2
  have right := (Text.span_append (List.all_eq_true.mp inside') closes).2
  rw [split, right] at left
  exact absurd (List.cons.inj left).1.symm other

/-- A declaration at the start of a source decides if no earlier form is found. -/
theorem Decides.of_start (isName : IsRun isWord name)
    (stands : Stands name declaration [] source tail)
    (absent : ∀ form : Form, form.rank < declaration.form.rank → ∀ place ≤ source.length,
      ways (form.core name) ⟨⟨(source.take place).reverse, source.drop place⟩, []⟩ = []) :
    Decides name source declaration [] source tail := by
  refine ⟨rfl, stands, fun _ _ _ _ _ _ shorter => absurd shorter (Nat.not_lt_zero _), ?_⟩
  rintro other front rest tail rfl earlier stands
  obtain ⟨there, member⟩ := (exists_mem_ways_core_iff isName).mpr ⟨other, tail, rfl, stands⟩
  have missed := absent other.form earlier front.length
    (List.length_append ▸ Nat.le_add_right front.length rest.length)
  rw [List.take_left, List.drop_left] at missed
  rw [missed] at member
  cases member

/-- The list in `xs = [n, [2, 3]]` has two elements. -/
theorem collectionSize?_of_decides_pair :
    collectionSize? "xs = [n, [2, 3]]".toList "xs".toList = some (Trip.literal 2) := by
  have isName : IsRun isWord "xs".toList := ⟨by decide, by decide +kernel⟩
  have stands : Stands "xs".toList (.listed ['='] [] '[') [] "xs = [n, [2, 3]]".toList
      ("n, [2, 3]".toList ++ ']' :: []) := by
    refine ⟨rfl, ["xs".toList, [], ['='], ['[']], "xs = [".toList, ?_, ?_, rfl⟩
    · exact .listed .none (by decide) .plain .none (by decide) (.single ['['])
    · exact @Text.Spaced.cons _ _ [] _ _ rfl (@Text.Spaced.cons [] _ [' '] _ _ rfl
        (@Text.Spaced.cons _ _ [' '] _ _ rfl (.single ['['])))
  have decides := Decides.of_start isName stands fun form earlier => by
    cases form <;> first | exact absurd earlier (by decide) | decide +kernel
  have ends : (listed ['='] [] '[').Ends ("n, [2, 3]".toList ++ ']' :: []) :=
    ⟨by decide, fun _ _ => @Uncomposed.of_stop [] 'n' rfl (by decide +kernel) (by decide) _⟩
  have number : Text.IsElement ['n'] := .letter rfl (by decide) .nil
  have list : Text.IsElement " [2, 3]".toList :=
    .letter rfl (by decide) (@Text.IsElement.brackets '[' ']' "2, 3".toList [] rfl rfl
      (.of_all (by decide)) .nil)
  have lists : Text.Lists "n, [2, 3]".toList 2 :=
    @Text.Lists.elements [['n'], " [2, 3]".toList] _ (.next .last) (List.forall_mem_cons.mpr
      ⟨⟨number, by decide⟩, List.forall_mem_singleton.mpr ⟨list, by decide⟩⟩)
  exact (collectionSize?_of_decides isName rfl decides ends).1 _
    (.listed lists (by decide) rfl (by decide))

/-- Two elements three times are six, but not as many are reported. -/
theorem collectionSize?_repeated_pair :
    Stands "xs".toList (.repeated "0, 0".toList ['3']) [] "xs = [0, 0] * 3".toList [] ∧
      Text.Lists "0, 0".toList 2 ∧
      collectionSize? "xs = [0, 0] * 3".toList "xs".toList ≠ some (Trip.literal (2 * 3)) := by
  refine ⟨⟨rfl, ["xs".toList, ['='], "[0, 0]".toList, ['*'], ['3']], "xs = [0, 0] * 3".toList,
    ?_, ?_, rfl⟩, ?_, by decide +kernel⟩
  · exact @Writes.repeated _ "0, 0".toList ['3'] (by simp [Avoids]) ⟨by decide, by decide +kernel⟩
  · exact @Text.Spaced.cons _ _ [' '] _ _ rfl (@Text.Spaced.cons _ _ [' '] _ _ rfl
      (@Text.Spaced.cons _ _ [' '] _ _ rfl (@Text.Spaced.cons _ _ [' '] _ _ rfl (.single ['3']))))
  · have number : Text.IsElement ['0'] := .letter rfl (by decide) .nil
    have behindBlank : Text.IsElement [' ', '0'] := .letter rfl (by decide) number
    exact @Text.Lists.elements [['0'], [' ', '0']] _ (.next .last) (List.forall_mem_cons.mpr
      ⟨⟨number, by decide⟩, List.forall_mem_singleton.mpr ⟨behindBlank, by decide⟩⟩)

/-- The first closing bracket is taken for the end of a list that is repeated. -/
example : collectionSize? "xs = [[0] * 4, [1]]".toList "xs".toList = some (Trip.literal 4) ∧
    collectionSize? "xs = [[0]] * 3".toList "xs".toList = some (Trip.literal 1) := by
  decide +kernel

end Declaration

end InputDemand
