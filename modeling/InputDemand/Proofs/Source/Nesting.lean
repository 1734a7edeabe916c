import InputDemand.Proofs.Loop.Elements

/-!
# Nested brackets

In a nested text every bracket is closed by one of its own kind.  Brackets are matched by counting
all kinds alike, and lists are split by counting too; in nested text both find what the nesting
says: the partner of every bracket that opens, and every argument at the place where it stands.
-/

namespace InputDemand

/-- The kinds of brackets. -/
inductive Bracket where
  | round
  | square
  | curly
deriving DecidableEq, Repr

namespace Bracket

def opening : Bracket → Char
  | round => '('
  | square => '['
  | curly => '\x7b'

def closing : Bracket → Char
  | round => ')'
  | square => ']'
  | curly => '\x7d'

theorem opens_opening (bracket : Bracket) : opens bracket.opening = true := by
  cases bracket <;> rfl

theorem closes_closing (bracket : Bracket) : closes bracket.closing = true := by
  cases bracket <;> rfl

theorem opens_closing (bracket : Bracket) : opens bracket.closing = false :=
  Text.opens_eq_false bracket.closes_closing

end Bracket

/-- A text in which every bracket is closed by one of its own kind, with nested text between. -/
inductive Text.Nested : Text → Prop
  | nil : Nested []
  | letter {letter : Char} {text : Text} : isUnbracketed letter = true → Nested text →
      Nested (letter :: text)
  | brackets (bracket : Bracket) {inside text : Text} : Nested inside → Nested text →
      Nested (bracket.opening :: (inside ++ bracket.closing :: text))

/-- The bracket at one place is the partner of that at another: of its kind and behind it, with
nested text between the two. -/
def Cursor.Partner (place partner : Cursor) : Prop :=
  ∃ (bracket : Bracket) (inside rest : Text), Text.Nested inside ∧
    place.rest = bracket.opening :: (inside ++ bracket.closing :: rest) ∧
    partner = ⟨inside.reverse ++ bracket.opening :: place.before, bracket.closing :: rest⟩

/-- An argument: something without blanks around it, nested, and with no comma that has nested text
on both sides. -/
structure Text.IsArgument (text : Text) : Prop where
  visible : text ≠ []
  trimmed : Text.trim text = text
  nested : Nested text
  whole : ∀ front back, text = front ++ ',' :: back → ¬(Nested front ∧ Nested back)

/-- An argument with white space around it. -/
structure Padded where
  front : Text
  argument : Text
  back : Text

namespace Padded

/-- The characters of an argument with its white space. -/
def text (padded : Padded) : Text :=
  padded.front ++ (padded.argument ++ padded.back)

/-- Some arguments, each with a comma behind it. -/
def followed (arguments : List Padded) : Text :=
  arguments.flatMap fun padded => padded.text ++ [',']

/-- Arguments joined with commas. -/
def joined (arguments : List Padded) : Text :=
  [','].intercalate (arguments.map text)

/-- What stands around an argument is white space. -/
structure Lists (padded : Padded) : Prop where
  front : Text.blank padded.front = true
  argument : Text.IsArgument padded.argument
  back : Text.blank padded.back = true

end Padded

namespace Text.Nested

variable {text front rest : Text} {letter : Char}

theorem balanced (nested : Nested text) : Balanced text := by
  induction nested with
  | nil => exact .nil
  | letter unbracketed _ inductionHypothesis => exact .letter unbracketed inductionHypothesis
  | brackets bracket _ _ insideHypothesis behindHypothesis =>
      exact .brackets bracket.opens_opening bracket.closes_closing insideHypothesis behindHypothesis

theorem of_all (unbracketed : text.all isUnbracketed = true) : Nested text := by
  induction text with
  | nil => exact .nil
  | cons letter text inductionHypothesis =>
      rw [List.all_cons, Bool.and_eq_true] at unbracketed
      exact .letter unbracketed.1 (inductionHypothesis unbracketed.2)

/-- Behind every bracket that opens in a nested text stands nested text up to one that closes it. -/
theorem exists_closing (nested : Nested text) (split : text = front ++ letter :: rest)
    (isOpening : opens letter = true) :
    ∃ (bracket : Bracket) (inside behind : Text), letter = bracket.opening ∧
      rest = inside ++ bracket.closing :: behind ∧ Nested inside := by
  induction nested generalizing front rest with
  | nil => exact absurd split.symm (List.append_ne_nil_of_right_ne_nil _ (List.cons_ne_nil _ _))
  | @letter first text unbracketed _ inductionHypothesis =>
      cases front with
      | nil =>
          cases split
          rw [isUnbracketed, isOpening] at unbracketed
          cases unbracketed
      | cons _ front => exact inductionHypothesis (List.cons.inj split).2
  | @brackets bracket inside text nested _ insideHypothesis behindHypothesis =>
      cases front with
      | nil =>
          cases split
          exact ⟨bracket, inside, text, rfl, rfl, nested⟩
      | cons _ front =>
          -- The bracket is inside the first brackets or behind them, but not the one that closes.
          have notClosing : letter ≠ bracket.closing := by
            rintro rfl
            rw [bracket.opens_closing] at isOpening
            cases isOpening
          rcases List.append_eq_append_iff.mp (List.cons.inj split).2 with
            ⟨between, rfl, behind⟩ | ⟨between, rfl, behind⟩
          · cases between with
            | nil => exact absurd (List.cons.inj behind).1.symm notClosing
            | cons _ between => exact behindHypothesis (List.cons.inj behind).2
          · cases between with
            | nil => exact absurd (List.cons.inj behind).1 notClosing
            | cons first between =>
                obtain ⟨rfl, later⟩ := List.cons.inj behind
                obtain ⟨inner, within, left, same, rfl, isNested⟩ := insideHypothesis rfl
                exact ⟨inner, within, left ++ bracket.closing :: text, same,
                  later.trans (List.append_assoc _ _ _), isNested⟩

end Text.Nested

namespace Cursor

variable {place partner : Cursor}

theorem Partner.matchingClose? (isPartner : place.Partner partner) :
    place.matchingClose? = some partner := by
  obtain ⟨bracket, inside, rest, nested, split, rfl⟩ := isPartner
  rcases place with ⟨before, behind⟩
  have split : behind = _ := split
  subst split
  exact matchingClose?_of_balanced nested.balanced bracket.opens_opening bracket.closes_closing
    before rest

/-- Every bracket that opens in a nested text has a partner. -/
theorem exists_partner (nested : Text.Nested place.text) {letter : Char}
    (found : place.rest.head? = some letter) (isOpening : opens letter = true) :
    ∃ partner, place.Partner partner := by
  obtain ⟨rest, split⟩ := List.head?_eq_some_iff.mp found
  have whole : place.text = place.before.reverse ++ letter :: rest := by rw [text, split]
  obtain ⟨bracket, inside, behind, rfl, rfl, nested⟩ := nested.exists_closing whole isOpening
  exact ⟨_, bracket, inside, behind, nested, split, rfl⟩

end Cursor

/-! ## Lists of arguments -/

namespace Text

variable {text front back : Text} {separator : Char}

theorem Undivided.append (undivided : Undivided separator front)
    (undividedBack : Undivided separator back) : Undivided separator (front ++ back) := by
  intro begun rest
  rw [List.append_assoc, undivided, undividedBack, List.reverse_append, List.append_assoc]

theorem undivided_of_blank (isBlank : blank text = true) : Undivided ',' text :=
  (unsplit_of_isPlain List.mem_cons_self (all_isPlain_of_blank isBlank)).undivided

/-- Nested text without a comma between nested text holds commas only inside brackets. -/
theorem Nested.isElement (nested : Nested text)
    (whole : ∀ front back, text = front ++ ',' :: back → ¬(Nested front ∧ Nested back)) :
    IsElement text := by
  induction nested with
  | nil => exact .nil
  | @letter letter text unbracketed nested inductionHypothesis =>
      refine .letter unbracketed ?_ (inductionHypothesis fun front back split => ?_)
      · rintro rfl
        exact whole [] text rfl ⟨.nil, nested⟩
      · rintro ⟨nestedFront, nestedBack⟩
        exact whole (letter :: front) back (congrArg (letter :: ·) split)
          ⟨.letter unbracketed nestedFront, nestedBack⟩
  | @brackets bracket inside text nested _ _ inductionHypothesis =>
      refine .brackets bracket.opens_opening bracket.closes_closing nested.balanced
        (inductionHypothesis fun front back split => ?_)
      rintro ⟨nestedFront, nestedBack⟩
      exact whole (bracket.opening :: (inside ++ bracket.closing :: front)) back (by simp [split])
        ⟨.brackets bracket nested nestedFront, nestedBack⟩

/-- What is trimmed does not start with a blank. -/
theorem takeWhile_isBlank_of_trim (trimmed : trim text = text) : text.takeWhile isBlank = [] := by
  have split := List.takeWhile_append_dropWhile (p := isBlank) (l := text)
  have same := trim_padded (List.all_takeWhile : blank (text.takeWhile isBlank) = true)
    (rfl : blank [] = true) (text.dropWhile isBlank)
  rw [List.append_nil, split, trimmed] at same
  have shorter := length_trim_le (text.dropWhile isBlank)
  have lengths := congrArg List.length split
  rw [← same] at shorter
  rw [List.length_append] at lengths
  exact List.length_eq_zero_iff.mp (by omega)

end Text

namespace Padded

variable {padded : Padded} {arguments : List Padded} {start : Nat}

theorem Lists.undivided (lists : padded.Lists) : Text.Undivided ',' padded.text :=
  (Text.undivided_of_blank lists.front).append
    ((lists.argument.nested.isElement lists.argument.whole).undivided.append
      (Text.undivided_of_blank lists.back))

theorem Lists.trim_text (lists : padded.Lists) : Text.trim padded.text = padded.argument := by
  rw [text, Text.trim_padded lists.front lists.back, lists.argument.trimmed]

theorem Lists.blankWidth_text (lists : padded.Lists) :
    Text.blankWidth padded.text = Text.size padded.front := by
  have none := Text.takeWhile_isBlank_of_trim lists.argument.trimmed
  obtain ⟨first, more, split⟩ := List.exists_cons_of_ne_nil lists.argument.visible
  have visible : ¬isBlank first = true := by
    intro blank
    rw [split, List.takeWhile_cons_of_pos blank] at none
    cases none
  rw [Text.blankWidth, text, List.takeWhile_append_of_pos (List.all_eq_true.mp lists.front), split,
    List.cons_append, List.takeWhile_cons_of_neg visible, List.append_nil]

/-- Where arguments stand that are joined with commas, the first of them at some position. -/
def standing (start : Nat) : List Padded → List (Nat × Text)
  | [] => []
  | padded :: arguments => (start + Text.size padded.front, padded.argument) ::
      standing (start + Text.size padded.text + 1) arguments

theorem map_snd_standing (arguments : List Padded) (start : Nat) :
    (standing start arguments).map Prod.snd = arguments.map argument := by
  induction arguments generalizing start with
  | nil => rfl
  | cons padded arguments inductionHypothesis =>
      rw [standing, List.map_cons, List.map_cons, inductionHypothesis]

theorem getElem?_standing (earlier : List Padded) (padded : Padded) (later : List Padded)
    (start : Nat) : (standing start (earlier ++ padded :: later))[earlier.length]? =
      some (start + Text.size (followed earlier ++ padded.front), padded.argument) := by
  induction earlier generalizing start with
  | nil => rfl
  | cons first earlier inductionHypothesis =>
      have ahead : Text.size (followed (first :: earlier) ++ padded.front) =
          Text.size first.text + 1 + Text.size (followed earlier ++ padded.front) := by
        rw [followed, List.flatMap_cons, ← followed, List.append_assoc, Text.size_append,
          Text.size_append, Text.size_cons, Text.size_nil]
        rfl
      rw [List.cons_append, standing, List.length_cons, List.getElem?_cons_succ,
        inductionHypothesis, ahead]
      simp only [Nat.add_assoc]

theorem joined_cons (padded : Padded) (some : arguments ≠ []) :
    joined (padded :: arguments) = padded.text ++ ',' :: joined arguments := by
  obtain ⟨second, later, rfl⟩ := List.exists_cons_of_ne_nil some
  rw [joined, List.map_cons, List.map_cons, List.intercalate_cons_cons, List.append_assoc]
  rfl

/-- Every argument stands behind those in front of it, their commas and its own white space. -/
theorem exists_joined (earlier : List Padded) (padded : Padded) (later : List Padded) :
    ∃ behind, joined (earlier ++ padded :: later) =
      followed earlier ++ padded.front ++ (padded.argument ++ behind) := by
  induction earlier with
  | nil =>
      cases later with
      | nil =>
          refine ⟨padded.back, ?_⟩
          rw [List.nil_append, joined, List.map_singleton, List.intercalate_singleton]
          rfl
      | cons second later =>
          refine ⟨padded.back ++ ',' :: joined (second :: later), ?_⟩
          rw [List.nil_append, joined_cons padded (List.cons_ne_nil second later), text]
          simp [followed]
  | cons first earlier inductionHypothesis =>
      obtain ⟨behind, split⟩ := inductionHypothesis
      refine ⟨behind, ?_⟩
      have some : earlier ++ padded :: later ≠ [] :=
        List.append_ne_nil_of_right_ne_nil _ (List.cons_ne_nil padded later)
      rw [List.cons_append, joined_cons first some, split]
      simp [followed]

/-- The pieces between the commas, trimmed, with the positions of what is left of them. -/
theorem filterMap_located (start : Nat) (lists : ∀ padded ∈ arguments, padded.Lists) :
    (Text.located start (arguments.map text)).filterMap (fun (start, piece) =>
      let trimmed := Text.trim piece
      if trimmed.isEmpty then none else some (start + Text.blankWidth piece, trimmed)) =
        standing start arguments := by
  induction arguments generalizing start with
  | nil => rfl
  | cons padded arguments inductionHypothesis =>
      have here := lists padded List.mem_cons_self
      have visible : padded.argument.isEmpty = false :=
        List.isEmpty_eq_false_iff.mpr here.argument.visible
      rw [List.map_cons, Text.located, List.filterMap_cons, standing,
        inductionHypothesis _ fun other member => lists other (List.mem_cons_of_mem padded member)]
      simp only [here.trim_text, here.blankWidth_text, visible, Bool.false_eq_true, if_false]

theorem splitOutside_joined (lists : ∀ padded ∈ arguments, padded.Lists) (some : arguments ≠ []) :
    Text.splitOutside ',' (joined arguments) = arguments.map text := by
  induction arguments with
  | nil => exact absurd rfl some
  | cons padded arguments inductionHypothesis =>
      have undivided := (lists padded List.mem_cons_self).undivided
      cases arguments with
      | nil =>
          rw [joined, List.map_singleton, List.intercalate_singleton]
          exact undivided.splitOutside
      | cons second arguments =>
          have later := inductionHypothesis
            (fun other member => lists other (List.mem_cons_of_mem padded member))
            (List.cons_ne_nil second arguments)
          rw [joined_cons padded (List.cons_ne_nil second arguments),
            undivided.splitOutside_append rfl, later, List.map_cons (l := second :: arguments)]

theorem arguments_joined (lists : ∀ padded ∈ arguments, padded.Lists) :
    Text.arguments (joined arguments) = standing 0 arguments := by
  cases arguments with
  | nil => rfl
  | cons padded arguments =>
      rw [Text.arguments, splitOutside_joined lists (List.cons_ne_nil padded arguments)]
      exact filterMap_located 0 lists

end Padded

/-- In nested text every bracket that opens has one partner, which is what it is matched with.
Arguments that are joined with commas, with white space around them, are just what the list is taken
to hold, each at the position where it stands; white space alone holds none. -/
theorem nested_brackets_and_arguments :
    (∀ place : Cursor, Text.Nested place.text → ∀ letter, place.rest.head? = some letter →
      opens letter = true → ∃ partner, place.Partner partner ∧
        place.matchingClose? = some partner ∧ ∀ other, place.Partner other → other = partner) ∧
    (∀ arguments : List Padded, (∀ padded ∈ arguments, padded.Lists) →
      (Text.arguments (Padded.joined arguments)).map Prod.snd = arguments.map Padded.argument ∧
        ∀ earlier padded later, arguments = earlier ++ padded :: later →
          ∃ behind, Padded.joined arguments =
              Padded.followed earlier ++ padded.front ++ (padded.argument ++ behind) ∧
            (Text.arguments (Padded.joined arguments))[earlier.length]? =
              some (Text.size (Padded.followed earlier ++ padded.front), padded.argument)) ∧
    ∀ gap, Text.blank gap = true → Text.arguments gap = [] := by
  refine ⟨?_, ?_, ?_⟩
  · intro place nested letter found isOpening
    obtain ⟨partner, isPartner⟩ := Cursor.exists_partner nested found isOpening
    refine ⟨partner, isPartner, isPartner.matchingClose?, fun other isOther => ?_⟩
    have same := isPartner.matchingClose?
    rw [isOther.matchingClose?] at same
    exact Option.some.inj same
  · intro arguments lists
    rw [Padded.arguments_joined lists]
    refine ⟨Padded.map_snd_standing arguments 0, ?_⟩
    rintro earlier padded later rfl
    have stands := Padded.getElem?_standing earlier padded later 0
    rw [Nat.zero_add] at stands
    obtain ⟨behind, split⟩ := Padded.exists_joined earlier padded later
    exact ⟨behind, split, stands⟩
  · intro gap blank
    exact List.length_eq_zero_iff.mp (Text.Lists.none blank).length_arguments

/-- A call with a comma between its brackets, and an index on the next line. -/
def callAndIndex : List Padded :=
  [⟨[], "f(x, y)".toList, []⟩, ⟨['\n'], "a[1]".toList, [' ']⟩]

theorem nested_brackets_and_arguments_callAndIndex :
    (∃ partner, Cursor.Partner ⟨['f'], "(x, y)".toList⟩ partner ∧
      Cursor.matchingClose? ⟨['f'], "(x, y)".toList⟩ = some partner) ∧
    (Text.arguments (Padded.joined callAndIndex)).map Prod.snd =
      ["f(x, y)".toList, "a[1]".toList] := by
  have call : Text.Nested "f(x, y)".toList :=
    .letter rfl (@Text.Nested.brackets .round "x, y".toList [] (.of_all rfl) .nil)
  have index : Text.Nested "a[1]".toList :=
    .letter rfl (@Text.Nested.brackets .square "1".toList [] (.of_all rfl) .nil)
  have isCall : Text.IsArgument "f(x, y)".toList := by
    refine ⟨by decide, by decide +kernel, call, fun front back split isNested => ?_⟩
    have isComma : "f(x, y)".toList[front.length]? = some ',' := by
      rw [split, List.getElem?_append_right (Nat.le_refl _), Nat.sub_self]
      rfl
    have isFront : front = "f(x, y)".toList.take front.length := by
      rw [split, List.take_left]
    have short : front.length < 7 := (List.getElem?_eq_some_iff.mp isComma).1
    have only : ∀ place < 7, "f(x, y)".toList[place]? = some ',' → place = 3 := by decide
    rw [only front.length short isComma] at isFront
    -- In front of the only comma stands a bracket that is not closed there.
    obtain ⟨bracket, inside, behind, _, rest, _⟩ :=
      @Text.Nested.exists_closing front ['f'] ['x'] '(' isNested.1 isFront rfl
    have closed : bracket.closing ∈ ['x'] := by
      rw [rest]
      exact List.mem_append_right inside List.mem_cons_self
    revert closed
    cases bracket <;> decide
  have isIndex : Text.IsArgument "a[1]".toList := by
    refine ⟨by decide, by decide +kernel, index, fun front back split _ => ?_⟩
    have comma : ',' ∈ "a[1]".toList := by
      rw [split]
      exact List.mem_append_right front List.mem_cons_self
    exact absurd comma (by decide)
  have lists : ∀ padded ∈ callAndIndex, padded.Lists := by
    intro padded member
    simp only [callAndIndex, List.mem_cons, List.not_mem_nil, or_false] at member
    rcases member with rfl | rfl
    · exact ⟨rfl, isCall, rfl⟩
    · exact ⟨by decide +kernel, isIndex, by decide +kernel⟩
  obtain ⟨partner, isPartner, matched, _⟩ :=
    nested_brackets_and_arguments.1 ⟨['f'], "(x, y)".toList⟩ call '(' rfl rfl
  exact ⟨⟨partner, isPartner, matched⟩, (nested_brackets_and_arguments.2.1 callAndIndex lists).1⟩

end InputDemand
