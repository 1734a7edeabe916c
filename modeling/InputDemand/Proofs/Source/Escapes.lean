import InputDemand.Proofs.Source.Delimiters

/-!
# Writing a prompt as a literal

A text is written as a literal by escaping backslashes, line feeds and the quote.  Such a literal
hides no quote and runs over no line, so masking closes it where it was closed, and reading it gives
the text back, whatever stands in front of it and behind it.
-/

namespace InputDemand

namespace Text

/-- What stands for a character in a literal between two of a quote. -/
def escapeLetter (quote letter : Char) : Text :=
  if letter = '\\' then ['\\', '\\']
  else if letter = '\n' then ['\\', 'n']
  else if letter = quote then ['\\', quote]
  else [letter]

/-- The contents of the literal that a text is written as between two of a quote. -/
def escape (quote : Char) (text : Text) : Text :=
  text.flatMap (escapeLetter quote)

variable {quote letter : Char} {text rest : Text}

theorem escape_cons (quote letter : Char) (text : Text) :
    escape quote (letter :: text) = escapeLetter quote letter ++ escape quote text :=
  List.flatMap_cons

/-- What stands for a character is a backslash with a sign behind it, or the character itself, which
neither escapes nor ends anything then. -/
theorem escapeLetter_cases (quote letter : Char) :
    (letter = '\\' ∧ escapeLetter quote letter = ['\\', '\\']) ∨
      (letter = '\n' ∧ escapeLetter quote letter = ['\\', 'n']) ∨
      (letter = quote ∧ escapeLetter quote letter = ['\\', quote]) ∨
      (Lexicon.isContents quote letter = true ∧ escapeLetter quote letter = [letter]) := by
  unfold escapeLetter
  by_cases slash : letter = '\\'
  · exact Or.inl ⟨slash, if_pos slash⟩
  · by_cases feed : letter = '\n'
    · exact Or.inr (Or.inl ⟨feed, by rw [if_neg slash, if_pos feed]⟩)
    · by_cases same : letter = quote
      · exact Or.inr (Or.inr (Or.inl ⟨same, by rw [if_neg slash, if_neg feed, if_pos same]⟩))
      · refine Or.inr (Or.inr (Or.inr ⟨?_, by rw [if_neg slash, if_neg feed, if_neg same]⟩))
        simp [Lexicon.isContents, slash, feed, same]

theorem unescape_cons (plain : letter ≠ '\\') (rest : Text) :
    unescape (letter :: rest) = letter :: unescape rest := by
  rw [unescape]
  · exact fun same _ => plain same
  · exact fun _ _ same _ => plain same

theorem unescape_quote (isQuote : Text.isQuote quote = true) (rest : Text) :
    unescape ('\\' :: quote :: rest) = quote :: unescape rest := by
  have other : ∀ {sign : Char}, Text.isQuote sign = false → quote ≠ sign := by
    rintro sign noQuote rfl
    rw [isQuote] at noQuote
    cases noQuote
  rw [unescape, if_neg (other rfl), if_neg (other rfl), if_neg (other rfl)]

/-- Reading a literal undoes writing it. -/
theorem unescape_escape (isQuote : Text.isQuote quote = true) (text : Text) :
    unescape (escape quote text) = text := by
  induction text with
  | nil => rfl
  | cons letter text inductionHypothesis =>
      rw [escape_cons]
      rcases escapeLetter_cases quote letter with
        ⟨rfl, written⟩ | ⟨rfl, written⟩ | ⟨rfl, written⟩ | ⟨plain, written⟩
      · rw [written]
        exact congrArg ('\\' :: ·) inductionHypothesis
      · rw [written]
        exact congrArg ('\n' :: ·) inductionHypothesis
      · rw [written, List.cons_append, List.singleton_append, unescape_quote isQuote,
          inductionHypothesis]
      · simp only [Lexicon.isContents, Bool.and_eq_true, decide_eq_true_eq] at plain
        rw [written, List.singleton_append, unescape_cons plain.1.1, inductionHypothesis]

end Text

namespace Lexicon

variable {lexicon : Lexicon} {quote : Char} {text rest front : Text}

/-- Masking goes through the contents of a written literal up to what ends it. -/
theorem upTo_escape (ended : rest = [] ∨ lexicon.EndsLiteral quote false rest) :
    UpTo true (lexicon.EndsLiteral quote false) (Text.escape quote text) rest := by
  induction text with
  | nil => exact .stop ended
  | cons letter text inductionHypothesis =>
      rw [Text.escape_cons]
      rcases Text.escapeLetter_cases quote letter with
        ⟨_, written⟩ | ⟨_, written⟩ | ⟨_, written⟩ | ⟨plain, written⟩
      · rw [written]
        exact .escape rfl inductionHypothesis
      · rw [written]
        exact .escape rfl inductionHypothesis
      · rw [written]
        exact .escape rfl inductionHypothesis
      · simp only [isContents, Bool.and_eq_true, decide_eq_true_eq] at plain
        obtain ⟨⟨noEscape, noQuote⟩, noFeed⟩ := plain
        rw [written]
        refine .letter (fun escape => noEscape escape.2) ?_ inductionHypothesis
        rintro (closes | ⟨_, _, feed⟩)
        · exact noQuote (List.cons_prefix_cons.mp closes).1.symm
        · exact noFeed (List.cons_prefix_cons.mp feed).1.symm

/-! ## Program text in front of a literal -/

/-- A text without a quote, in which no comment opens. -/
structure IsCode (lexicon : Lexicon) (text : Text) : Prop where
  quotes : ∀ letter ∈ text, letter ∉ lexicon.quotes
  lines : ∀ mark ∈ lexicon.lineComments, ¬mark <:+: text
  blocks : lexicon.blockComments = true → ¬['/', '*'] <:+: text

theorem IsCode.of_cons {letter : Char} (code : lexicon.IsCode (letter :: text)) :
    lexicon.IsCode text where
  quotes := fun other member => code.quotes other (List.mem_cons_of_mem _ member)
  lines := fun mark listed inside => code.lines mark listed (List.infix_cons inside)
  blocks := fun blocks inside => code.blocks blocks (List.infix_cons inside)

end Lexicon

/-- A word without the quote that starts a text with the quote in it starts in front of that. -/
theorem prefix_of_prefix_append_cons {quote : Char} {mark front behind : Text}
    (apart : quote ∉ mark) (starts : mark <+: front ++ quote :: behind) : mark <+: front := by
  rcases List.prefix_or_prefix_of_prefix starts (List.prefix_append front _) with
    within | ⟨more, rfl⟩
  · exact within
  · rw [List.prefix_append_right_inj] at starts
    cases more with
    | nil => exact ⟨[], by simp⟩
    | cons first more =>
        obtain ⟨rfl, _⟩ := List.cons_prefix_cons.mp starts
        exact absurd (List.mem_append_right _ List.mem_cons_self) apart

namespace Language

variable {language : Language} {quote : Char} {front behind : Text}

theorem quote_not_mem_mark (language : Language) (isQuote : Text.isQuote quote = true)
    {mark : Text} (listed : mark ∈ language.lexicon.lineComments) : quote ∉ mark := by
  have apart : language.lexicon.lineComments.all
      (fun mark => mark.all fun letter => !Text.isQuote letter) = true := by
    cases language <;> decide
  intro member
  have noQuote := List.all_eq_true.mp (List.all_eq_true.mp apart mark listed) quote member
  rw [isQuote] at noQuote
  cases noQuote

/-- In front of a quote such a text is program text, letter by letter. -/
theorem divides_code (code : language.lexicon.IsCode front)
    (listed : quote ∈ language.lexicon.quotes) {lexemes : List Lexeme}
    (divides : language.lexicon.Divides (quote :: behind) lexemes) :
    language.lexicon.Divides (front ++ quote :: behind) (front.map Lexeme.code ++ lexemes) := by
  have isQuote := language.regular_lexicon.quotes quote listed
  induction front with
  | nil => exact divides
  | cons letter front inductionHypothesis =>
      refine .cons (.code ?_ ?_ ?_) (inductionHypothesis code.of_cons)
      · rintro ⟨mark, isMark, starts⟩
        have starts : mark <+: letter :: front ++ quote :: behind := starts
        have within := prefix_of_prefix_append_cons
          (quote_not_mem_mark language isQuote isMark) starts
        exact code.lines mark isMark within.isInfix
      · rintro ⟨blocks, starts⟩
        have starts : ['/', '*'] <+: letter :: front ++ quote :: behind := starts
        have apart : quote ∉ ['/', '*'] := by
          intro member
          simp only [List.mem_cons, List.not_mem_nil, or_false] at member
          rcases member with rfl | rfl <;> cases isQuote
        exact code.blocks blocks (prefix_of_prefix_append_cons apart starts).isInfix
      · exact code.quotes letter List.mem_cons_self

/-- A written literal opens with no more than one quote, unless a quote follows it. -/
theorem not_triple_prefix (isQuote : Text.isQuote quote = true) (text : Text) {back : Text}
    (apart : ¬[quote] <+: back) :
    ¬delimiter quote true <+: quote :: (Text.escape quote text ++ quote :: back) := by
  intro starts
  obtain ⟨_, starts⟩ := List.cons_prefix_cons.mp starts
  cases text with
  | nil => exact apart (List.cons_prefix_cons.mp starts).2
  | cons letter text =>
      rw [Text.escape_cons] at starts
      have noEscape := Lexicon.ne_escape_of_isQuote isQuote
      rcases Text.escapeLetter_cases quote letter with
        ⟨_, written⟩ | ⟨_, written⟩ | ⟨_, written⟩ | ⟨plain, written⟩
      · rw [written] at starts
        exact noEscape (List.cons_prefix_cons.mp starts).1
      · rw [written] at starts
        exact noEscape (List.cons_prefix_cons.mp starts).1
      · rw [written] at starts
        exact noEscape (List.cons_prefix_cons.mp starts).1
      · simp only [Lexicon.isContents, Bool.and_eq_true, decide_eq_true_eq] at plain
        rw [written] at starts
        exact plain.1.2 (List.cons_prefix_cons.mp starts).1.symm

/-- A source in which a literal is written shows the quotes and what is around them. -/
theorem mask_written (code : language.lexicon.IsCode front)
    (listed : quote ∈ language.lexicon.quotes) (text : Text) {back : Text}
    (apart : ¬[quote] <+: back) :
    language.lexicon.mask (front ++ quote :: (Text.escape quote text ++ quote :: back)) =
      front ++ quote ::
        (blanked (Text.escape quote text) ++ quote :: language.lexicon.mask back) := by
  have regular := language.regular_lexicon
  have isQuote := regular.quotes quote listed
  obtain ⟨lexemes, divides⟩ := Lexicon.exists_divides regular back
  have whole : quote :: (Text.escape quote text ++ quote :: back) =
      (Lexeme.literal quote false (Text.escape quote text) true).text ++ back := by
    simp [Lexeme.text, Lexeme.closing, delimiter]
  have noLine :=
    not_opensLine_of_isQuote language isQuote (Text.escape quote text ++ quote :: back)
  have noBlock :=
    not_opensBlock_of_isQuote language isQuote (Text.escape quote text ++ quote :: back)
  have single := not_triple_prefix isQuote text apart
  have literal : language.lexicon.Divides (quote :: (Text.escape quote text ++ quote :: back))
      (.literal quote false (Text.escape quote text) true :: lexemes) := by
    rw [whole] at noLine noBlock single ⊢
    refine .cons (.literal noLine noBlock listed ?_ ?_ ?_) divides
    · exact iff_of_false Bool.false_ne_true fun opens => single opens.2
    · exact Lexicon.upTo_escape (Or.inr (Or.inl ⟨back, rfl⟩))
    · exact fun unclosed _ => Bool.noConfusion unclosed
  rw [Lexicon.mask_of_divides regular (divides_code code listed literal),
    Lexicon.mask_of_divides regular divides]
  simp [Lexeme.shown, Lexeme.closing, delimiter, List.flatMap_map]

end Language

/-! ## Reading a written literal -/

/-- The lone literal of the argument at a position of masked source. -/
def Lexicon.soleLiteralAt? (lexicon : Lexicon) (source : Text) (marks : List Char) (offset : Nat) :
    Except Misplaced (Option Text) := do
  let place ← Cursor.at? (lexicon.mask source) offset
  place.soleLiteral? source marks

namespace Cursor

variable {quote : Char} {marks : List Char} {before rest source contents : Text}
  {place stop : Cursor}

/-- At a quote that is no mark the literal starts at once. -/
theorem skip_marks_eq_self (isQuote : Text.isQuote quote = true) (unmarked : quote ∉ marks) :
    ((⟨before, quote :: rest⟩ : Cursor).skipBlank.skip
      (((⟨before, quote :: rest⟩ : Cursor).skipBlank.rest.take 2).takeWhile fun letter =>
        letter.toNat < 128 && marks.contains letter).length) = ⟨before, quote :: rest⟩ := by
  have visible : isBlank quote = false := by
    cases blank : isBlank quote with
    | false => rfl
    | true =>
        rw [Lexicon.not_isQuote_of_isBlank blank] at isQuote
        cases isQuote
  have here : (⟨before, quote :: rest⟩ : Cursor).skipBlank = ⟨before, quote :: rest⟩ := by
    simp [skipBlank, skipWhile, visible]
  have noMark : (decide (quote.toNat < 128) && marks.contains quote) = false := by
    simp [unmarked]
  rw [here, List.take_succ_cons, List.takeWhile_cons, noMark]
  rfl

theorem soleLiteral?_of_literal? (isQuote : Text.isQuote quote = true) (unmarked : quote ∉ marks)
    (read : literal? source ⟨before, quote :: rest⟩ = .ok (some (contents, stop)))
    (ends : Text.endsArgument (stop.skipWhile isIndent).rest = true) :
    soleLiteral? source marks ⟨before, quote :: rest⟩ =
      .ok (some (Text.trimRightBy (fun letter => letter = '\n' || letter = '\r') contents)) := by
  rw [soleLiteral?]
  simp only [skip_marks_eq_self isQuote unmarked, read, ok_bind, ends, if_true]
  rfl

end Cursor

namespace Language

variable {language : Language} {quote : Char} {front back : Text} {marks : List Char}

/-- What ends an argument shows in masked source. -/
theorem endsArgument_mask
    (ends : back = [] ∨ ∃ letter ∈ [')', ',', ';', '\n'], [letter] <+: back) :
    Text.endsArgument ((language.lexicon.mask back).dropWhile isIndent) = true := by
  rcases ends with rfl | ⟨letter, listed, behind, rfl⟩
  · rfl
  · have plain : [')', ',', ';', '\n'].any isSign = false := by decide
    have noSign := Bool.eq_false_iff.mpr (List.any_eq_false.mp plain letter listed)
    have shown : language.lexicon.mask ([letter] ++ behind) =
        letter :: language.lexicon.mask behind :=
      Lexicon.maskFrom_stays
        (Lexicon.codeStep_of_not_isSign language.regular_lexicon noSign behind)
    rw [shown]
    simp only [List.mem_cons, List.not_mem_nil, or_false] at listed
    rcases listed with rfl | rfl | rfl | rfl <;> rfl

/-- A text that is written as a literal is read back, without the line ends at its end. -/
theorem soleLiteralAt?_escape (code : language.lexicon.IsCode front)
    (listed : quote ∈ language.lexicon.quotes) (unmarked : quote ∉ marks)
    (ends : back = [] ∨ ∃ letter ∈ [')', ',', ';', '\n'], [letter] <+: back) (text : Text) :
    language.lexicon.soleLiteralAt?
        (front ++ quote :: (Text.escape quote text ++ quote :: back)) marks (Text.size front) =
      .ok (some (Text.trimRightBy (fun letter => letter = '\n' || letter = '\r') text)) := by
  have isQuote := language.regular_lexicon.quotes quote listed
  have apart : ¬[quote] <+: back := by
    have plain : [')', ',', ';', '\n'].any Text.isQuote = false := by decide
    rcases ends with rfl | ⟨letter, ended, behind, rfl⟩
    · exact List.cons_ne_nil quote [] ∘ List.prefix_nil.mp
    · intro starts
      obtain ⟨rfl, _⟩ := List.cons_prefix_cons.mp starts
      exact List.any_eq_false.mp plain quote ended isQuote
  have masked := mask_written code listed text apart
  have place : Cursor.at? (language.lexicon.mask
      (front ++ quote :: (Text.escape quote text ++ quote :: back))) (Text.size front) =
        .ok ⟨front.reverse, quote :: (blanked (Text.escape quote text) ++
          quote :: language.lexicon.mask back)⟩ := by
    rw [Cursor.at?_eq_ok_iff, masked, Cursor.text, Cursor.offset, List.reverse_reverse,
      Text.size_reverse]
    exact ⟨rfl, rfl⟩
  have shown := mt (quote_prefix_mask_iff listed back).mp apart
  have read : Cursor.literal? (front ++ quote :: (Text.escape quote text ++ quote :: back))
      ⟨front.reverse, quote :: (blanked (Text.escape quote text) ++
        quote :: language.lexicon.mask back)⟩ =
      .ok (some (Text.unescape (Text.escape quote text), Cursor.behindClosed front.reverse
        (language.lexicon.mask back) quote false (Text.escape quote text))) :=
    @Cursor.literal?_closed quote false front _ _ _ _ back isQuote (Text.size_reverse front) rfl
      fun _ _ => shown
  rw [Text.unescape_escape isQuote] at read
  rw [Lexicon.soleLiteralAt?, place, ok_bind]
  exact Cursor.soleLiteral?_of_literal? isQuote unmarked read (endsArgument_mask ends)

/-- A prompt with quotes, a backslash, a comment sign and line feeds, in a call with more behind. -/
theorem soleLiteralAt?_escape_prompt :
    python.lexicon.IsCode "x = input(".toList ∧
      python.lexicon.soleLiteralAt?
          "x = input(\"say \\\"é\\\" # \\\\:\\n\\n\") # '".toList "fFrRbBuU".toList 10 =
        .ok (some "say \"é\" # \\:".toList) := by
  have code : python.lexicon.IsCode "x = input(".toList := by
    have apart : "x = input(".toList.any python.lexicon.quotes.contains = false := by decide
    refine ⟨fun letter member => ?_, ?_, nofun⟩
    · simpa using List.any_eq_false.mp apart letter member
    intro mark listed inside
    rw [List.mem_singleton.mp listed] at inside
    exact absurd (inside.subset List.mem_cons_self) (by decide)
  have ends : ") # '".toList = [] ∨ ∃ letter ∈ [')', ',', ';', '\n'], [letter] <+: ") # '".toList :=
    Or.inr ⟨')', by decide, " # '".toList, rfl⟩
  have source : "x = input(\"say \\\"é\\\" # \\\\:\\n\\n\") # '".toList =
      "x = input(".toList ++ '"' ::
        (Text.escape '"' "say \"é\" # \\:\n\n".toList ++ '"' :: ") # '".toList) := by decide
  have trimmed : Text.trimRightBy (fun letter => letter = '\n' || letter = '\r')
      "say \"é\" # \\:\n\n".toList = "say \"é\" # \\:".toList := by decide
  have read := soleLiteralAt?_escape code (by decide : '"' ∈ python.lexicon.quotes)
    (by decide : '"' ∉ "fFrRbBuU".toList) ends "say \"é\" # \\:\n\n".toList
  rw [← source, trimmed] at read
  exact ⟨code, read⟩

end Language

end InputDemand
