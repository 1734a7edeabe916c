import InputDemand.Proofs.Source.Lexemes
import InputDemand.Proofs.Source.Literal

/-!
# Where a literal is taken to end

A literal is read up to the next quotes in masked source like those that open it, while masking
follows the rules of the language.  The two agree on where a closed literal ends, unless the literal
is empty and a further quote follows at once.  They agree that a literal is not closed, unless its
quote shows anywhere behind it.
-/

namespace InputDemand

/-- The literal that is read at a position of masked source, and the position behind it. -/
def Lexicon.literalAt? (lexicon : Lexicon) (source : Text) (offset : Nat) :
    Except Misplaced (Option (Text × Nat)) := do
  let place ← Cursor.at? (lexicon.mask source) offset
  let literal? ← place.literal? source
  return literal?.map fun (contents, stop) => (contents, stop.offset)

/-- What is read from a place with a delimiter up to the next one. -/
def Cursor.delimited? (source : Text) (place : Cursor) (mark : Text) :
    Except Misplaced (Option (Text × Cursor)) :=
  let body := place.skip mark.length
  match body.find? mark with
  | none => .ok none
  | some close => do
      let contents ← Text.slice source (body.spanUpTo close)
      return some (Text.unescape contents, close.skip mark.length)

/-! ## Blanks -/

theorem not_mem_blanked {quote : Char} (isQuote : Text.isQuote quote = true) (text : Text) :
    quote ∉ blanked text := by
  intro member
  obtain ⟨letter, _, shown⟩ := List.mem_flatMap.mp member
  by_cases feed : letter = '\n'
  · rw [hidden, if_pos feed] at shown
    exact Lexicon.ne_feed_of_isQuote isQuote (List.mem_singleton.mp shown)
  · rw [hidden, if_neg feed] at shown
    exact Cursor.ne_blank_of_isQuote isQuote (List.eq_of_mem_replicate shown)

theorem size_blanked (text : Text) : Text.size (blanked text) = Text.size text := by
  induction text with
  | nil => rfl
  | cons letter text inductionHypothesis =>
      rw [blanked_cons, Text.size_append, size_hidden, inductionHypothesis, Text.size_cons]

theorem blanked_ne_nil {text : Text} (nonempty : text ≠ []) : blanked text ≠ [] := by
  intro nothing
  have sized := congrArg Text.size nothing
  rw [size_blanked] at sized
  obtain ⟨letter, behind, rfl⟩ := List.exists_cons_of_ne_nil nonempty
  have positive := letter.utf8Size_pos
  rw [Text.size_cons, Text.size_nil] at sized
  omega

theorem Lexeme.size_shown (lexeme : Lexeme) : Text.size lexeme.shown = Text.size lexeme.text := by
  cases lexeme with
  | code letter => rfl
  | lineComment text => exact size_blanked text
  | blockComment inside closed => exact size_blanked _
  | literal quote triple contents closed =>
      simp only [shown, text, Text.size_append, size_blanked]

theorem Lexeme.size_flatMap_shown (lexemes : List Lexeme) :
    Text.size (lexemes.flatMap Lexeme.shown) = Text.size (lexemes.flatMap Lexeme.text) := by
  induction lexemes with
  | nil => rfl
  | cons lexeme lexemes inductionHypothesis =>
      rw [List.flatMap_cons, List.flatMap_cons, Text.size_append, Text.size_append,
        lexeme.size_shown, inductionHypothesis]

/-! ## Looking for a delimiter -/

namespace Cursor

variable {quote : Char} {triple : Bool} {front back before source : Text} {place : Cursor}

theorem delimiter_eq_cons (quote : Char) (triple : Bool) :
    ∃ more, delimiter quote triple = quote :: more := by
  cases triple <;> exact ⟨_, rfl⟩

theorem find?_delimiter (absent : quote ∉ front) :
    find? (delimiter quote triple) ⟨before, front ++ (delimiter quote triple ++ back)⟩ =
      some ⟨front.reverse ++ before, delimiter quote triple ++ back⟩ := by
  obtain ⟨more, mark⟩ := delimiter_eq_cons quote triple
  induction front generalizing before with
  | nil =>
      have starts : (quote :: more).isPrefixOf (quote :: (more ++ back)) = true :=
        List.isPrefixOf_iff_prefix.mpr ⟨back, rfl⟩
      rw [List.nil_append, mark, List.cons_append, find?, find?.go, if_pos starts]
      rfl
  | cons letter front inductionHypothesis =>
      obtain ⟨different, absent⟩ := List.ne_and_not_mem_of_not_mem_cons absent
      have further : find? (delimiter quote triple)
          ⟨letter :: before, front ++ (delimiter quote triple ++ back)⟩ = some _ :=
        inductionHypothesis absent
      have passes : ¬(delimiter quote triple).isPrefixOf
          (letter :: (front ++ (delimiter quote triple ++ back))) = true := by
        rw [List.isPrefixOf_iff_prefix, mark, List.cons_prefix_cons]
        exact fun starts => different starts.1
      rw [List.cons_append, find?, find?.go, if_neg passes, List.reverse_cons, List.append_assoc]
      exact further

theorem find?_delimiter_eq_none (absent : quote ∉ back) :
    find? (delimiter quote triple) ⟨before, back⟩ = none := by
  cases found : find? (delimiter quote triple) ⟨before, back⟩ with
  | none => rfl
  | some close =>
      obtain ⟨order, starts⟩ := find?_eq_some found
      obtain ⟨more, mark⟩ := delimiter_eq_cons quote triple
      have member : quote ∈ close.rest := by
        rw [mark] at starts
        exact starts.subset List.mem_cons_self
      rw [show back = _ from rest_eq_textUpTo_append order] at absent
      exact absurd (List.mem_append_right _ member) absent

theorem find?_quote_eq_none_iff :
    find? (delimiter quote false) ⟨before, back⟩ = none ↔ quote ∉ back := by
  constructor
  · intro none member
    obtain ⟨front, behind, rfl, absent⟩ := List.eq_append_cons_of_mem member
    have found : find? (delimiter quote false)
        ⟨before, front ++ (delimiter quote false ++ behind)⟩ = some _ := find?_delimiter absent
    rw [show front ++ quote :: behind = front ++ (delimiter quote false ++ behind) from rfl, found]
      at none
    cases none
  · exact find?_delimiter_eq_none

theorem skip_delimiter (mark : Text) :
    (⟨before, mark ++ back⟩ : Cursor).skip mark.length = ⟨mark.reverse ++ before, back⟩ := by
  rw [skip, List.take_left, List.drop_left]

/-- The place behind a closed literal that shows at a place. -/
def behindClosed (before back : Text) (quote : Char) (triple : Bool) (contents : Text) : Cursor :=
  ⟨(delimiter quote triple).reverse ++ ((blanked contents).reverse ++
    ((delimiter quote triple).reverse ++ before)), back⟩

theorem offset_behindClosed (sized : Text.size before = Text.size front) {contents : Text} :
    (behindClosed before back quote triple contents).offset =
      Text.size front + Text.size (Lexeme.literal quote triple contents true).text := by
  simp only [behindClosed, offset, Text.size_append, Text.size_reverse, sized, size_blanked,
    Lexeme.text, Lexeme.closing, if_true]
  omega

/-- A literal whose contents hide all quotes is read as it is. -/
theorem delimited?_closed {contents rest : Text} (isQuote : Text.isQuote quote = true)
    (sized : Text.size before = Text.size front)
    (whole : source = front ++ (delimiter quote triple ++
      (contents ++ (delimiter quote triple ++ rest)))) :
    delimited? source
        ⟨before, delimiter quote triple ++ (blanked contents ++ (delimiter quote triple ++ back))⟩
        (delimiter quote triple) =
      .ok (some (Text.unescape contents, behindClosed before back quote triple contents)) := by
  have cut : Text.slice source ⟨Text.size (front ++ delimiter quote triple),
      Text.size (front ++ delimiter quote triple) + Text.size contents⟩ = .ok contents := by
    rw [whole, ← List.append_assoc]
    exact Text.slice_append _ _ _
  have ends : spanUpTo
      ⟨(delimiter quote triple).reverse ++ before,
        blanked contents ++ (delimiter quote triple ++ back)⟩
      ⟨(blanked contents).reverse ++ ((delimiter quote triple).reverse ++ before),
        delimiter quote triple ++ back⟩ =
      ⟨Text.size (front ++ delimiter quote triple),
        Text.size (front ++ delimiter quote triple) + Text.size contents⟩ := by
    simp only [spanUpTo, offset, Text.size_append, Text.size_reverse, sized, size_blanked,
      Span.mk.injEq]
    omega
  simp only [delimited?, skip_delimiter, find?_delimiter (not_mem_blanked isQuote contents), ends,
    cut, ok_bind]
  rfl

theorem find?_eq_none_of_delimited? {mark : Text}
    (read : delimited? source place mark = .ok none) :
    (place.skip mark.length).find? mark = none := by
  cases found : (place.skip mark.length).find? mark with
  | none => rfl
  | some close =>
      simp only [delimited?, found] at read
      cases cut : Text.slice source ((place.skip mark.length).spanUpTo close) with
      | error => simp [cut, bind, Except.bind] at read
      | ok => simp [cut, bind, Except.bind, pure, Except.pure] at read

theorem offset_le_of_delimited? {mark contents : Text} {stop : Cursor}
    (starts : mark <+: place.rest)
    (read : delimited? source place mark = .ok (some (contents, stop))) :
    place.offset + Text.size mark + Text.size mark ≤ stop.offset := by
  obtain ⟨before, rest⟩ := place
  obtain ⟨back, split⟩ := starts
  rw [show rest = mark ++ back from split.symm, delimited?, skip_delimiter] at read
  cases found : find? mark ⟨mark.reverse ++ before, back⟩ with
  | none => simp [found] at read
  | some close =>
      obtain ⟨order, closes⟩ := find?_eq_some found
      have ahead := offset_le_of_le order
      obtain ⟨behind, rest⟩ := closes
      cases cut : Text.slice source (spanUpTo ⟨mark.reverse ++ before, back⟩ close) with
      | error => simp [found, cut, bind, Except.bind] at read
      | ok piece =>
          simp only [found, cut, ok_bind] at read
          cases read
          have shift : close = ⟨close.before, mark ++ behind⟩ := by rw [rest]
          rw [shift, skip_delimiter]
          simp only [offset, Text.size_append, Text.size_reverse] at ahead ⊢
          omega

/-- A literal is read with the quotes that open it, if the source has as many as show. -/
theorem literal?_eq_delimited? {rest : Text} (isQuote : Text.isQuote quote = true)
    (sized : Text.size before = Text.size front)
    (whole : source = front ++ (delimiter quote triple ++ rest))
    (single : triple = false → ¬delimiter quote true <+: delimiter quote false ++ back) :
    literal? source ⟨before, delimiter quote triple ++ back⟩ =
      delimited? source ⟨before, delimiter quote triple ++ back⟩ (delimiter quote triple) := by
  cases triple with
  | false =>
      have shown : ¬[quote, quote, quote].isPrefixOf (quote :: back) = true :=
        mt List.isPrefixOf_iff_prefix.mp (single rfl)
      change literal? source ⟨before, quote :: back⟩ = _
      simp only [literal?, isQuote, Bool.not_true, Bool.false_eq_true, if_false, if_neg shown]
      rfl
  | true =>
      have starts (rest : Text) :
          [quote, quote, quote].isPrefixOf (quote :: quote :: quote :: rest) = true :=
        List.isPrefixOf_iff_prefix.mpr ⟨rest, rfl⟩
      have same : at? source (offset ⟨before, quote :: quote :: quote :: back⟩) =
          .ok ⟨front.reverse, quote :: quote :: quote :: rest⟩ := by
        rw [at?_eq_ok_iff, text, List.reverse_reverse, offset, Text.size_reverse, offset, sized]
        exact ⟨whole.symm, rfl⟩
      change literal? source ⟨before, quote :: quote :: quote :: back⟩ = _
      simp only [literal?, isQuote, Bool.not_true, Bool.false_eq_true, if_false, starts, if_true,
        same, ok_bind, pure_bind]
      rfl

/-- The quote of a literal makes no three quotes with what shows behind it. -/
theorem not_delimiter_prefix {contents : Text} (isQuote : Text.isQuote quote = true)
    (apart : contents = [] → ¬[quote, quote] <+: back) :
    ¬delimiter quote true <+: delimiter quote false ++ (blanked contents ++ back) := by
  intro starts
  obtain ⟨_, starts⟩ := List.cons_prefix_cons.mp starts
  by_cases nothing : contents = []
  · subst nothing
    exact apart rfl starts
  · obtain ⟨letter, shown, blank⟩ := List.exists_cons_of_ne_nil (blanked_ne_nil nothing)
    rw [blank] at starts
    obtain ⟨same, _⟩ := List.cons_prefix_cons.mp starts
    apply not_mem_blanked isQuote contents
    rw [blank, same]
    exact List.mem_cons_self

theorem literal?_closed {contents rest : Text} (isQuote : Text.isQuote quote = true)
    (sized : Text.size before = Text.size front)
    (whole : source = front ++ (delimiter quote triple ++
      (contents ++ (delimiter quote triple ++ rest))))
    (apart : triple = false → contents = [] → ¬[quote] <+: back) :
    literal? source
        ⟨before, delimiter quote triple ++ (blanked contents ++ (delimiter quote triple ++ back))⟩ =
      .ok (some (Text.unescape contents, behindClosed before back quote triple contents)) := by
  have single : triple = false → ¬delimiter quote true <+:
      delimiter quote false ++ (blanked contents ++ (delimiter quote triple ++ back)) := by
    rintro rfl
    apply not_delimiter_prefix isQuote
    exact fun nothing starts => apart rfl nothing (List.cons_prefix_cons.mp starts).2
  rw [literal?_eq_delimited? isQuote sized whole single]
  exact delimited?_closed isQuote sized whole

/-- The quotes of an empty literal and the one behind it are read as three quotes that open one. -/
theorem offset_lt_of_literal?_adjacent {contents rest : Text} {stop : Cursor}
    (isQuote : Text.isQuote quote = true) (sized : Text.size before = Text.size front)
    (whole : source = front ++ (delimiter quote true ++ rest))
    (read : literal? source ⟨before, delimiter quote true ++ back⟩ = .ok (some (contents, stop))) :
    Text.size front + Text.size [quote, quote] < stop.offset := by
  rw [literal?_eq_delimited? isQuote sized whole (fun single => by cases single)] at read
  have ends := offset_le_of_delimited? ⟨_, rfl⟩ read
  have positive := quote.utf8Size_pos
  simp only [offset, delimiter, sized, List.replicate_succ, List.replicate_zero, if_true,
    Text.size_cons, Text.size_nil] at ends ⊢
  omega

theorem literal?_unclosed_eq_none_iff {contents rest : Text} (isQuote : Text.isQuote quote = true)
    (sized : Text.size before = Text.size front)
    (whole : source = front ++ (delimiter quote triple ++ (contents ++ rest)))
    (unclosed : ¬[quote] <+: back) (ends : triple = true → back = []) :
    literal? source ⟨before, delimiter quote triple ++ (blanked contents ++ back)⟩ = .ok none ↔
      quote ∉ back := by
  have single : ¬delimiter quote true <+: delimiter quote false ++ (blanked contents ++ back) := by
    apply not_delimiter_prefix isQuote
    exact fun _ starts => unclosed (List.IsPrefix.trans ⟨[quote], rfl⟩ starts)
  rw [literal?_eq_delimited? isQuote sized whole (fun _ => single)]
  have hides := not_mem_blanked isQuote contents
  constructor
  · intro read member
    have none := find?_eq_none_of_delimited? read
    rw [skip_delimiter] at none
    cases triple with
    | true => simp [ends rfl] at member
    | false => exact find?_quote_eq_none_iff.mp none (List.mem_append_right _ member)
  · intro absent
    have absent : quote ∉ blanked contents ++ back := by
      rw [List.mem_append]
      exact not_or_intro hides absent
    rw [delimited?, skip_delimiter, find?_delimiter_eq_none absent]

end Cursor

/-! ## The literals of a source -/

/-- The literal that a lexeme at a position holds, and the position behind it. -/
def Lexeme.literalAt? (start : Nat) : Lexeme → Option (Text × Nat)
  | .literal quote triple contents true =>
      some (Text.unescape contents, start + Text.size (literal quote triple contents true).text)
  | _ => none

/-- Where a literal is taken for another one: what follows makes three quotes of the quotes of an
empty literal, or it shows a quote where none closes the literal. -/
inductive Lexeme.Misleads : Lexeme → List Lexeme → Prop
  | adjacent {quote : Char} {after : List Lexeme} : [quote] <+: after.flatMap text →
      Misleads (.literal quote false [] true) after
  | unclosed {quote : Char} {triple : Bool} {contents : Text} {after : List Lexeme} :
      quote ∈ after.flatMap shown → Misleads (.literal quote triple contents false) after

theorem Lexeme.misleads_closed_iff {quote : Char} {triple : Bool} {contents : Text}
    {after : List Lexeme} : (literal quote triple contents true).Misleads after ↔
      triple = false ∧ contents = [] ∧ [quote] <+: after.flatMap text := by
  constructor
  · rintro ⟨adjacent⟩
    exact ⟨rfl, rfl, adjacent⟩
  · rintro ⟨rfl, rfl, adjacent⟩
    exact .adjacent adjacent

theorem Lexeme.misleads_unclosed_iff {quote : Char} {triple : Bool} {contents : Text}
    {after : List Lexeme} : (literal quote triple contents false).Misleads after ↔
      quote ∈ after.flatMap shown := by
  constructor
  · rintro ⟨⟩
    assumption
  · exact .unclosed

theorem Lexicon.exists_literalAt? {lexicon : Lexicon} {source front back : Text}
    (masked : lexicon.mask source = front ++ back) :
    ∃ read?, Cursor.literal? source ⟨front.reverse, back⟩ = .ok read? ∧
      lexicon.literalAt? source (Text.size front) =
        .ok (read?.map (Prod.map id Cursor.offset)) := by
  have place : lexicon.mask source = Cursor.text ⟨front.reverse, back⟩ := by
    rw [Cursor.text, List.reverse_reverse, masked]
  have found : Cursor.at? (lexicon.mask source) (Text.size front) =
      .ok ⟨front.reverse, back⟩ := by
    rw [Cursor.at?_eq_ok_iff, Cursor.offset, Text.size_reverse]
    exact ⟨place.symm, rfl⟩
  obtain ⟨read?, read⟩ := Cursor.exists_literal? place
  refine ⟨read?, read, ?_⟩
  rw [literalAt?, found, ok_bind, read, ok_bind]
  rfl

namespace Language

variable {language : Language} {quote : Char} {triple closed : Bool} {contents source : Text}
  {before after : List Lexeme}

theorem not_opensLine_of_isQuote (language : Language) (isQuote : Text.isQuote quote = true)
    (rest : Text) : ¬language.lexicon.OpensLine (quote :: rest) := by
  have apart : language.lexicon.lineComments.all
      (fun mark => mark.head?.all fun first => !Text.isQuote first) = true := by
    cases language <;> decide
  rintro ⟨mark, listed, starts⟩
  have noQuote := List.all_eq_true.mp apart mark listed
  obtain ⟨nonempty, _⟩ := language.regular_lexicon.marks mark listed
  obtain ⟨first, mark, rfl⟩ := List.exists_cons_of_ne_nil nonempty
  obtain ⟨rfl, _⟩ := List.cons_prefix_cons.mp starts
  simp [isQuote] at noQuote

theorem not_opensBlock_of_isQuote (language : Language) (isQuote : Text.isQuote quote = true)
    (rest : Text) : ¬language.lexicon.OpensBlock (quote :: rest) := by
  rintro ⟨_, starts⟩
  obtain ⟨rfl, _⟩ := List.cons_prefix_cons.mp starts
  cases isQuote

/-- A quote shows where program text is expected if it stands there. -/
theorem quote_prefix_mask_iff (listed : quote ∈ language.lexicon.quotes) (rest : Text) :
    [quote] <+: language.lexicon.mask rest ↔ [quote] <+: rest := by
  have isQuote := language.regular_lexicon.quotes quote listed
  constructor
  · rintro ⟨back, masked⟩
    obtain ⟨ahead, behind, rfl, front, _⟩ := Lexicon.exists_front_of_maskFrom
      (Cursor.ne_blank_of_isQuote isQuote) (masked.symm.trans (List.nil_append _).symm)
    have sized := congrArg Text.size front
    rw [Lexicon.size_maskFront, Text.size_nil] at sized
    cases ahead with
    | nil => exact ⟨behind, rfl⟩
    | cons letter ahead =>
        have positive := letter.utf8Size_pos
        rw [Text.size_cons] at sized
        omega
  · rintro ⟨behind, rfl⟩
    have noLine := not_opensLine_of_isQuote language isQuote behind
    have noBlock := not_opensBlock_of_isQuote language isQuote behind
    obtain ⟨triple, rest, whole, opens⟩ := language.lexicon.exists_delimiter quote behind
    obtain ⟨more, mark⟩ := Cursor.delimiter_eq_cons quote triple
    have whole : [quote] ++ behind = delimiter quote triple ++ rest := whole
    rw [whole, Lexicon.maskFrom_opening (whole ▸ noLine) (whole ▸ noBlock) listed (whole ▸ opens),
      mark]
    exact ⟨_, rfl⟩

variable {ahead front rest : Text} {read? : Option (Text × Cursor)}

theorem read_closed_iff (listed : quote ∈ language.lexicon.quotes)
    (sized : Text.size ahead = Text.size front)
    (whole : source = front ++ (delimiter quote triple ++
      (contents ++ (delimiter quote triple ++ rest))))
    (read : Cursor.literal? source ⟨ahead, delimiter quote triple ++
      (blanked contents ++ (delimiter quote triple ++ language.lexicon.mask rest))⟩ = .ok read?) :
    read?.map (Prod.map id Cursor.offset) =
        (Lexeme.literal quote triple contents true).literalAt? (Text.size front) ↔
      ¬(triple = false ∧ contents = [] ∧ [quote] <+: rest) := by
  have isQuote := language.regular_lexicon.quotes quote listed
  by_cases adjacent : triple = false ∧ contents = [] ∧ [quote] <+: rest
  · refine iff_of_false ?_ (not_not_intro adjacent)
    obtain ⟨rfl, rfl, starts⟩ := adjacent
    obtain ⟨back, shown⟩ := (quote_prefix_mask_iff listed rest).mpr starts
    obtain ⟨behind, rfl⟩ := starts
    rw [← shown] at read
    intro same
    cases read? with
    | none => cases same
    | some found =>
        -- Three quotes are read as they open and as they close, which are more than two in all.
        have ends := Cursor.offset_lt_of_literal?_adjacent isQuote sized whole read
        have expected := congrArg Prod.snd (Option.some.inj same)
        exact absurd expected (ne_of_gt ends)
  · refine iff_of_true ?_ adjacent
    have apart : triple = false → contents = [] → ¬[quote] <+: language.lexicon.mask rest := by
      rw [quote_prefix_mask_iff listed]
      exact fun single nothing starts => adjacent ⟨single, nothing, starts⟩
    have found := Except.ok.inj
      (read.symm.trans (Cursor.literal?_closed isQuote sized whole apart))
    rw [found, Lexeme.literalAt?, Option.map_some, Prod.map_apply,
      Cursor.offset_behindClosed sized]
    rfl

theorem read_unclosed_iff (listed : quote ∈ language.lexicon.quotes)
    (sized : Text.size ahead = Text.size front)
    (whole : source = front ++ (delimiter quote triple ++ (contents ++ rest)))
    (goesOn : rest = [] ∨ triple = false ∧ ['\n'] <+: rest)
    (read : Cursor.literal? source ⟨ahead, delimiter quote triple ++
      (blanked contents ++ language.lexicon.mask rest)⟩ = .ok read?) :
    read?.map (Prod.map id Cursor.offset) = none ↔ quote ∉ language.lexicon.mask rest := by
  have isQuote := language.regular_lexicon.quotes quote listed
  have apart : ¬[quote] <+: language.lexicon.mask rest := by
    rw [quote_prefix_mask_iff listed]
    rcases goesOn with rfl | ⟨_, behind, rfl⟩
    · exact List.cons_ne_nil quote [] ∘ List.prefix_nil.mp
    · intro starts
      exact Lexicon.ne_feed_of_isQuote isQuote (List.cons_prefix_cons.mp starts).1
  have ends : triple = true → language.lexicon.mask rest = [] := by
    rintro rfl
    rcases goesOn with rfl | ⟨single, _⟩
    · rfl
    · cases single
  rw [← Cursor.literal?_unclosed_eq_none_iff isQuote sized whole apart ends, read,
    Except.ok.injEq, Option.map_eq_none_iff]

/-- The literal of a lexeme is read at the start of the lexeme, if and only if what follows the
lexeme does not mislead. -/
theorem literalAt?_of_divides
    (divides : language.lexicon.Divides source
      (before ++ .literal quote triple contents closed :: after)) :
    ∃ read?, language.lexicon.literalAt? source (Text.size (before.flatMap Lexeme.text)) =
        .ok read? ∧
      (read? = (Lexeme.literal quote triple contents closed).literalAt?
          (Text.size (before.flatMap Lexeme.text)) ↔
        ¬(Lexeme.literal quote triple contents closed).Misleads after) := by
  have regular := language.regular_lexicon
  obtain ⟨rest, whole, begins, behind⟩ := divides.exists_begins
  have masked := Lexicon.mask_of_divides regular divides
  have shows := Lexicon.mask_of_divides regular behind
  rw [List.flatMap_append, List.flatMap_cons, ← shows] at masked
  obtain ⟨read?, read, reads⟩ := Lexicon.exists_literalAt? masked
  have sized : Text.size (before.flatMap Lexeme.shown).reverse =
      Text.size (before.flatMap Lexeme.text) := by
    rw [Text.size_reverse, Lexeme.size_flatMap_shown]
  rw [Lexeme.size_flatMap_shown] at reads
  refine ⟨_, reads, ?_⟩
  simp only [Lexeme.text, Lexeme.shown, List.append_assoc] at whole read
  cases begins with
  | literal _ _ listed _ upTo unclosed =>
      cases closed with
      | true =>
          rw [Lexeme.misleads_closed_iff, ← behind.text_eq]
          exact read_closed_iff listed sized whole read
      | false =>
          rw [Lexeme.misleads_unclosed_iff, ← shows]
          apply read_unclosed_iff listed sized whole ?_ read
          rcases upTo.rest_cases with nothing | closes | ⟨single, _, feed⟩
          · exact Or.inl nothing
          · exact absurd closes (unclosed rfl)
          · exact Or.inr ⟨single, feed⟩

theorem literalAt?_word :
    python.lexicon.Divides "x = \"ab\"".toList
        ("x = ".toList.map Lexeme.code ++ [.literal '"' false "ab".toList true]) ∧
      python.lexicon.literalAt? "x = \"ab\"".toList 4 = .ok (some ("ab".toList, 8)) := by
  have regular := python.regular_lexicon
  have divides : python.lexicon.Divides ("x = ".toList ++ "\"ab\"".toList)
      ("x = ".toList.map Lexeme.code ++ [.literal '"' false "ab".toList true]) := by
    apply Lexicon.divides_plain regular rfl
    exact Lexicon.divides_literal regular rfl (by decide) (by decide) rfl (by decide) .nil
  refine ⟨divides, ?_⟩
  obtain ⟨read?, reads, read⟩ := literalAt?_of_divides divides
  have clear : ¬(Lexeme.literal '"' false "ab".toList true).Misleads [] := by
    rw [Lexeme.misleads_closed_iff]
    decide
  rw [read.mpr clear] at reads
  exact reads

/-- A literal that its line leaves open is read up to a quote of another line, and the first of two
literals side by side is not read. -/
theorem literalAt?_misled :
    (python.lexicon.Divides "x = \"ab\ny = \"c\"".toList
        ("x = ".toList.map Lexeme.code ++ .literal '"' false "ab".toList false ::
          ("\ny = ".toList.map Lexeme.code ++ [.literal '"' false "c".toList true])) ∧
      python.lexicon.literalAt? "x = \"ab\ny = \"c\"".toList 4 =
        .ok (some ("ab\ny = ".toList, 13))) ∧
    c.lexicon.Divides "\"\"\"a\";".toList
        (.literal '"' false [] true :: .literal '"' false "a".toList true :: [.code ';']) ∧
      c.lexicon.literalAt? "\"\"\"a\";".toList 0 = .ok none := by
  refine ⟨⟨?unclosed, rfl⟩, ?adjacent, rfl⟩
  case unclosed =>
    have regular := python.regular_lexicon
    have second : python.lexicon.Divides ("\ny = ".toList ++ "\"c\"".toList)
        ("\ny = ".toList.map Lexeme.code ++ [.literal '"' false "c".toList true]) := by
      apply Lexicon.divides_plain regular rfl
      exact Lexicon.divides_literal regular rfl (by decide) (by decide) rfl (by decide) .nil
    change python.lexicon.Divides ("x = ".toList ++ "\"ab\ny = \"c\"".toList) _
    apply Lexicon.divides_plain regular rfl
    exact Lexicon.divides_literal regular rfl (by decide) (by decide) rfl (by decide) second
  case adjacent =>
    have regular := c.regular_lexicon
    have third : c.lexicon.Divides ";".toList [.code ';'] :=
      .cons (Lexicon.begins_code regular rfl []) .nil
    have second : c.lexicon.Divides "\"a\";".toList
        (.literal '"' false "a".toList true :: [.code ';']) :=
      Lexicon.divides_literal regular rfl (by decide) (by decide) rfl (by decide) third
    exact Lexicon.divides_literal regular rfl (by decide) (by decide) rfl (by decide) second

end Language

end InputDemand
