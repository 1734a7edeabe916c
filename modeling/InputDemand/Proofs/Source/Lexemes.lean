import InputDemand.Proofs.Source.Clean

/-!
# The lexemes of a source

A source divides into lexemes: characters of program text, comments and literals.  The rules below
say which lexeme comes next and how far it goes, without a scan and its modes.  Masking keeps
program text and the quotes around literals and blanks out everything else, lexeme by lexeme.
-/

namespace InputDemand

/-- The front of a text up to the first place where it ends, or else the whole text.  Where there
are escapes, a backslash takes the next character along, whatever that is. -/
inductive UpTo (escapes : Bool) (ends : Text → Prop) : Text → Text → Prop
  | stop {rest : Text} : rest = [] ∨ ends rest → UpTo escapes ends [] rest
  | letter {letter : Char} {front rest : Text} : ¬(escapes = true ∧ letter = '\\') →
      ¬ends (letter :: (front ++ rest)) → UpTo escapes ends front rest →
      UpTo escapes ends (letter :: front) rest
  | escape {letter : Char} {front rest : Text} : escapes = true → UpTo escapes ends front rest →
      UpTo escapes ends ('\\' :: letter :: front) rest
  | lone : escapes = true → UpTo escapes ends ['\\'] []

theorem exists_upTo (escapes : Bool) (ends : Text → Prop) : ∀ text : Text,
    ∃ front rest, text = front ++ rest ∧ UpTo escapes ends front rest
  | [] => ⟨[], [], rfl, .stop (Or.inl rfl)⟩
  | letter :: text => by
      by_cases ended : ends (letter :: text)
      · exact ⟨[], letter :: text, rfl, .stop (Or.inr ended)⟩
      · by_cases escape : escapes = true ∧ letter = '\\'
        · obtain ⟨escapes, rfl⟩ := escape
          cases text with
          | nil => exact ⟨['\\'], [], rfl, .lone escapes⟩
          | cons second text =>
              obtain ⟨front, rest, rfl, upTo⟩ := exists_upTo _ ends text
              exact ⟨'\\' :: second :: front, rest, rfl, .escape escapes upTo⟩
        · obtain ⟨front, rest, rfl, upTo⟩ := exists_upTo escapes ends text
          exact ⟨letter :: front, rest, rfl, .letter escape ended upTo⟩

namespace UpTo

variable {escapes : Bool} {ends : Text → Prop} {front rest : Text}

theorem rest_cases (upTo : UpTo escapes ends front rest) : rest = [] ∨ ends rest := by
  induction upTo with
  | stop ended => exact ended
  | letter _ _ _ inductionHypothesis => exact inductionHypothesis
  | escape _ _ inductionHypothesis => exact inductionHypothesis
  | lone => exact Or.inl rfl

end UpTo

/-! ## Lexemes -/

/-- What stands for a hidden text. -/
def blanked (text : Text) : Text :=
  text.flatMap hidden

theorem blanked_cons (letter : Char) (text : Text) :
    blanked (letter :: text) = hidden letter ++ blanked text :=
  List.flatMap_cons

theorem blanked_append (front back : Text) :
    blanked (front ++ back) = blanked front ++ blanked back :=
  List.flatMap_append

/-- The quotes that open a literal, and that close it. -/
def delimiter (quote : Char) (triple : Bool) : Text :=
  List.replicate (if triple then 3 else 1) quote

/-- A piece of a source that is read as a whole. -/
inductive Lexeme where
  /-- A character of program text. -/
  | code (letter : Char)
  /-- A comment that runs to the end of its line. -/
  | lineComment (text : Text)
  /-- A comment between slash-star and star-slash; the latter may be missing. -/
  | blockComment (inside : Text) (closed : Bool)
  /-- A literal with its contents; the quotes that close it may be missing. -/
  | literal (quote : Char) (triple : Bool) (contents : Text) (closed : Bool)
deriving DecidableEq, Repr

namespace Lexeme

/-- What closes a lexeme, unless it is missing. -/
def closing (closed : Bool) (mark : Text) : Text :=
  if closed then mark else []

/-- The lexeme as the source has it. -/
def text : Lexeme → Text
  | code letter => [letter]
  | lineComment text => text
  | blockComment inside closed => ['/', '*'] ++ (inside ++ closing closed ['*', '/'])
  | literal quote triple contents closed =>
      delimiter quote triple ++ (contents ++ closing closed (delimiter quote triple))

/-- The lexeme as masked source has it. -/
def shown : Lexeme → Text
  | code letter => [letter]
  | lineComment text => blanked text
  | blockComment inside closed => blanked (blockComment inside closed).text
  | literal quote triple contents closed =>
      delimiter quote triple ++ (blanked contents ++ closing closed (delimiter quote triple))

end Lexeme

namespace Lexicon

def OpensLine (lexicon : Lexicon) (text : Text) : Prop :=
  ∃ mark ∈ lexicon.lineComments, mark <+: text

def OpensBlock (lexicon : Lexicon) (text : Text) : Prop :=
  lexicon.blockComments = true ∧ ['/', '*'] <+: text

/-- A literal ends at the quotes that close it, and at the end of its line unless it may go on. -/
def EndsLiteral (lexicon : Lexicon) (quote : Char) (triple : Bool) (rest : Text) : Prop :=
  delimiter quote triple <+: rest ∨
    triple = false ∧ quote ∉ lexicon.spanningQuotes ∧ ['\n'] <+: rest

/-- The whole text begins with a lexeme, and the rest is left behind it. -/
inductive Begins (lexicon : Lexicon) (whole : Text) : Lexeme → Text → Prop
  | lineComment {text rest : Text} : lexicon.OpensLine whole →
      UpTo false (['\n'] <+: ·) text rest → Begins lexicon whole (.lineComment text) rest
  | blockComment {inside rest : Text} {closed : Bool} :
      ¬lexicon.OpensLine whole → lexicon.OpensBlock whole →
      UpTo false (['*', '/'] <+: ·) inside (Lexeme.closing closed ['*', '/'] ++ rest) →
      (closed = false → ¬['*', '/'] <+: rest) →
      Begins lexicon whole (.blockComment inside closed) rest
  | literal {quote : Char} {triple closed : Bool} {contents rest : Text} :
      ¬lexicon.OpensLine whole → ¬lexicon.OpensBlock whole → quote ∈ lexicon.quotes →
      (triple = true ↔ lexicon.tripleQuotes = true ∧ delimiter quote true <+: whole) →
      UpTo true (lexicon.EndsLiteral quote triple) contents
        (Lexeme.closing closed (delimiter quote triple) ++ rest) →
      (closed = false → ¬delimiter quote triple <+: rest) →
      Begins lexicon whole (.literal quote triple contents closed) rest
  | code {letter : Char} {rest : Text} : ¬lexicon.OpensLine whole → ¬lexicon.OpensBlock whole →
      letter ∉ lexicon.quotes → Begins lexicon whole (.code letter) rest

/-- A source divides into these lexemes. -/
inductive Divides (lexicon : Lexicon) : Text → List Lexeme → Prop
  | nil : Divides lexicon [] []
  | cons {lexeme : Lexeme} {rest : Text} {lexemes : List Lexeme} :
      lexicon.Begins (lexeme.text ++ rest) lexeme rest → Divides lexicon rest lexemes →
      Divides lexicon (lexeme.text ++ rest) (lexeme :: lexemes)

variable {lexicon : Lexicon} {quote letter : Char} {triple closed : Bool}
  {contents inside text rest : Text}

/-! ## Program text -/

theorem opensLine_iff : (lexicon.lineComments.any fun mark => mark.isPrefixOf text) = true ↔
    lexicon.OpensLine text := by
  simp only [List.any_eq_true, List.isPrefixOf_iff_prefix, OpensLine]

theorem opensBlock_iff : (lexicon.blockComments && ['/', '*'].isPrefixOf text) = true ↔
    lexicon.OpensBlock text := by
  rw [Bool.and_eq_true, List.isPrefixOf_iff_prefix, OpensBlock]

instance : Decidable (lexicon.OpensLine text) :=
  decidable_of_iff _ opensLine_iff

instance : Decidable (lexicon.OpensBlock text) :=
  decidable_of_iff _ opensBlock_iff

instance : Decidable (lexicon.EndsLiteral quote triple rest) :=
  inferInstanceAs (Decidable (_ ∨ _))

theorem codeStep_of_opensLine (opens : lexicon.OpensLine (letter :: rest)) :
    lexicon.codeStep letter rest = (.lineComment, false) := by
  rw [codeStep, if_pos (opensLine_iff.mpr opens)]

theorem codeStep_of_opensBlock (noLine : ¬lexicon.OpensLine (letter :: rest))
    (opens : lexicon.OpensBlock (letter :: rest)) :
    lexicon.codeStep letter rest = (.blockOpening, false) := by
  rw [codeStep, if_neg (mt opensLine_iff.mp noLine), if_pos (opensBlock_iff.mpr opens)]

theorem codeStep_of_quote (noLine : ¬lexicon.OpensLine (quote :: rest))
    (noBlock : ¬lexicon.OpensBlock (quote :: rest)) (isQuote : quote ∈ lexicon.quotes)
    (opens : triple = true ↔ lexicon.tripleQuotes = true ∧ delimiter quote true <+: quote :: rest) :
    lexicon.codeStep quote rest =
      (if triple then .opening quote 2 else .literal quote false, true) := by
  have same : lexicon.opensTriple quote (quote :: rest) = triple := by
    rw [Bool.eq_iff_iff, opens, opensTriple, Bool.and_eq_true, List.isPrefixOf_iff_prefix]
    rfl
  rw [codeStep, if_neg (mt opensLine_iff.mp noLine), if_neg (mt opensBlock_iff.mp noBlock),
    if_pos (List.contains_iff_mem.mpr isQuote), same]
  cases triple <;> rfl

theorem codeStep_of_code (noLine : ¬lexicon.OpensLine (letter :: rest))
    (noBlock : ¬lexicon.OpensBlock (letter :: rest)) (noQuote : letter ∉ lexicon.quotes) :
    lexicon.codeStep letter rest = (.code, true) := by
  rw [codeStep, if_neg (mt opensLine_iff.mp noLine), if_neg (mt opensBlock_iff.mp noBlock),
    if_neg (mt List.contains_iff_mem.mp noQuote)]

theorem maskFrom_stays {mode after : MaskMode}
    (step : lexicon.step letter rest mode = (after, true)) :
    lexicon.maskFrom mode (letter :: rest) = letter :: lexicon.maskFrom after rest := by
  rw [maskFrom, step]
  rfl

theorem maskFrom_hides {mode after : MaskMode}
    (step : lexicon.step letter rest mode = (after, false)) :
    lexicon.maskFrom mode (letter :: rest) = hidden letter ++ lexicon.maskFrom after rest := by
  rw [maskFrom, step]
  rfl

theorem mask_feed (regular : lexicon.Regular) (rest : Text) :
    lexicon.mask ('\n' :: rest) = '\n' :: lexicon.mask rest :=
  maskFrom_stays (codeStep_of_not_isSign regular rfl rest)

/-! ## Comments -/

theorem maskFrom_lineComment (regular : lexicon.Regular)
    (upTo : UpTo false (['\n'] <+: ·) text rest) :
    lexicon.maskFrom .lineComment (text ++ rest) = blanked text ++ lexicon.mask rest := by
  induction upTo with
  | stop ended =>
      rcases ended with rfl | ⟨rest, rfl⟩
      · rfl
      · exact (maskFrom_stays rfl).trans (mask_feed regular rest).symm
  | @letter letter front rest _ noFeed _ inductionHypothesis =>
      have different : letter ≠ '\n' := by
        rintro rfl
        exact noFeed ⟨front ++ rest, rfl⟩
      have step : lexicon.step letter (front ++ rest) .lineComment = (.lineComment, false) :=
        if_neg different
      rw [List.cons_append, maskFrom_hides step, inductionHypothesis, blanked_cons,
        List.append_assoc]
  | escape escapes => cases escapes
  | lone escapes => cases escapes

theorem maskFrom_block (upTo : UpTo false (['*', '/'] <+: ·) inside rest) :
    lexicon.maskFrom .block (inside ++ rest) = blanked inside ++ lexicon.maskFrom .block rest := by
  induction upTo with
  | stop => rfl
  | @letter letter front rest _ noClose _ inductionHypothesis =>
      have step : lexicon.step letter (front ++ rest) .block = (.block, false) :=
        if_neg (mt List.isPrefixOf_iff_prefix.mp noClose)
      rw [List.cons_append, maskFrom_hides step, inductionHypothesis, blanked_cons,
        List.append_assoc]
  | escape escapes => cases escapes
  | lone escapes => cases escapes

/-! ## Literals -/

theorem step_literal (noEscape : letter ≠ '\\')
    (goesOn : ¬lexicon.EndsLiteral quote triple (letter :: rest)) :
    lexicon.step letter rest (.literal quote triple) = (.literal quote triple, false) := by
  have noFeed : ¬(letter = '\n' && !triple && !lexicon.spanningQuotes.contains quote) = true := by
    intro feed
    simp only [Bool.and_eq_true, decide_eq_true_eq, Bool.not_eq_true'] at feed
    obtain ⟨⟨rfl, single⟩, narrow⟩ := feed
    rw [← Bool.not_eq_true, List.contains_iff_mem] at narrow
    exact goesOn (Or.inr ⟨single, narrow, rest, rfl⟩)
  simp only [step, if_neg noEscape, if_neg noFeed]
  by_cases same : letter = quote
  · subst same
    rw [if_pos rfl]
    cases triple with
    | false => exact absurd (Or.inl ⟨rest, rfl⟩) goesOn
    | true =>
        have noClose : ¬[letter, letter, letter].isPrefixOf (letter :: rest) = true := by
          rw [List.isPrefixOf_iff_prefix]
          exact fun closes => goesOn (Or.inl closes)
        rw [if_neg noClose]
        rfl
  · rw [if_neg same]

theorem maskFrom_contents
    (upTo : UpTo true (lexicon.EndsLiteral quote triple) contents rest) :
    lexicon.maskFrom (.literal quote triple) (contents ++ rest) =
      blanked contents ++ lexicon.maskFrom (.literal quote triple) rest := by
  induction upTo with
  | stop => rfl
  | @letter letter front rest plain goesOn _ inductionHypothesis =>
      have noEscape : letter ≠ '\\' := fun escape => plain ⟨rfl, escape⟩
      rw [List.cons_append, maskFrom_hides (step_literal noEscape goesOn), inductionHypothesis,
        blanked_cons, List.append_assoc]
  | @escape letter front rest _ _ inductionHypothesis =>
      have first : lexicon.step '\\' (letter :: (front ++ rest)) (.literal quote triple) =
          (.escaped quote triple, false) := by
        rw [step, if_pos rfl]
      have second : lexicon.step letter (front ++ rest) (.escaped quote triple) =
          (.literal quote triple, false) := rfl
      rw [List.cons_append, List.cons_append, maskFrom_hides first, maskFrom_hides second,
        inductionHypothesis, blanked_cons, blanked_cons, List.append_assoc, List.append_assoc]
  | lone => rfl

theorem maskFrom_opening (noLine : ¬lexicon.OpensLine (delimiter quote triple ++ rest))
    (noBlock : ¬lexicon.OpensBlock (delimiter quote triple ++ rest))
    (isQuote : quote ∈ lexicon.quotes)
    (opens : triple = true ↔
      lexicon.tripleQuotes = true ∧ delimiter quote true <+: delimiter quote triple ++ rest) :
    lexicon.mask (delimiter quote triple ++ rest) =
      delimiter quote triple ++ lexicon.maskFrom (.literal quote triple) rest := by
  cases triple with
  | false =>
      have step : lexicon.step quote rest .code = (.literal quote false, true) :=
        codeStep_of_quote noLine noBlock isQuote opens
      exact maskFrom_stays step
  | true =>
      have step : lexicon.step quote (quote :: quote :: rest) .code = (.opening quote 2, true) :=
        codeStep_of_quote noLine noBlock isQuote opens
      refine (maskFrom_stays step).trans (congrArg (quote :: ·) ?_)
      exact (maskFrom_stays rfl).trans (congrArg (quote :: ·) (maskFrom_stays rfl))

theorem ne_escape_of_isQuote (isQuote : Text.isQuote quote = true) : quote ≠ '\\' := by
  rintro rfl
  cases isQuote

theorem ne_feed_of_isQuote (isQuote : Text.isQuote quote = true) : quote ≠ '\n' := by
  rintro rfl
  cases isQuote

theorem maskFrom_closing (isQuote : Text.isQuote quote = true) (rest : Text) :
    lexicon.maskFrom (.literal quote triple) (delimiter quote triple ++ rest) =
      delimiter quote triple ++ lexicon.mask rest := by
  have noEscape := ne_escape_of_isQuote isQuote
  have noFeed := ne_feed_of_isQuote isQuote
  cases triple with
  | false =>
      have step : lexicon.step quote rest (.literal quote false) = (.code, true) := by
        simp [step, noEscape, noFeed]
      exact maskFrom_stays step
  | true =>
      have step : lexicon.step quote (quote :: quote :: rest) (.literal quote true) =
          (.closing 2, true) := by
        simp [step, noEscape]
      refine (maskFrom_stays step).trans (congrArg (quote :: ·) ?_)
      exact (maskFrom_stays rfl).trans (congrArg (quote :: ·) (maskFrom_stays rfl))

/-- Where a literal is not closed, program text goes on: nothing, or the end of its line. -/
theorem maskFrom_unclosed (regular : lexicon.Regular) (isQuote : Text.isQuote quote = true)
    (ended : rest = [] ∨ lexicon.EndsLiteral quote triple rest)
    (unclosed : ¬delimiter quote triple <+: rest) :
    lexicon.maskFrom (.literal quote triple) rest = lexicon.mask rest := by
  rcases ended with rfl | closes | ⟨rfl, narrow, rest, rfl⟩
  · rfl
  · exact absurd closes unclosed
  · have different := (ne_feed_of_isQuote isQuote).symm
    have step : lexicon.step '\n' rest (.literal quote false) = (.code, true) := by
      simp [step, narrow]
    exact (maskFrom_stays step).trans (mask_feed regular rest).symm

/-! ## Masking lexeme by lexeme -/

theorem opensLine_cons (regular : lexicon.Regular) (opens : lexicon.OpensLine (text ++ rest))
    (upTo : UpTo false (['\n'] <+: ·) text rest) :
    ∃ letter front, text = letter :: front ∧ UpTo false (['\n'] <+: ·) front rest := by
  obtain ⟨mark, listed, starts⟩ := opens
  obtain ⟨nonempty, signs⟩ := regular.marks mark listed
  cases upTo with
  | stop ended =>
      -- A comment begins with a sign, so it is not over where it begins.
      cases mark with
      | nil => exact absurd rfl nonempty
      | cons first mark =>
          rcases ended with rfl | ⟨rest, rfl⟩
          · cases List.prefix_nil.mp starts
          · obtain ⟨rfl, _⟩ := List.cons_prefix_cons.mp starts
            cases signs '\n' List.mem_cons_self
  | letter _ _ upTo => exact ⟨_, _, rfl, upTo⟩
  | escape escapes => cases escapes
  | lone escapes => cases escapes

theorem mask_blockComment
    (noLine : ¬lexicon.OpensLine ((Lexeme.blockComment inside closed).text ++ rest))
    (opens : lexicon.OpensBlock ((Lexeme.blockComment inside closed).text ++ rest))
    (upTo : UpTo false (['*', '/'] <+: ·) inside (Lexeme.closing closed ['*', '/'] ++ rest))
    (unclosed : closed = false → ¬['*', '/'] <+: rest) :
    lexicon.mask ((Lexeme.blockComment inside closed).text ++ rest) =
      (Lexeme.blockComment inside closed).shown ++ lexicon.mask rest := by
  have ends : lexicon.maskFrom .block (Lexeme.closing closed ['*', '/'] ++ rest) =
      blanked (Lexeme.closing closed ['*', '/']) ++ lexicon.mask rest := by
    cases closed with
    | false =>
        rcases upTo.rest_cases with none | closes
        · rw [show rest = [] from none]
          rfl
        · exact absurd closes (unclosed rfl)
    | true => rfl
  have whole : (Lexeme.blockComment inside closed).text ++ rest =
      '/' :: '*' :: (inside ++ (Lexeme.closing closed ['*', '/'] ++ rest)) := by
    simp [Lexeme.text]
  rw [whole] at noLine opens ⊢
  have step : lexicon.step '/' ('*' :: (inside ++ (Lexeme.closing closed ['*', '/'] ++ rest)))
      .code = (.blockOpening, false) := codeStep_of_opensBlock noLine opens
  calc lexicon.mask ('/' :: '*' :: (inside ++ (Lexeme.closing closed ['*', '/'] ++ rest)))
      _ = hidden '/' ++ (hidden '*' ++ lexicon.maskFrom .block
            (inside ++ (Lexeme.closing closed ['*', '/'] ++ rest))) := maskFrom_hides step
      _ = _ := by
        rw [maskFrom_block upTo, ends]
        simp [Lexeme.shown, Lexeme.text, blanked_cons, blanked_append]

theorem mask_literal (regular : lexicon.Regular) {whole : Text}
    (same : whole = (Lexeme.literal quote triple contents closed).text ++ rest)
    (noLine : ¬lexicon.OpensLine whole) (noBlock : ¬lexicon.OpensBlock whole)
    (isQuote : quote ∈ lexicon.quotes)
    (opens : triple = true ↔ lexicon.tripleQuotes = true ∧ delimiter quote true <+: whole)
    (upTo : UpTo true (lexicon.EndsLiteral quote triple) contents
      (Lexeme.closing closed (delimiter quote triple) ++ rest))
    (unclosed : closed = false → ¬delimiter quote triple <+: rest) :
    lexicon.mask whole =
      (Lexeme.literal quote triple contents closed).shown ++ lexicon.mask rest := by
  have isQuote' := regular.quotes quote isQuote
  have ends : lexicon.maskFrom (.literal quote triple)
      (Lexeme.closing closed (delimiter quote triple) ++ rest) =
        Lexeme.closing closed (delimiter quote triple) ++ lexicon.mask rest := by
    cases closed with
    | false => exact maskFrom_unclosed regular isQuote' upTo.rest_cases (unclosed rfl)
    | true => exact maskFrom_closing isQuote' rest
  rw [Lexeme.text, List.append_assoc, List.append_assoc] at same
  subst same
  rw [maskFrom_opening noLine noBlock isQuote opens, maskFrom_contents upTo, ends, Lexeme.shown,
    List.append_assoc, List.append_assoc]

theorem mask_of_begins (regular : lexicon.Regular) {lexeme : Lexeme}
    (begins : lexicon.Begins (lexeme.text ++ rest) lexeme rest) :
    lexicon.mask (lexeme.text ++ rest) = lexeme.shown ++ lexicon.mask rest := by
  cases begins with
  | lineComment opens upTo =>
      obtain ⟨letter, front, rfl, inside⟩ := opensLine_cons regular opens upTo
      have step : lexicon.step letter (front ++ rest) .code = (.lineComment, false) :=
        codeStep_of_opensLine opens
      calc lexicon.mask (letter :: (front ++ rest))
          _ = hidden letter ++ lexicon.maskFrom .lineComment (front ++ rest) := maskFrom_hides step
          _ = _ := by
            rw [maskFrom_lineComment regular inside, Lexeme.shown, blanked_cons,
              List.append_assoc]
  | blockComment noLine opens upTo unclosed => exact mask_blockComment noLine opens upTo unclosed
  | literal noLine noBlock isQuote opens upTo unclosed =>
      exact mask_literal regular rfl noLine noBlock isQuote opens upTo unclosed
  | code noLine noBlock noQuote => exact maskFrom_stays (codeStep_of_code noLine noBlock noQuote)

/-- Masked source is made of what is shown of the lexemes of the source. -/
theorem mask_of_divides (regular : lexicon.Regular) {source : Text} {lexemes : List Lexeme}
    (divides : lexicon.Divides source lexemes) :
    lexicon.mask source = lexemes.flatMap Lexeme.shown := by
  induction divides with
  | nil => rfl
  | cons begins _ inductionHypothesis =>
      rw [mask_of_begins regular begins, inductionHypothesis, List.flatMap_cons]

theorem Divides.text_eq {source : Text} {lexemes : List Lexeme}
    (divides : lexicon.Divides source lexemes) : source = lexemes.flatMap Lexeme.text := by
  induction divides with
  | nil => rfl
  | cons _ _ inductionHypothesis => rw [List.flatMap_cons, ← inductionHypothesis]

/-- Each lexeme of a source begins what is left there. -/
theorem Divides.exists_begins {source : Text} {before after : List Lexeme} {lexeme : Lexeme}
    (divides : lexicon.Divides source (before ++ lexeme :: after)) :
    ∃ rest, source = before.flatMap Lexeme.text ++ (lexeme.text ++ rest) ∧
      lexicon.Begins (lexeme.text ++ rest) lexeme rest ∧ lexicon.Divides rest after := by
  induction before generalizing source with
  | nil =>
      cases divides with
      | cons begins divides => exact ⟨_, rfl, begins, divides⟩
  | cons first before inductionHypothesis =>
      cases divides with
      | cons _ divides =>
          obtain ⟨rest, rfl, begins, divides⟩ := inductionHypothesis divides
          refine ⟨rest, ?_, begins, divides⟩
          rw [List.flatMap_cons, List.append_assoc]

/-! ## Every source divides -/

theorem exists_closing (mark rest : Text) :
    ∃ closed behind, rest = Lexeme.closing closed mark ++ behind ∧
      (closed = false → ¬mark <+: behind) := by
  by_cases closes : mark <+: rest
  · obtain ⟨behind, rfl⟩ := closes
    exact ⟨true, behind, rfl, fun missing => by cases missing⟩
  · exact ⟨false, rest, rfl, fun _ => closes⟩

theorem exists_delimiter (lexicon : Lexicon) (quote : Char) (behind : Text) :
    ∃ triple rest, quote :: behind = delimiter quote triple ++ rest ∧
      (triple = true ↔ lexicon.tripleQuotes = true ∧ delimiter quote true <+: quote :: behind) := by
  by_cases opens : lexicon.tripleQuotes = true ∧ delimiter quote true <+: quote :: behind
  · obtain ⟨rest, whole⟩ := opens.2
    exact ⟨true, rest, whole.symm, fun _ => opens, fun _ => rfl⟩
  · refine ⟨false, behind, rfl, ?_⟩
    exact iff_of_false Bool.false_ne_true opens

theorem exists_begins (nonempty : text ≠ []) :
    ∃ lexeme rest, text = lexeme.text ++ rest ∧ lexicon.Begins text lexeme rest := by
  by_cases line : lexicon.OpensLine text
  · obtain ⟨comment, rest, whole, upTo⟩ := exists_upTo false (['\n'] <+: ·) text
    exact ⟨.lineComment comment, rest, whole, .lineComment line upTo⟩
  · by_cases block : lexicon.OpensBlock text
    · obtain ⟨behind, rfl⟩ := block.2
      obtain ⟨inside, rest, rfl, upTo⟩ := exists_upTo false (['*', '/'] <+: ·) behind
      obtain ⟨closed, rest, rfl, unclosed⟩ := exists_closing ['*', '/'] rest
      refine ⟨.blockComment inside closed, rest, ?_, .blockComment line block upTo unclosed⟩
      rw [Lexeme.text, List.append_assoc, List.append_assoc]
    · obtain ⟨letter, behind, rfl⟩ := List.exists_cons_of_ne_nil nonempty
      by_cases quote : letter ∈ lexicon.quotes
      · obtain ⟨triple, inside, whole, opens⟩ := exists_delimiter lexicon letter behind
        obtain ⟨contents, rest, rfl, upTo⟩ :=
          exists_upTo true (lexicon.EndsLiteral letter triple) inside
        obtain ⟨closed, rest, rfl, unclosed⟩ := exists_closing (delimiter letter triple) rest
        refine ⟨.literal letter triple contents closed, rest, ?_,
          .literal line block quote opens upTo unclosed⟩
        rw [whole, Lexeme.text, List.append_assoc, List.append_assoc]
      · exact ⟨.code letter, behind, rfl, .code line block quote⟩

theorem text_ne_nil_of_begins (regular : lexicon.Regular) {lexeme : Lexeme}
    (begins : lexicon.Begins (lexeme.text ++ rest) lexeme rest) : lexeme.text ≠ [] := by
  cases begins with
  | lineComment opens upTo =>
      obtain ⟨letter, front, rfl, _⟩ := opensLine_cons regular opens upTo
      exact List.cons_ne_nil letter front
  | blockComment => exact List.cons_ne_nil _ _
  | @literal _ triple => cases triple <;> exact List.cons_ne_nil _ _
  | code => exact List.cons_ne_nil _ _

/-- Every source divides into lexemes. -/
theorem exists_divides (regular : lexicon.Regular) (source : Text) :
    ∃ lexemes, lexicon.Divides source lexemes := by
  induction length : source.length using Nat.strong_induction_on generalizing source with
  | _ count inductionHypothesis =>
      by_cases nonempty : source = []
      · exact ⟨[], nonempty ▸ .nil⟩
      · obtain ⟨lexeme, rest, rfl, begins⟩ :
            ∃ lexeme rest, source = lexeme.text ++ rest ∧ lexicon.Begins source lexeme rest :=
          exists_begins nonempty
        have taken := List.length_pos_iff.mpr (text_ne_nil_of_begins regular begins)
        rw [List.length_append] at length
        obtain ⟨lexemes, divides⟩ := inductionHypothesis rest.length (by omega) rest rfl
        exact ⟨lexeme :: lexemes, .cons begins divides⟩

/-! ## Plain text -/

theorem begins_code (regular : lexicon.Regular) (plain : isSign letter = false) (rest : Text) :
    lexicon.Begins ((Lexeme.code letter).text ++ rest) (.code letter) rest := by
  apply Begins.code
  · rintro ⟨mark, listed, starts⟩
    obtain ⟨nonempty, signs⟩ := regular.marks mark listed
    obtain ⟨first, mark, rfl⟩ := List.exists_cons_of_ne_nil nonempty
    obtain ⟨rfl, _⟩ := List.cons_prefix_cons.mp starts
    rw [signs first List.mem_cons_self] at plain
    cases plain
  · rintro ⟨_, starts⟩
    obtain ⟨rfl, _⟩ := List.cons_prefix_cons.mp starts
    cases plain
  · intro listed
    rw [isSign_of_isQuote (regular.quotes letter listed)] at plain
    cases plain

/-- Text without signs is program text, letter by letter. -/
theorem divides_plain (regular : lexicon.Regular) {lexemes : List Lexeme}
    (plain : text.all (fun letter => !isSign letter) = true)
    (divides : lexicon.Divides rest lexemes) :
    lexicon.Divides (text ++ rest) (text.map Lexeme.code ++ lexemes) := by
  induction text with
  | nil => exact divides
  | cons letter text inductionHypothesis =>
      rw [List.all_cons, Bool.and_eq_true, Bool.not_eq_true'] at plain
      exact .cons (begins_code regular plain.1 _) (inductionHypothesis plain.2)

/-- Whether a letter in a literal neither escapes nor ends anything. -/
def isContents (quote letter : Char) : Bool :=
  letter ≠ '\\' && letter ≠ quote && letter ≠ '\n'

theorem upTo_plain (plain : contents.all (isContents quote) = true)
    (ended : rest = [] ∨ lexicon.EndsLiteral quote triple rest) :
    UpTo true (lexicon.EndsLiteral quote triple) contents rest := by
  induction contents with
  | nil => exact .stop ended
  | cons letter contents inductionHypothesis =>
      simp only [List.all_cons, isContents, Bool.and_eq_true, decide_eq_true_eq] at plain
      obtain ⟨⟨⟨noEscape, noQuote⟩, noFeed⟩, plain⟩ := plain
      refine .letter (fun escape => noEscape escape.2) ?_ (inductionHypothesis plain)
      rintro (closes | ⟨_, _, feed⟩)
      · cases triple <;> exact noQuote (List.cons_prefix_cons.mp closes).1.symm
      · exact noFeed (List.cons_prefix_cons.mp feed).1.symm

/-- A literal of such letters is closed, or its line ends behind it. -/
theorem divides_literal (regular : lexicon.Regular) {source : Text} {lexemes : List Lexeme}
    (whole : source = (Lexeme.literal quote false contents closed).text ++ rest)
    (opens : ¬lexicon.OpensLine source ∧ ¬lexicon.OpensBlock source ∧ quote ∈ lexicon.quotes)
    (single : ¬(lexicon.tripleQuotes = true ∧ delimiter quote true <+: source))
    (plain : contents.all (isContents quote) = true)
    (ended : closed = true ∨ quote ∉ lexicon.spanningQuotes ∧ ['\n'] <+: rest)
    (divides : lexicon.Divides rest lexemes) :
    lexicon.Divides source (.literal quote false contents closed :: lexemes) := by
  subst whole
  obtain ⟨noLine, noBlock, listed⟩ := opens
  have open' : closed = false → quote ∉ lexicon.spanningQuotes ∧ ['\n'] <+: rest := by
    rintro rfl
    exact ended.resolve_left Bool.false_ne_true
  apply Divides.cons _ divides
  apply Begins.literal noLine noBlock listed (iff_of_false Bool.false_ne_true single)
  · apply upTo_plain plain
    cases closed with
    | true => exact Or.inr (Or.inl ⟨rest, rfl⟩)
    | false => exact Or.inr (Or.inr ⟨rfl, open' rfl⟩)
  · intro missing closes
    obtain ⟨_, behind, rfl⟩ := open' missing
    apply ne_feed_of_isQuote (regular.quotes quote listed)
    exact (List.cons_prefix_cons.mp closes).1

end Lexicon

end InputDemand
