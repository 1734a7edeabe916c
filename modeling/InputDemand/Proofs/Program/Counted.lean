import InputDemand.Language
import InputDemand.Proofs.Program.Template

/-!
# Programs with one counted loop

Reads a bound, then runs a loop that often whose body reads some variables, then reads some more
variables; every value is read on a line of its own.  The masked form of such a program has the same
lines, but for the contents of literals.
-/

namespace InputDemand

open Template

/-- A line that reads one value into the variable `name 0`: the call up to its opening bracket or
operator, what is handed to it, and what stands around the two. -/
structure ReadLine where
  before : Template
  call : Template
  handed : Template
  behind : Template

namespace ReadLine

def template (line : ReadLine) : Template :=
  line.before ++ (line.call ++ (line.handed ++ line.behind))

/-- The line that reads a value into a variable. -/
def text (line : ReadLine) (name : Text) : Text :=
  fill (fun _ => name) line.template

/-- The lines that read values into variables, each behind a line feed. -/
def below (line : ReadLine) (names : List Text) : Text :=
  names.flatMap fun name => '\n' :: line.text name

def indented (line : ReadLine) : ReadLine :=
  { line with before := "    " ++ line.before }

theorem text_eq (line : ReadLine) (name : Text) :
    line.text name = fill (fun _ => name) line.before ++ (fill (fun _ => name) line.call ++
      (fill (fun _ => name) line.handed ++ fill (fun _ => name) line.behind)) := by
  rw [text, template, fill_append, fill_append, fill_append]

theorem text_indented (line : ReadLine) (name : Text) :
    line.indented.text name = fill (fun _ => name) "    " ++ line.text name := by
  rw [text_eq, text_eq, indented, fill_append, List.append_assoc]

@[simp]
theorem below_nil (line : ReadLine) : line.below [] = [] := rfl

@[simp]
theorem below_cons (line : ReadLine) (name : Text) (names : List Text) :
    line.below (name :: names) = '\n' :: (line.text name ++ line.below names) := rfl

end ReadLine

/-- The names in a program with one counted loop. -/
structure CountedNames where
  /-- Tells how often the loop runs. -/
  bound : Text
  /-- Counts the passes. -/
  counter : Text
  /-- Are read in every pass, in this order. -/
  inside : List Text
  /-- Are read behind the loop, in this order. -/
  behind : List Text

namespace CountedNames

structure AreNames (names : CountedNames) : Prop where
  bound : Text.isName names.bound = true
  counter : Text.isName names.counter = true
  inside : ∀ name ∈ names.inside, Text.isName name = true
  behind : ∀ name ∈ names.behind, Text.isName name = true

/-- The names in the header of the loop: the counter and the bound. -/
def inHeader (names : CountedNames) : Nat → Text
  | 0 => names.counter
  | _ => names.bound

theorem AreNames.inHeader {names : CountedNames} (areNames : names.AreNames) (index : Nat) :
    Text.isName (names.inHeader index) = true := by
  cases index with
  | zero => exact areNames.counter
  | succ _ => exact areNames.bound

end CountedNames

namespace Language

/-- How a language reads a whole number. -/
def readLine : Language → ReadLine
  | python => ⟨name 0 ++ " = int(", "input(", [], "))"⟩
  | c => ⟨[], "scanf(", "\"%d\", &" ++ name 0, ");"⟩
  | cpp => ⟨[], "cin >>", " " ++ name 0, ";"⟩
  | java => ⟨"int " ++ name 0 ++ " = ", "sc.nextInt(", [], ");"⟩
  | javascript | typescript => ⟨"let " ++ name 0 ++ " = Number(", "prompt(", [], "));"⟩
  | go => ⟨[], "fmt.Scan(", "&" ++ name 0, ")"⟩
  | php => ⟨"$" ++ name 0 ++ " = (int)", "readline(", [], ");"⟩
  | r => ⟨name 0 ++ " <- as.integer(", "readline(", [], "))"⟩
  | sql => ⟨[], [], [], []⟩

/-- How a language opens a loop with the counter `name 0` and the bound `name 1`. -/
def loopHeader : Language → Template
  | python => "for " ++ name 0 ++ " in range(" ++ name 1 ++ "):"
  | c | cpp | java =>
      "for (int " ++ name 0 ++ " = 0; " ++ name 0 ++ " < " ++ name 1 ++ "; " ++ name 0 ++ "++) \x7b"
  | javascript | typescript =>
      "for (let " ++ name 0 ++ " = 0; " ++ name 0 ++ " < " ++ name 1 ++ "; " ++ name 0 ++ "++) \x7b"
  | go => "for " ++ name 0 ++ " := 0; " ++ name 0 ++ " < " ++ name 1 ++ "; " ++ name 0 ++ "++ \x7b"
  | php =>
      "for ($" ++ name 0 ++ " = 0; $" ++ name 0 ++ " < $" ++ name 1 ++ "; $" ++ name 0 ++ "++) \x7b"
  | r => "for (" ++ name 0 ++ " in 1:" ++ name 1 ++ ") \x7b"
  | sql => []

def loopEnd : Language → Template
  | python | sql => []
  | _ => "\n\x7d"

/-- A program with one counted loop, whose values are read by the given lines. -/
def countedBy (language : Language) (line : ReadLine) (names : CountedNames) : Text :=
  line.text names.bound ++ (fill names.inHeader ("\n" ++ language.loopHeader) ++
    (line.indented.below names.inside ++
      (fill names.inHeader language.loopEnd ++ (line.below names.behind ++ ['\n']))))

/-- The program with one counted loop. -/
def countedProgram (language : Language) (names : CountedNames) : Text :=
  language.countedBy language.readLine names

example : countedProgram c ⟨['n'], ['i'], [['x'], ['y']], [['z']]⟩ = String.toList
    "scanf(\"%d\", &n);
for (int i = 0; i < n; i++) \x7b
    scanf(\"%d\", &x);
    scanf(\"%d\", &y);
\x7d
scanf(\"%d\", &z);
" := by decide +kernel

/-! ## The masked program -/

/-- The masked form of a line that reads a value. -/
def shownLine : Language → ReadLine
  | c => { readLine c with handed := "\"  \", &" ++ name 0 }
  | language => language.readLine

end Language

section Mask

variable {lexicon : Lexicon} {text rest : Text}

/-- Whether a character starts no comment and no literal. -/
def Lexicon.isPlain (lexicon : Lexicon) (letter : Char) : Bool :=
  letter ≠ '/' && !lexicon.quotes.contains letter &&
    lexicon.lineComments.all fun mark => mark.head?.any (· ≠ letter)

theorem Lexicon.codeStep_of_isPlain {letter : Char} (plain : lexicon.isPlain letter = true)
    (rest : Text) : lexicon.codeStep letter rest = (.code, true) := by
  simp only [isPlain, Bool.and_eq_true, decide_eq_true_eq, Bool.not_eq_true'] at plain
  obtain ⟨⟨noBlock, noQuote⟩, noMarks⟩ := plain
  have noComment : lexicon.lineComments.any (fun mark =>
      mark.isPrefixOf (letter :: rest)) = false := by
    apply List.any_eq_false.mpr
    intro mark member starts
    have other := List.all_eq_true.mp noMarks mark member
    cases mark with
    | nil => cases other
    | cons first more =>
        obtain ⟨rfl, _⟩ := List.cons_prefix_cons.mp (List.isPrefixOf_iff_prefix.mp starts)
        simp at other
  have noOpening : ['/', '*'].isPrefixOf (letter :: rest) = false := by
    rw [List.isPrefixOf, beq_eq_false_iff_ne.mpr noBlock.symm, Bool.false_and]
  rw [codeStep, noComment, noOpening, noQuote]
  simp

theorem Lexicon.mask_append_of_isPlain (plain : text.all lexicon.isPlain = true) (rest : Text) :
    lexicon.mask (text ++ rest) = text ++ lexicon.mask rest := by
  induction text with
  | nil => rfl
  | cons letter text inductionHypothesis =>
      rw [List.all_cons, Bool.and_eq_true] at plain
      have step : lexicon.step letter (text ++ rest) .code = (.code, true) :=
        codeStep_of_isPlain plain.1 _
      rw [List.cons_append, mask, maskFrom, step]
      exact congrArg (letter :: ·) (inductionHypothesis plain.2)

namespace Language

variable {language : Language} {names : Nat → Text}

theorem mask_fill {template : Template} (areNames : ∀ index, Text.isName (names index) = true)
    (plain : template.all (Sign.passes language.lexicon.isPlain) = true) (rest : Text) :
    language.mask (fill names template ++ rest) = fill names template ++ language.mask rest := by
  apply Lexicon.mask_append_of_isPlain
  refine all_fill ?_ areNames plain
  cases language <;> decide +kernel

theorem mask_append {text : Text} (plain : text.all language.lexicon.isPlain = true) (rest : Text) :
    language.mask (text ++ rest) = text ++ language.mask rest :=
  Lexicon.mask_append_of_isPlain plain rest

/-- A line has a masked form, whatever name it reads. -/
def Masks (language : Language) (line shown : ReadLine) : Prop :=
  ∀ name, Text.isName name = true → ∀ rest,
    language.mask (line.text name ++ rest) = shown.text name ++ language.mask rest

theorem masks_of_isPlain {line : ReadLine}
    (plain : line.template.all (Sign.passes language.lexicon.isPlain) = true) :
    Masks language line line := fun _ isName rest => mask_fill (fun _ => isName) plain rest

theorem masks_readLine (language : Language) :
    Masks language language.readLine language.shownLine := by
  cases language with
  | c =>
      intro name isName rest
      have plain : ∀ template : Template,
          template.all (Sign.passes c.lexicon.isPlain) = true → ∀ rest,
            mask c (fill (fun _ => name) template ++ rest) =
              fill (fun _ => name) template ++ mask c rest :=
        fun template checked => mask_fill (fun _ => isName) checked
      have literal : ∀ rest, mask c (fill (fun _ => name) "\"%d\", &" ++ rest) =
          fill (fun _ => name) "\"  \", &" ++ mask c rest := fun _ => rfl
      rw [ReadLine.text_eq, ReadLine.text_eq]
      show mask c (fill (fun _ => name) "scanf(" ++ (fill (fun _ => name) ("\"%d\", &" ++
          Template.name 0) ++ fill (fun _ => name) ");") ++ rest) =
        fill (fun _ => name) "scanf(" ++ (fill (fun _ => name) ("\"  \", &" ++
          Template.name 0) ++ fill (fun _ => name) ");") ++ mask c rest
      rw [fill_append, fill_append, List.append_assoc, List.append_assoc, List.append_assoc,
        List.append_assoc, List.append_assoc, List.append_assoc, plain _ (by decide), literal,
        plain _ (by decide), plain _ (by decide)]
  | _ => exact masks_of_isPlain (by decide)

theorem Masks.indented {line shown : ReadLine} (masks : Masks language line shown) :
    Masks language line.indented shown.indented := by
  intro name isName rest
  have blanks : ("    " : Template).all (Sign.passes language.lexicon.isPlain) = true := by
    cases language <;> decide
  rw [ReadLine.text_indented, ReadLine.text_indented, List.append_assoc,
    mask_fill (fun _ => isName) blanks, masks name isName, List.append_assoc]

theorem Masks.below {line shown : ReadLine} (masks : Masks language line shown)
    {names : List Text} (areNames : ∀ name ∈ names, Text.isName name = true) (rest : Text) :
    language.mask (line.below names ++ rest) = shown.below names ++ language.mask rest := by
  have feed : ['\n'].all language.lexicon.isPlain = true := by cases language <;> decide
  induction names with
  | nil => rfl
  | cons name names inductionHypothesis =>
      have first := areNames name List.mem_cons_self
      have others := fun other member => areNames other (List.mem_cons_of_mem name member)
      have step := mask_append feed (line.text name ++ (line.below names ++ rest))
      rw [masks name first, inductionHypothesis others] at step
      simpa using step

/-- The masked program has the masked lines. -/
theorem mask_countedProgram (language : Language) {names : CountedNames}
    (areNames : names.AreNames) :
    language.mask (language.countedProgram names) =
      language.countedBy language.shownLine names := by
  have masks := masks_readLine language
  have header : ("\n" ++ language.loopHeader : Template).all
      (Sign.passes language.lexicon.isPlain) = true := by cases language <;> decide
  have ending : language.loopEnd.all (Sign.passes language.lexicon.isPlain) = true := by
    cases language <;> decide
  have feed : ['\n'].all language.lexicon.isPlain = true := by cases language <;> decide
  have last := mask_append feed []
  rw [List.append_nil] at last
  rw [countedProgram, countedBy, masks _ areNames.bound, mask_fill areNames.inHeader header,
    masks.indented.below areNames.inside, mask_fill areNames.inHeader ending,
    masks.below areNames.behind, last, countedBy]
  rfl

end Language

end Mask

end InputDemand
