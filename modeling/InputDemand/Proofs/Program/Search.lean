import InputDemand.Proofs.Program.Counted
import InputDemand.Proofs.Program.Sure

/-!
# Searches through programs with one counted loop

A pattern that matches in no line of such a program matches nowhere in it.  A pattern that matches
exactly the calls of the reading lines finds these calls, from the first line to the last.
-/

namespace InputDemand

open Pattern

variable {pattern : Pattern} {line : ReadLine} {name before rest : Text} {names : List Text}

/-- A search passes over a template in which the pattern matches nowhere, whatever follows. -/
theorem Pattern.hunt_fill {filling : Nat → Text} {template : Template}
    (areNames : ∀ index, Text.isName (filling index) = true)
    (misses : pattern.misses false [] template = true) :
    Hunt pattern ⟨before, fill filling template ++ rest⟩ []
      ⟨(fill filling template).reverse ++ before, rest⟩ :=
  hunt_of_misses areNames (fun open' => by cases open') misses

namespace ReadLine

def fed (line : ReadLine) : Template :=
  "\n" ++ line.template

theorem fill_fed (line : ReadLine) (name : Text) :
    fill (fun _ => name) line.fed = '\n' :: line.text name := by
  simp [fed, text]

theorem hunt_below_of_misses (misses : pattern.misses false [] line.fed = true)
    (areNames : ∀ name ∈ names, Text.isName name = true) :
    Hunt pattern ⟨before, line.below names ++ rest⟩ []
      ⟨(line.below names).reverse ++ before, rest⟩ := by
  induction names generalizing before with
  | nil => exact .done _
  | cons name names inductionHypothesis =>
      have isName := areNames name List.mem_cons_self
      have others := fun other member => areNames other (List.mem_cons_of_mem name member)
      have across := @Pattern.hunt_fill pattern before (line.below names ++ rest) (fun _ => name)
        line.fed (fun _ => isName) misses
      have further :=
        @inductionHypothesis ((fill (fun _ => name) line.fed).reverse ++ before) others
      rw [fill_fed] at across further
      simpa using across.append further

/-! ## The calls of reading lines -/

/-- The match of a reading call in a line, with what stands before and behind the line. -/
def hit (line : ReadLine) (name before rest : Text) : Match where
  start := ⟨(fill (fun _ => name) line.before).reverse ++ before,
    fill (fun _ => name) (line.call ++ (line.handed ++ line.behind)) ++ rest⟩
  stop := ⟨(fill (fun _ => name) (line.before ++ line.call)).reverse ++ before,
    fill (fun _ => name) (line.handed ++ line.behind) ++ rest⟩
  kept := []

/-- The matches of the reading calls in lines that each stand behind a line feed. -/
def hits (line : ReadLine) (rest : Text) : List Text → Text → List Match
  | [], _ => []
  | name :: names, before =>
      line.hit name ('\n' :: before) (line.below names ++ rest) ::
        line.hits rest names ((line.text name).reverse ++ '\n' :: before)

/-- Whether a pattern matches the call in a line, and nowhere else in it. -/
def meets (line : ReadLine) (pattern : Pattern) : Bool :=
  pattern.misses false (line.call ++ (line.handed ++ line.behind)) line.before &&
    pattern.takes false (Front.lineStart.past line.before) line.call
      (line.handed ++ line.behind) &&
    pattern.misses false [] (line.handed ++ line.behind)

theorem hunt_of_meets (isName : Text.isName name = true) (atBreak : atBreak before.head? = true)
    (meets : line.meets pattern = true) :
    Hunt pattern ⟨before, line.text name ++ rest⟩ [line.hit name before rest]
      ⟨(line.text name).reverse ++ before, rest⟩ := by
  have areNames : ∀ index : Nat, Text.isName ((fun _ => name) index) = true := fun _ => isName
  have isOpen : false = true → rest = [] := nofun
  rw [ReadLine.meets, Bool.and_eq_true, Bool.and_eq_true] at meets
  obtain ⟨⟨inFront, takes⟩, behind⟩ := meets
  have break' : Front.lineStart.Shows before := atBreak
  have toCall := @hunt_of_misses _ rest _ pattern before _ _ areNames isOpen inFront
  have call := matchAt?_of_takes areNames isOpen (break'.past areNames line.before) takes
  have fromCall := @Pattern.hunt_fill pattern
    ((fill (fun _ => name) line.call).reverse ++
      ((fill (fun _ => name) line.before).reverse ++ before)) rest _ _ areNames behind
  have whole := toCall.append (.hit call fromCall)
  simpa [text, template, hit] using whole

/-- A search through lines finds their calls. -/
theorem hunt_below_of_meets (areNames : ∀ name ∈ names, Text.isName name = true)
    (feed : pattern.misses false line.template "\n" = true) (meets : line.meets pattern = true) :
    Hunt pattern ⟨before, line.below names ++ rest⟩ (line.hits rest names before)
      ⟨(line.below names).reverse ++ before, rest⟩ := by
  induction names generalizing before with
  | nil => exact .done _
  | cons name names inductionHypothesis =>
      have isName := areNames name List.mem_cons_self
      have others := fun other member => areNames other (List.mem_cons_of_mem name member)
      have isOpen : false = true → line.below names ++ rest = [] := nofun
      have overFeed := @hunt_of_misses _ (line.below names ++ rest) _ pattern before _ _
        (fun _ => isName) isOpen feed
      have through := @hunt_of_meets pattern line name ('\n' :: before) (line.below names ++ rest)
        isName rfl meets
      have further := @inductionHypothesis ((line.text name).reverse ++ '\n' :: before) others
      rw [fill_map_letter] at overFeed
      change Hunt pattern ⟨before, '\n' :: (line.text name ++ _)⟩ [] _ at overFeed
      have whole := overFeed.append (through.append further)
      simpa [hits] using whole

end ReadLine

namespace Language

variable {language : Language} {names : CountedNames}

/-- Whether a pattern matches nowhere in the lines of counted programs that read nothing. -/
def passes (language : Language) (pattern : Pattern) : Bool :=
  pattern.misses false [] ("\n" ++ language.loopHeader) &&
    pattern.misses false [] language.loopEnd && pattern.misses false [] "\n"

/-- Whether a pattern matches nowhere in counted programs. -/
def isSilent (language : Language) (pattern : Pattern) : Bool :=
  pattern.takesLetter && language.passes pattern &&
    pattern.misses false [] language.shownLine.template &&
    pattern.misses false [] language.shownLine.fed &&
    pattern.misses false [] language.shownLine.indented.fed

/-- Whether a pattern matches just the reading calls of counted programs. -/
def isReader (language : Language) (pattern : Pattern) : Bool :=
  pattern.takesLetter && language.passes pattern &&
    [language.shownLine, language.shownLine.indented].all fun line =>
      pattern.misses false line.template "\n" && line.meets pattern

def toBody (language : Language) (names : CountedNames) : Text :=
  language.shownLine.text names.bound ++ fill names.inHeader ("\n" ++ language.loopHeader)

def fromBody (language : Language) (names : CountedNames) : Text :=
  fill names.inHeader language.loopEnd ++ (language.shownLine.below names.behind ++ ['\n'])

def toBehind (language : Language) (names : CountedNames) : Text :=
  language.toBody names ++ (language.shownLine.indented.below names.inside ++
    fill names.inHeader language.loopEnd)

theorem countedBy_shownLine :
    language.countedBy language.shownLine names = language.toBody names ++
      (language.shownLine.indented.below names.inside ++ language.fromBody names) := by
  simp [countedBy, toBody, fromBody]

def behindFirst (language : Language) (names : CountedNames) : Text :=
  fill names.inHeader ("\n" ++ language.loopHeader) ++
    (language.shownLine.indented.below names.inside ++ language.fromBody names)

/-- The matches of the reading calls in a masked counted program. -/
def callHits (language : Language) (names : CountedNames) : List Match :=
  language.shownLine.hit names.bound [] (language.behindFirst names) ::
    (language.shownLine.indented.hits (language.fromBody names) names.inside
        (language.toBody names).reverse ++
      language.shownLine.hits ['\n'] names.behind (language.toBehind names).reverse)

/-- Behind the first line and behind the body, a search finds nothing but calls. -/
theorem hunt_counted {first inside behind : List Match} (areNames : names.AreNames)
    (passes : language.passes pattern = true)
    (firstLine : Hunt pattern
        ⟨[], language.shownLine.text names.bound ++ language.behindFirst names⟩ first
      ⟨(language.shownLine.text names.bound).reverse, language.behindFirst names⟩)
    (body : Hunt pattern ⟨(language.toBody names).reverse,
        language.shownLine.indented.below names.inside ++ language.fromBody names⟩ inside
      ⟨(language.shownLine.indented.below names.inside).reverse ++
        (language.toBody names).reverse, language.fromBody names⟩)
    (others : Hunt pattern ⟨(language.toBehind names).reverse,
        language.shownLine.below names.behind ++ ['\n']⟩ behind
      ⟨(language.shownLine.below names.behind).reverse ++ (language.toBehind names).reverse,
        ['\n']⟩) :
    Hunt pattern (.start (language.countedBy language.shownLine names))
      (first ++ (inside ++ behind))
      ⟨(language.countedBy language.shownLine names).reverse, []⟩ := by
  rw [Language.passes, Bool.and_eq_true, Bool.and_eq_true] at passes
  obtain ⟨⟨header, ending⟩, feed⟩ := passes
  -- Three parts read nothing: the header, what ends the loop, and the last line feed.
  have overHeader := @Pattern.hunt_fill pattern (language.shownLine.text names.bound).reverse
    (language.shownLine.indented.below names.inside ++ language.fromBody names) _ _
    areNames.inHeader header
  have overEnd := @Pattern.hunt_fill pattern
    ((language.shownLine.indented.below names.inside).reverse ++ (language.toBody names).reverse)
    (language.shownLine.below names.behind ++ ['\n']) _ _ areNames.inHeader ending
  have overFeed := @Pattern.hunt_fill pattern
    ((language.shownLine.below names.behind).reverse ++ (language.toBehind names).reverse) [] _ _
    areNames.inHeader feed
  have toBody : (fill names.inHeader ("\n" ++ language.loopHeader)).reverse ++
      (language.shownLine.text names.bound).reverse = (language.toBody names).reverse := by
    rw [Language.toBody, List.reverse_append]
  have toBehind : (fill names.inHeader language.loopEnd).reverse ++
      ((language.shownLine.indented.below names.inside).reverse ++
        (language.toBody names).reverse) = (language.toBehind names).reverse := by
    simp [Language.toBehind]
  rw [toBody] at overHeader
  rw [toBehind] at overEnd
  have whole := firstLine.append (overHeader.append
    (body.append (overEnd.append (others.append overFeed))))
  simpa [Language.toBody, Language.toBehind, fromBody, behindFirst, countedBy, Cursor.start]
    using whole

theorem findAll_of_isReader (areNames : names.AreNames)
    (reader : language.isReader pattern = true) :
    pattern.findAll (language.countedBy language.shownLine names) = language.callHits names := by
  simp only [isReader, List.all_cons, List.all_nil, Bool.and_true, Bool.and_eq_true] at reader
  obtain ⟨⟨takes, passes⟩, ⟨feed, meets⟩, feed', meets'⟩ := reader
  have hunt := @hunt_counted pattern language names
    [language.shownLine.hit names.bound [] (language.behindFirst names)] _ _ areNames passes ?_
    (ReadLine.hunt_below_of_meets areNames.inside feed' meets')
    (ReadLine.hunt_below_of_meets areNames.behind feed meets)
  · exact hunt.findAll (shortens_of_takesLetter takes)
  · have across := @ReadLine.hunt_of_meets pattern language.shownLine names.bound []
      (language.behindFirst names) areNames.bound rfl meets
    rwa [List.append_nil] at across

theorem findAll_of_isSilent (areNames : names.AreNames)
    (silent : language.isSilent pattern = true) :
    pattern.findAll (language.countedBy language.shownLine names) = [] := by
  simp only [isSilent, Bool.and_eq_true] at silent
  obtain ⟨⟨⟨⟨takes, passes⟩, line⟩, fed⟩, fed'⟩ := silent
  have hunt := @hunt_counted pattern language names [] [] [] areNames passes ?_ ?_ ?_
  · exact hunt.findAll (shortens_of_takesLetter takes)
  · have across := @Pattern.hunt_fill pattern [] (language.behindFirst names) _ _
      (fun _ => areNames.bound) line
    rwa [List.append_nil] at across
  · exact ReadLine.hunt_below_of_misses fed' areNames.inside
  · exact ReadLine.hunt_below_of_misses fed areNames.behind

end Language

end InputDemand
