import InputDemand.Proofs.Program.Brackets
import InputDemand.Proofs.Program.Search
import InputDemand.Proofs.Recognition.Calls

/-!
# What counted programs read

Every line that reads a value gives one site, whose target is the name in the line.  So the sites of
a counted program are those of its lines, in the order of the lines.
-/

namespace InputDemand

open Pattern

/-! ## The site of a line -/

section Line

variable {line : ReadLine} {name before rest : Text}

/-- Whether a letter does not separate statements. -/
def isInStatement (letter : Char) : Bool :=
  letter ≠ '\n' && letter ≠ ';' && letter ≠ '\x7b' && letter ≠ '\x7d'

theorem Cursor.textUpTo_append (before text rest : Text) :
    (⟨before, text ++ rest⟩ : Cursor).textUpTo ⟨text.reverse ++ before, rest⟩ = text := by
  exact textUpTo_of_rest rfl

theorem Cursor.statementStart_append {text : Text} (inside : text.all isInStatement = true)
    (atBreak : atBreak before.head? = true) :
    (⟨text.reverse ++ before, rest⟩ : Cursor).statementStart = ⟨before, text ++ rest⟩ := by
  have passed : ∀ letter ∈ text.reverse, isInStatement letter = true := fun letter member =>
    List.all_eq_true.mp inside letter (List.mem_reverse.mp member)
  have stops : before.takeWhile isInStatement = [] ∧ before.dropWhile isInStatement = before := by
    cases before with
    | nil => exact ⟨rfl, rfl⟩
    | cons letter before =>
        rw [eq_of_beq atBreak]
        exact ⟨rfl, rfl⟩
  show (⟨(text.reverse ++ before).dropWhile isInStatement,
    ((text.reverse ++ before).takeWhile isInStatement).reverse ++ rest⟩ : Cursor) = _
  rw [List.dropWhile_append_of_pos passed, List.takeWhile_append_of_pos passed, stops.1, stops.2,
    List.append_nil, List.reverse_reverse]

/-- Whether a template is the front of an assignment to a target that stands between two others. -/
def assigns (lead target tail : Template) : Bool :=
  assignmentFront.misses true (target ++ tail) lead &&
    assignmentFront.hits true (Front.textStart.past lead) (target ++ tail)
      (Trace.keeps 1 target tail) &&
    (lead ++ (target ++ tail)).all (Sign.passes isInStatement)

theorem find?_of_assigns {names : Nat → Text} {lead target tail : Template}
    (areNames : ∀ index, Text.isName (names index) = true)
    (assigned : assigns lead target tail = true) :
    ∃ found, assignmentFront.find? (fill names (lead ++ (target ++ tail))) = some found ∧
      found.group 1 = fill names target := by
  rw [assigns, Bool.and_eq_true, Bool.and_eq_true] at assigned
  obtain ⟨⟨misses, hits⟩, _⟩ := assigned
  have ends : true = true → ([] : Text) = [] := fun _ => rfl
  have atStart : Front.textStart.Shows ([] : Text) := rfl
  have toTarget := @hunt_of_misses names [] true assignmentFront [] _ _ areNames ends misses
  obtain ⟨found, trace, matched, _, shown, keeps⟩ :=
    exists_matchAt?_of_hits areNames ends (atStart.past areNames lead) hits
  refine ⟨found, ?_, shown.group keeps⟩
  have same := toTarget.findFrom?_eq rfl
  rw [Hunt.findFrom?_of_matchAt? matched, List.append_nil] at same
  rwa [find?, Cursor.start, fill_append]

theorem ReadLine.assignedName?_hit {lead target tail : Template} (isName : Text.isName name = true)
    (atBreak : atBreak before.head? = true) (split : line.before = lead ++ (target ++ tail))
    (assigned : assigns lead target tail = true)
    (bare : Text.bareName (fill (fun _ => name) target) = name) :
    assignedName? (line.hit name before rest).start = some name := by
  have areNames : ∀ index : Nat, Text.isName ((fun _ => name) index) = true := fun _ => isName
  obtain ⟨found, hit, kept⟩ := find?_of_assigns areNames assigned
  rw [assigns, Bool.and_eq_true] at assigned
  have inside : (fill (fun _ => name) line.before).all isInStatement = true := by
    rw [split]
    exact all_fill (by decide +kernel) areNames assigned.2
  rw [assignedName?, ReadLine.hit, Cursor.statementStart_append inside atBreak,
    Cursor.textUpTo_append, split, hit, Option.map_some, kept, bare]

theorem ReadLine.callArguments_hit (isName : Text.isName name = true)
    (call : line.call.getLast? = some (.letter '('))
    (behind : line.behind.head? = some (.letter ')'))
    (balanced : Template.depth? 1 line.handed = some 1) :
    (line.hit name before rest).last.callArguments =
      (Text.arguments (fill (fun _ => name) line.handed)).map fun (start, argument) =>
        ((line.hit name before rest).stop.offset + start, argument) := by
  have areNames : ∀ index : Nat, Text.isName ((fun _ => name) index) = true := fun _ => isName
  obtain ⟨opened, call⟩ := List.getLast?_eq_some_iff.mp call
  obtain ⟨more, behind⟩ := List.head?_eq_some_iff.mp behind
  have opening : (line.hit name before rest).last =
      ⟨(fill (fun _ => name) (line.before ++ opened)).reverse ++ before,
        '(' :: (fill (fun _ => name) line.handed ++
          ')' :: (fill (fun _ => name) more ++ rest))⟩ := by
    simp [Match.last, hit, call, behind, Cursor.back]
  have stop : (line.hit name before rest).stop =
      ⟨'(' :: ((fill (fun _ => name) (line.before ++ opened)).reverse ++ before),
        fill (fun _ => name) line.handed ++ ')' :: (fill (fun _ => name) more ++ rest)⟩ := by
    simp [hit, call, behind]
  have closed := @Cursor.matchingClose?_fill _
    ((fill (fun _ => name) (line.before ++ opened)).reverse ++ before)
    (fill (fun _ => name) more ++ rest) _ areNames '(' ')' rfl rfl rfl balanced
  rw [stop, Cursor.callArguments, opening, closed]
  simp only [Cursor.next, Cursor.textUpTo_append]

/-- What is made of the call in a line: one site that starts in the line, and whose target is the
name in the line. -/
def ReadLine.Gives (line : ReadLine) (sites : Match → Except Misplaced (List Site)) : Prop :=
  ∀ name before rest, Text.isName name = true → atBreak before.head? = true →
    ∃ site, sites (line.hit name before rest) = .ok [site] ∧ site.target? = some name ∧
      Text.size before ≤ site.span.start ∧
        site.span.start < Text.size before + Text.size (line.text name)

variable {source masked : Text} {marks : List Char} {opening : Pattern}

theorem ReadLine.size_text (line : ReadLine) (name before rest : Text) :
    (line.hit name before rest).stop.offset +
        Text.size (fill (fun _ => name) (line.handed ++ line.behind)) =
      Text.size before + Text.size (line.text name) ∧
    (line.hit name before rest).start.offset + Text.size (fill (fun _ => name) line.call) =
      (line.hit name before rest).stop.offset ∧
    Text.size before ≤ (line.hit name before rest).start.offset := by
  simp only [hit, Cursor.offset, text, template, fill_append, Text.size_append, Text.size_reverse]
  omega

/-- A call without arguments gives its value to the name it is assigned to. -/
theorem ReadLine.gives_assigned {lead target tail : Template} {prompt? : Option Nat}
    (call : line.call.getLast? = some (.letter '(')) (handed : line.handed = [])
    (behind : line.behind.head? = some (.letter ')'))
    (split : line.before = lead ++ (target ++ tail))
    (assigned : assigns lead target tail = true)
    (bare : ∀ name, Text.isName name = true → Text.bareName (fill (fun _ => name) target) = name) :
    line.Gives fun found =>
      (ReadRule.call opening .assigned prompt? none).sites source masked marks found := by
  intro name before rest isName atBreak
  have none : (line.hit name before rest).last.callArguments = [] := by
    rw [callArguments_hit isName call behind (by rw [handed]; rfl), handed]
    rfl
  have target : assignedName? (line.hit name before rest).start = some name :=
    assignedName?_hit isName atBreak split assigned (bare name isName)
  have sizes := line.size_text name before rest
  have visible : 0 < Text.size (fill (fun _ => name) line.call) := by
    have positive := Char.utf8Size_pos '('
    obtain ⟨opened, call⟩ := List.getLast?_eq_some_iff.mp call
    rw [call, fill_append, Text.size_append]
    exact Nat.lt_of_lt_of_le positive (Nat.le_add_left _ _)
  refine ⟨⟨Cursor.callSpan (line.hit name before rest).start (line.hit name before rest).last,
    some name, Option.none⟩, ?_, rfl, ?_, ?_⟩
  · simp only [ReadRule.sites, none, namesStream, callSite, target]
    cases prompt? <;> rfl
  · exact sizes.2.2
  · rw [Cursor.start_callSpan]
    omega

/-- The name that an argument passes, perhaps by its address. -/
theorem destinationName?_of_isName (isName : Text.isName name = true) {signs : Text}
    (areSigns : signs.all (fun letter => letter ∈ ['&', '*', '$', ' ']) = true)
    (visible : signs.all (fun letter => !isBlank letter) = true) :
    destinationName? (signs ++ name) = some name := by
  have shown : (signs ++ name).all (fun letter => !isBlank letter) = true := by
    rw [List.all_append, visible, Text.not_isBlank_of_isName isName]
    rfl
  have noSign : name.all (fun letter => !decide (letter ∈ ['&', '*', '$', ' '])) = true :=
    Text.all_of_isName (by decide +kernel) isName
  have bare : Text.trimLeftBy (fun letter => letter ∈ ['&', '*', '$', ' ']) (signs ++ name) =
      name := by
    rw [Text.trimLeftBy, List.dropWhile_append_of_pos (List.all_eq_true.mp areSigns),
      Text.dropWhile_eq_self noSign]
  have whole : name.takeWhile (fun letter => isAlphanumeric letter || letter = '_') = name :=
    List.takeWhile_eq_self_iff.mpr
      (List.all_eq_true.mp (Text.all_of_isName (by decide +kernel) isName))
  rw [destinationName?, Text.trim_eq_self shown]
  simp only [bare, whole, isName, if_true]

theorem Text.trim_address (isName : Text.isName name = true) :
    Text.trim ('&' :: name) = '&' :: name := by
  apply Text.trim_eq_self
  rw [List.all_cons, Text.not_isBlank_of_isName isName]
  rfl

theorem Text.exists_argument (isName : Text.isName name = true) :
    ∃ offset, Text.arguments ('&' :: name) = [(offset, '&' :: name)] := by
  have plain : ('&' :: name).all (fun letter => isUnbracketed letter && letter != ',') = true := by
    rw [List.all_cons, Text.all_of_isName (by decide +kernel) isName]
    rfl
  exact ⟨_, Text.arguments_eq plain (Text.trim_address isName) (List.cons_ne_nil _ _)⟩

theorem Text.exists_argument_behind (isName : Text.isName name = true) :
    ∃ offset, (Text.arguments ("\"  \", &".toList ++ name)).drop 1 = [(offset, '&' :: name)] := by
  have plain : (' ' :: '&' :: name).all
      (fun letter => isUnbracketed letter && letter != ',') = true := by
    rw [List.all_cons, List.all_cons, Text.all_of_isName (by decide +kernel) isName]
    rfl
  have split : Text.splitOutside ',' (['\"', ' ', ' ', '\"'] ++ ',' :: (' ' :: '&' :: name)) =
      [['\"', ' ', ' ', '\"'], ' ' :: '&' :: name] := by
    rw [Text.splitOutside_append rfl rfl, Text.splitOutside_eq plain]
  have trimmed : Text.trim (' ' :: '&' :: name) = '&' :: name := Text.trim_address isName
  have quoted : Text.trim ['\"', ' ', ' ', '\"'] = ['\"', ' ', ' ', '\"'] := by decide +kernel
  change ∃ offset,
    (Text.arguments (['\"', ' ', ' ', '\"'] ++ ',' :: (' ' :: '&' :: name))).drop 1 = _
  rw [Text.arguments, split]
  simp [Text.located, trimmed, quoted]

/-- A call gives its value to the only argument behind the leading ones. -/
theorem ReadLine.gives_passed {leading : Nat}
    (call : line.call.getLast? = some (.letter '('))
    (behind : line.behind.head? = some (.letter ')'))
    (balanced : Template.depth? 1 line.handed = some 1)
    (passed : ∀ name, Text.isName name = true → ∃ offset,
      (Text.arguments (fill (fun _ => name) line.handed)).drop leading =
        [(offset, '&' :: name)]) :
    line.Gives fun found =>
      (ReadRule.destinations opening leading none).sites source masked marks found := by
  intro name before rest isName atBreak
  obtain ⟨offset, only⟩ := passed name isName
  have arguments := @callArguments_hit line name before rest isName call behind balanced
  have destination : (line.hit name before rest).last.callArguments.drop leading =
      [((line.hit name before rest).stop.offset + offset, '&' :: name)] := by
    rw [arguments, ← List.map_drop, only]
    rfl
  -- The argument lies in what is handed to the call, so the site starts in the line.
  have listed : (offset, '&' :: name) ∈ Text.arguments (fill (fun _ => name) line.handed) :=
    List.mem_of_mem_drop (only ▸ List.mem_singleton_self _)
  have inside := (Text.holds_of_mem_arguments listed).offset_add_size_le
  have positive := Char.utf8Size_pos '&'
  have sizes := line.size_text name before rest
  rw [fill_append, Text.size_append] at sizes
  rw [Text.size_cons] at inside
  refine ⟨⟨argumentSpan ((line.hit name before rest).stop.offset + offset) ('&' :: name),
    some name, Option.none⟩, ?_, rfl, ?_, ?_⟩
  · have named : destinationName? ('&' :: name) = some name :=
      @destinationName?_of_isName name isName ['&'] rfl rfl
    simp only [ReadRule.sites, namesStream, destinationSites, destination, List.isEmpty_cons,
      List.map_cons, List.map_nil, named]
    rfl
  · simp only [argumentSpan]
    omega
  · simp only [argumentSpan]
    omega

theorem splitOperands_eq_self {text : Text} (single : text.all (· ≠ '>') = true) :
    splitOperands text = [text] := by
  induction text with
  | nil => rfl
  | cons letter text inductionHypothesis =>
      rw [List.all_cons, Bool.and_eq_true, decide_eq_true_eq] at single
      rw [splitOperands, inductionHypothesis single.2]
      rintro rest rfl
      exact absurd rfl single.1

/-- An extraction gives its value to its only operand. -/
theorem ReadLine.gives_extracted (handed : line.handed = .letter ' ' :: Template.name 0)
    (behind : line.behind.head? = some (.letter ';')) :
    line.Gives fun found =>
      (ReadRule.extraction opening).sites source masked marks found := by
  intro name before rest isName atBreak
  obtain ⟨more, behind⟩ := List.head?_eq_some_iff.mp behind
  -- A name holds neither a semicolon nor a sign, so it is the only operand of the chain.
  have inside : (' ' :: name).all (· ≠ ';') = true := by
    rw [List.all_cons, Text.all_of_isName (by decide +kernel) isName]
    rfl
  have single : (' ' :: name).all (· ≠ '>') = true := by
    rw [List.all_cons, Text.all_of_isName (by decide +kernel) isName]
    rfl
  have chain : (line.hit name before rest).stop.rest.takeWhile (· ≠ ';') = ' ' :: name := by
    have split : (line.hit name before rest).stop.rest =
        (' ' :: name) ++ ';' :: (fill (fun _ => name) more ++ rest) := by
      simp [hit, handed, behind]
    rw [split, List.takeWhile_append_of_pos (List.all_eq_true.mp inside)]
    simp
  have trimmed : Text.trim (' ' :: name) = name :=
    Text.trim_eq_self (Text.not_isBlank_of_isName isName)
  have visible : name.isEmpty = false := by
    obtain ⟨first, more, split, _⟩ := Text.exists_cons_of_isName isName
    rw [split]
    rfl
  have operand := @destinationName?_of_isName name isName [] rfl rfl
  have sizes := line.size_text name before rest
  refine ⟨⟨argumentSpan ((line.hit name before rest).stop.offset + Text.blankWidth (' ' :: name))
    name, some name, Option.none⟩, ?_, rfl, ?_, ?_⟩
  · rw [List.nil_append] at operand
    simp only [ReadRule.sites, chain, splitOperands_eq_self single, operandSites, trimmed, visible,
      operand]
    rfl
  · simp only [argumentSpan]
    omega
  · have indent := @Text.blankWidth_lt_size (' ' :: name) (by rw [trimmed]; exact visible)
    have operands : Text.size (' ' :: name) ≤
        Text.size (fill (fun _ => name) (line.handed ++ line.behind)) := by
      simp [handed]
    simp only [argumentSpan]
    omega

end Line

/-! ## The rule that reads the lines -/

namespace Language

variable {language : Language}

/-- Where the rule that finds the calls of counted programs stands among the reading rules. -/
def readerIndex : Language → Nat
  | cpp => 5
  | _ => 0

/-- Whether the rules in front of that rule find nothing, and those behind it nothing else. -/
def readsLines (language : Language) : Bool :=
  (language.readRules.take language.readerIndex).all (fun rule => language.isSilent rule.opening) &&
    (language.readRules.drop language.readerIndex).head?.any
      (fun rule => language.isReader rule.opening) &&
    (language.readRules.drop (language.readerIndex + 1)).all fun rule =>
      language.isSilent rule.opening || language.isReader rule.opening

theorem readsLines_of_ne (reads : language ≠ sql) : language.readsLines = true := by
  cases language with
  | sql => exact absurd rfl reads
  | _ => decide +kernel

theorem gives_both {line : ReadLine} {sites : Match → Except Misplaced (List Site)}
    (gives : line.Gives sites) (gives' : line.indented.Gives sites) :
    ∀ shown ∈ [line, line.indented], shown.Gives sites := by
  simp only [List.forall_mem_cons, List.not_mem_nil, IsEmpty.forall_iff, implies_true, and_true]
  exact ⟨gives, gives'⟩

theorem gives_assigned {line : ReadLine} {source masked : Text} {marks : List Char}
    {opening : Pattern} {prompt? : Option Nat} {lead target tail : Template}
    (call : line.call.getLast? = some (.letter '(')) (handed : line.handed = [])
    (behind : line.behind.head? = some (.letter ')'))
    (split : line.before = lead ++ (target ++ tail))
    (assigned : assigns lead target tail = true)
    (assigned' : assigns ("    " ++ lead) target tail = true)
    (bare : ∀ name, Text.isName name = true → Text.bareName (fill (fun _ => name) target) = name) :
    ∀ shown ∈ [line, line.indented], shown.Gives fun found =>
      (ReadRule.call opening .assigned prompt? none).sites source masked marks found := by
  apply gives_both
  · exact ReadLine.gives_assigned call handed behind split assigned bare
  · have split' : line.indented.before = ("    " ++ lead) ++ (target ++ tail) := by
      rw [ReadLine.indented, split, List.append_assoc]
    exact ReadLine.gives_assigned call handed behind split' assigned' bare

/-- The rule makes one site of every reading line. -/
theorem gives_reader (reads : language ≠ sql) (source masked : Text) (marks : List Char) :
    ∃ reader, (language.readRules.drop language.readerIndex).head? = some reader ∧
      ∀ line ∈ [language.shownLine, language.shownLine.indented],
        line.Gives fun found => reader.sites source masked marks found := by
  have noDollar : ∀ name, Text.isName name = true → Text.bareName name = name := by
    intro name isName
    exact Text.dropWhile_eq_self (Text.all_of_isName (by decide +kernel) isName)
  have bare : ∀ name, Text.isName name = true →
      Text.bareName (fill (fun _ => name) (Template.name 0)) = name := by
    intro name isName
    rw [fill_name]
    exact noDollar name isName
  -- Most languages assign what a call gives; the last three hand the name to the call.
  cases language with
  | sql => exact absurd rfl reads
  | python =>
      exact ⟨_, rfl, @gives_assigned _ source masked marks _ _ [] (Template.name 0) " = int("
        rfl rfl rfl rfl (by decide +kernel) (by decide +kernel) bare⟩
  | java =>
      exact ⟨_, rfl, @gives_assigned _ source masked marks _ _ "int " (Template.name 0) " = "
        rfl rfl rfl rfl (by decide +kernel) (by decide +kernel) bare⟩
  | javascript | typescript =>
      exact ⟨_, rfl, @gives_assigned _ source masked marks _ _ "let " (Template.name 0)
        " = Number(" rfl rfl rfl rfl (by decide +kernel) (by decide +kernel) bare⟩
  | r =>
      exact ⟨_, rfl, @gives_assigned _ source masked marks _ _ [] (Template.name 0)
        " <- as.integer(" rfl rfl rfl rfl (by decide +kernel) (by decide +kernel) bare⟩
  | php =>
      refine ⟨_, rfl, @gives_assigned _ source masked marks _ _ [] ("$" ++ Template.name 0)
        " = (int)" rfl rfl rfl rfl (by decide +kernel) (by decide +kernel) ?_⟩
      intro name isName
      rw [fill_append, fill_name, fill_map_letter]
      exact noDollar name isName
  | cpp => exact ⟨_, rfl, gives_both (ReadLine.gives_extracted rfl rfl)
      (ReadLine.gives_extracted rfl rfl)⟩
  | go =>
      have passed : ∀ name, Text.isName name = true → ∃ offset,
          (Text.arguments (fill (fun _ => name) ("&" ++ Template.name 0))).drop 0 =
            [(offset, '&' :: name)] := by
        intro name isName
        rw [fill_append, fill_name, fill_map_letter]
        exact Text.exists_argument isName
      exact ⟨_, rfl, gives_both (ReadLine.gives_passed rfl rfl (by decide) passed)
        (ReadLine.gives_passed rfl rfl (by decide) passed)⟩
  | c =>
      have passed : ∀ name, Text.isName name = true → ∃ offset,
          (Text.arguments (fill (fun _ => name) ("\"  \", &" ++ Template.name 0))).drop 1 =
            [(offset, '&' :: name)] := by
        intro name isName
        rw [fill_append, fill_name, fill_map_letter]
        exact Text.exists_argument_behind isName
      exact ⟨_, rfl, gives_both (ReadLine.gives_passed rfl rfl (by decide) passed)
        (ReadLine.gives_passed rfl rfl (by decide) passed)⟩

end Language

/-! ## The sites of a program -/

/-- Sites with these targets, one behind the other between two positions. -/
structure Receive (names : List Text) (low high : Nat) (sites : List Site) : Prop where
  targets : sites.map Site.target? = names.map some
  ordered : sites.Pairwise fun one other => one.span.start < other.span.start
  within : ∀ site ∈ sites, low ≤ site.span.start ∧ site.span.start < high

theorem receive_nil (low high : Nat) : Receive [] low high [] :=
  ⟨rfl, List.Pairwise.nil, fun _ member => by cases member⟩

theorem Receive.append {names names' : List Text} {sites sites' : List Site}
    {low middle middle' high : Nat} (first : Receive names low middle sites)
    (second : Receive names' middle' high sites') (below : low ≤ middle')
    (order : middle ≤ middle') (above : middle ≤ high) :
    Receive (names ++ names') low high (sites ++ sites') where
  targets := by rw [List.map_append, List.map_append, first.targets, second.targets]
  ordered := by
    refine List.pairwise_append.mpr ⟨first.ordered, second.ordered, ?_⟩
    intro one listed other listed'
    have before := first.within one listed
    have behind := second.within other listed'
    omega
  within := by
    intro site listed
    rcases List.mem_append.mp listed with listed | listed
    · have inside := first.within site listed
      omega
    · have inside := second.within site listed
      omega

namespace ReadLine

variable {line : ReadLine} {sitesOf : Match → Except Misplaced (List Site)}

theorem Gives.exists_sites (gives : line.Gives sitesOf) {names : List Text}
    (areNames : ∀ name ∈ names, Text.isName name = true) (before rest : Text) :
    ∃ sites, (line.hits rest names before).mapM sitesOf = .ok (sites.map fun site => [site]) ∧
      Receive names (Text.size before) (Text.size before + Text.size (line.below names)) sites := by
  induction names generalizing before with
  | nil => exact ⟨[], rfl, receive_nil _ _⟩
  | cons name names inductionHypothesis =>
      have isName := areNames name List.mem_cons_self
      have others := fun other member => areNames other (List.mem_cons_of_mem name member)
      obtain ⟨site, made, target, low, high⟩ :=
        gives name ('\n' :: before) (line.below names ++ rest) isName rfl
      obtain ⟨sites, made', receive⟩ :=
        inductionHypothesis others ((line.text name).reverse ++ '\n' :: before)
      refine ⟨site :: sites, ?_, ?_⟩
      · rw [hits, List.mapM_cons, made, made']
        rfl
      · simp only [Text.size_cons, Text.size_append, Text.size_reverse] at low high receive
        have first : Receive [name] (Text.size before)
            ('\n'.utf8Size + Text.size before + Text.size (line.text name)) [site] := by
          refine ⟨congrArg (fun target? => [target?]) target, List.pairwise_singleton _ _, ?_⟩
          intro other listed
          cases List.mem_singleton.mp listed
          exact ⟨Nat.le_trans (Nat.le_add_left _ _) low, high⟩
        have whole := first.append receive (by omega) (by omega) (by omega)
        have stop : Text.size before + Text.size (line.below (name :: names)) =
            Text.size (line.text name) + ('\n'.utf8Size + Text.size before) +
              Text.size (line.below names) := by
          rw [below_cons, Text.size_cons, Text.size_append]
          omega
        rw [stop]
        exact whole

end ReadLine

section Claims

variable {Rule : Type} {masked : Text} {opening : Rule → Pattern}

/-- Of members behind others that they equal, none is left. -/
theorem eraseDupsBy_append {Member : Type} (same : Member → Member → Bool)
    (members others : List Member)
    (apart : members.Pairwise fun one other => same other one = false)
    (repeats : ∀ other ∈ others, ∃ member ∈ members, same other member = true) :
    (members ++ others).eraseDupsBy same = members := by
  induction members generalizing others with
  | nil =>
      have none : others = [] := by
        apply List.eq_nil_iff_forall_not_mem.mpr
        intro other listed
        obtain ⟨member, nowhere, _⟩ := repeats other listed
        cases nowhere
      rw [none]
      rfl
  | cons first members inductionHypothesis =>
      obtain ⟨fromFirst, apart⟩ := List.pairwise_cons.mp apart
      have kept : members.filter (fun other => decide (same other first = false)) = members :=
        List.filter_eq_self.mpr fun other listed => decide_eq_true (fromFirst other listed)
      rw [List.cons_append, List.eraseDupsBy_cons, List.filter_append, kept]
      refine congrArg (first :: ·) (inductionHypothesis _ apart ?_)
      intro other listed
      obtain ⟨listed, different⟩ := List.mem_filter.mp listed
      obtain ⟨member, listed', equal⟩ := repeats other listed
      rcases List.mem_cons.mp listed' with rfl | listed'
      · rw [of_decide_eq_true different] at equal
        cases equal
      · exact ⟨member, listed', equal⟩

/-- If the rules in front of a rule find nothing and those behind it nothing else, that rule claims
all it finds. -/
theorem claims_eq {front back : List Rule} {rule : Rule} {hits : List Match}
    (silent : ∀ other ∈ front, (opening other).findAll masked = [])
    (found : (opening rule).findAll masked = hits)
    (others : ∀ other ∈ back,
      (opening other).findAll masked = [] ∨ (opening other).findAll masked = hits)
    (apart : hits.Pairwise fun one other => one.start.offset < other.start.offset) :
    claims masked opening (front ++ rule :: back) = hits.map fun hit => (rule, hit) := by
  have nothing : (front.flatMap fun rule =>
      ((opening rule).findAll masked).map fun hit => (rule, hit)) = [] := by
    apply List.flatMap_eq_nil_iff.mpr
    intro other listed
    rw [silent other listed, List.map_nil]
  rw [claims, List.flatMap_append, nothing, List.nil_append, List.flatMap_cons, found]
  apply eraseDupsBy_append
  · refine List.pairwise_map.mpr (apart.imp ?_)
    intro one other before
    exact beq_eq_false_iff_ne.mpr (Nat.ne_of_gt before)
  · rintro ⟨other, hit⟩ listed
    obtain ⟨origin, member, matched⟩ := List.mem_flatMap.mp listed
    obtain ⟨hit', listed', same⟩ := List.mem_map.mp matched
    cases same
    rcases others _ member with none | same
    · rw [none] at listed'
      cases listed'
    · rw [same] at listed'
      exact ⟨(rule, hit), List.mem_map_of_mem listed', beq_self_eq_true _⟩

end Claims

/-- Scanning for the text of a scanner changes no site that has a target. -/
theorem mapM_completeScannerSite {masked : Text} {sites : List Site}
    (targets : ∀ site ∈ sites, site.target?.isSome = true) :
    sites.mapM (Language.completeScannerSite masked) = .ok sites := by
  induction sites with
  | nil => rfl
  | cons site sites inductionHypothesis =>
      have first : Language.completeScannerSite masked site = .ok site := by
        obtain ⟨target, known⟩ := Option.isSome_iff_exists.mp (targets site List.mem_cons_self)
        rw [Language.completeScannerSite, known]
        rfl
      rw [List.mapM_cons, first,
        inductionHypothesis fun other listed => targets other (List.mem_cons_of_mem site listed)]
      rfl

namespace Language

variable {language : Language} {names : CountedNames}

/-- The parts of a counted program are read one behind the other. -/
structure ReadInParts (language : Language) (names : CountedNames)
    (first inside behind : List Site) : Prop where
  first : Receive [names.bound] 0 (Text.size (language.shownLine.text names.bound)) first
  inside : Receive names.inside (Text.size (language.toBody names))
    (Text.size (language.toBody names) +
      Text.size (language.shownLine.indented.below names.inside)) inside
  behind : Receive names.behind (Text.size (language.toBehind names))
    (Text.size (language.toBehind names) + Text.size (language.shownLine.below names.behind)) behind

theorem readInParts_sites {sitesOf : Match → Except Misplaced (List Site)}
    (areNames : names.AreNames)
    (gives : ∀ line ∈ [language.shownLine, language.shownLine.indented], line.Gives sitesOf) :
    ∃ first inside behind, (language.callHits names).mapM sitesOf =
        .ok ((first ++ (inside ++ behind)).map fun site => [site]) ∧
      language.ReadInParts names first inside behind := by
  simp only [List.forall_mem_cons, List.not_mem_nil, IsEmpty.forall_iff, implies_true,
    and_true] at gives
  obtain ⟨line, indented⟩ := gives
  obtain ⟨site, made, target, low, high⟩ :=
    line names.bound [] (language.behindFirst names) areNames.bound rfl
  obtain ⟨inside, madeInside, receiveInside⟩ := indented.exists_sites areNames.inside
    (language.toBody names).reverse (language.fromBody names)
  obtain ⟨behind, madeBehind, receiveBehind⟩ := line.exists_sites areNames.behind
    (language.toBehind names).reverse ['\n']
  rw [Text.size_reverse] at receiveInside receiveBehind
  refine ⟨[site], inside, behind, ?_, ?_, receiveInside, receiveBehind⟩
  · rw [callHits, List.mapM_cons, made, List.mapM_append, madeInside, madeBehind]
    simp [Bind.bind, Except.bind, pure, Except.pure]
  · refine ⟨congrArg (fun target? => [target?]) target, List.pairwise_singleton _ _, ?_⟩
    intro other listed
    cases List.mem_singleton.mp listed
    rw [Text.size_nil, Nat.zero_add] at high
    exact ⟨Nat.zero_le _, high⟩

theorem ReadInParts.receive {first inside behind : List Site}
    (parts : language.ReadInParts names first inside behind) :
    Receive (names.bound :: (names.inside ++ names.behind)) 0
      (Text.size (language.toBehind names) + Text.size (language.shownLine.below names.behind))
      (first ++ (inside ++ behind)) := by
  have toBody : Text.size (language.toBody names) =
      Text.size (language.shownLine.text names.bound) +
        Text.size (fill names.inHeader ("\n" ++ language.loopHeader)) := by
    rw [Language.toBody, Text.size_append]
  have toBehind : Text.size (language.toBehind names) = Text.size (language.toBody names) +
      (Text.size (language.shownLine.indented.below names.inside) +
        Text.size (fill names.inHeader language.loopEnd)) := by
    rw [Language.toBehind, Text.size_append, Text.size_append]
  have others := parts.inside.append parts.behind (by omega) (by omega) (by omega)
  exact parts.first.append others (by omega) (by omega) (by omega)

/-- One rule claims all calls, whatever other rules find. -/
theorem claims_countedProgram (reads : language ≠ sql) (areNames : names.AreNames)
    {reader : ReadRule}
    (isReader : (language.readRules.drop language.readerIndex).head? = some reader) :
    claims (language.countedBy language.shownLine names) ReadRule.opening language.readRules =
      (language.callHits names).map fun hit => (reader, hit) := by
  have checked := readsLines_of_ne reads
  rw [readsLines, isReader, Bool.and_eq_true, Bool.and_eq_true, Option.any_some] at checked
  obtain ⟨⟨silent, reading⟩, others⟩ := checked
  obtain ⟨back, split⟩ := List.head?_eq_some_iff.mp isReader
  -- The rules fall into those in front of the reader, the reader, and those behind it.
  have behindReader : language.readRules.drop (language.readerIndex + 1) = back := by
    rw [← List.drop_drop, split]
    rfl
  rw [behindReader] at others
  have takes : reader.opening.takesLetter = true := by
    simp only [Language.isReader, Bool.and_eq_true] at reading
    exact reading.1.1
  have found := findAll_of_isReader areNames reading
  have apart := (shortens_of_takesLetter takes).pairwise_findAll
    (language.countedBy language.shownLine names)
  rw [found] at apart
  rw [← List.take_append_drop language.readerIndex language.readRules, split]
  refine claims_eq ?_ found ?_ apart
  · intro other listed
    exact findAll_of_isSilent areNames (List.all_eq_true.mp silent other listed)
  · intro other listed
    rcases Bool.or_eq_true_iff.mp (List.all_eq_true.mp others other listed) with silent | reading
    · exact Or.inl (findAll_of_isSilent areNames silent)
    · exact Or.inr (findAll_of_isReader areNames reading)

theorem readSites_countedProgram (reads : language ≠ sql) (areNames : names.AreNames)
    (source : Text) :
    ∃ first inside behind,
      readSites source (language.countedBy language.shownLine names) language.literalMarks
        language.readRules = .ok (first ++ (inside ++ behind)) ∧
      language.ReadInParts names first inside behind := by
  obtain ⟨reader, isReader, gives⟩ := gives_reader reads source
    (language.countedBy language.shownLine names) language.literalMarks
  obtain ⟨first, inside, behind, made, parts⟩ := readInParts_sites areNames gives
  refine ⟨first, inside, behind, ?_, parts⟩
  -- The sites are found in the order of their starts, so sorting them changes nothing.
  have sorted : (first ++ (inside ++ behind)).Pairwise fun one other =>
      decide (one.span.start ≤ other.span.start) = true :=
    parts.receive.ordered.imp fun before => decide_eq_true (Nat.le_of_lt before)
  have flat : ((first ++ (inside ++ behind)).map fun site => [site]).flatten =
      first ++ (inside ++ behind) := by
    rw [← List.flatMap_def, List.flatMap_singleton']
  rw [readSites, claims_countedProgram reads areNames isReader, List.mapM_map]
  simp only [Function.comp_def, made, ok_bind, flat]
  exact congrArg Except.ok (List.mergeSort_of_pairwise sorted)

/-- A counted program reads its lines, in order. -/
theorem reads_countedProgram (reads : language ≠ sql) (areNames : names.AreNames) :
    ∃ first inside behind,
      language.reads (language.countedProgram names) = .ok (first ++ (inside ++ behind)) ∧
        language.ReadInParts names first inside behind := by
  obtain ⟨first, inside, behind, found, parts⟩ :=
    readSites_countedProgram reads areNames (language.countedProgram names)
  refine ⟨first, inside, behind, ?_, parts⟩
  have targets : ∀ site ∈ first ++ (inside ++ behind), site.target?.isSome = true := by
    intro site listed
    have member : site.target? ∈ (first ++ (inside ++ behind)).map Site.target? :=
      List.mem_map_of_mem listed
    rw [parts.receive.targets] at member
    obtain ⟨name, _, known⟩ := List.mem_map.mp member
    rw [← known]
    rfl
  rw [Language.reads, mask_countedProgram language areNames, found]
  show (if language = go then _ else _) = _
  split
  · exact mapM_completeScannerSite targets
  · rfl

end Language

end InputDemand
