import InputDemand.Command.Options

/-!
# Command lines as rows of items

Arguments are read as a row of items: flags without a value, flags with the argument behind them as
their value, and the path.  Reading accepts exactly the rows with one path, takes the last value of
each kind, and refuses other arguments with the error of the first that is no item.
-/

namespace InputDemand

theorem isFlag_iff {spellings : List String} {argument : Text} :
    isFlag spellings argument = true ↔ argument ∈ spellings.map String.toList := by
  rw [isFlag, List.any_eq_true, List.mem_map]
  exact exists_congr fun spelling => and_congr_right fun _ => decide_eq_true_iff

namespace Options

/-- Whether an argument can be the path: it does not start with a dash, or is the dash alone. -/
def IsPath (argument : Text) : Prop :=
  argument.head? ≠ some '-' ∨ argument = ['-']

/-- All arguments that are flags. -/
def flags : List Text :=
  ["-h", "--help", "--plain", "-l", "--lang", "--log"].map String.toList

theorem not_mem_flags_of_isPath {argument : Text} (path : IsPath argument) :
    argument ∉ flags := by
  intro flag
  have dashed : ∀ flag ∈ flags, flag.head? = some '-' ∧ flag ≠ ['-'] := by decide
  obtain ⟨dash, more⟩ := dashed argument flag
  rcases path with noDash | alone
  · exact noDash dash
  · exact more alone

/-- What an item of a command line is about. -/
inductive Kind where
  | plain
  | language
  | log
  | path
deriving DecidableEq, Repr

/-- One thing that is asked for on a command line. -/
inductive Item where
  | plain
  /-- A language by its tag, behind the short or the long flag. -/
  | language (short : Bool) (tag : Text)
  | log (file : Text)
  | path (file : Text)
deriving DecidableEq, Repr

namespace Item

def kind : Item → Kind
  | plain => .plain
  | language _ _ => .language
  | log _ => .log
  | path _ => .path

/-- The value of an item; a flag without a value has an empty one. -/
def value : Item → Text
  | plain => []
  | language _ tag => tag
  | log file => file
  | path file => file

/-- The arguments that ask for the item. -/
def arguments : Item → List Text
  | plain => ["--plain".toList]
  | language true tag => ["-l".toList, tag]
  | language false tag => ["--lang".toList, tag]
  | log file => ["--log".toList, file]
  | path file => [file]

/-- The value of a flag may be anything, but a path must be one. -/
def Fits (item : Item) : Prop :=
  item.kind = .path → IsPath item.value

theorem length_arguments_pos (item : Item) : 0 < item.arguments.length := by
  cases item with
  | language short tag => cases short <;> exact Nat.zero_lt_succ _
  | _ => exact Nat.zero_lt_succ _

end Item

/-! ## Rows of items -/

variable {items others : List Item}

/-- The arguments that ask for some items. -/
def written (items : List Item) : List Text :=
  items.flatMap Item.arguments

theorem written_cons (item : Item) (items : List Item) :
    written (item :: items) = item.arguments ++ written items :=
  List.flatMap_cons

/-- The values of one kind, in order. -/
def values (kind : Kind) (items : List Item) : List Text :=
  (items.filter fun item => item.kind = kind).map Item.value

theorem values_cons (kind : Kind) (item : Item) (items : List Item) :
    values kind (item :: items) =
      if item.kind = kind then item.value :: values kind items else values kind items := by
  by_cases ofKind : item.kind = kind <;> simp [values, ofKind]

theorem values_concat (kind : Kind) (items : List Item) (item : Item) :
    values kind (items ++ [item]) =
      values kind items ++ if item.kind = kind then [item.value] else [] := by
  by_cases ofKind : item.kind = kind <;> simp [values, List.filter_append, ofKind]

/-- Two rows with the same items of each kind in the same order. -/
def SameByKind (items others : List Item) : Prop :=
  ∀ kind, (items.filter fun item => item.kind = kind) = others.filter fun item => item.kind = kind

theorem SameByKind.mem_iff (same : SameByKind items others) (item : Item) :
    item ∈ items ↔ item ∈ others := by
  have filtered := congrArg (item ∈ ·) (same item.kind)
  simpa [List.mem_filter] using filtered

theorem SameByKind.values_eq (same : SameByKind items others) (kind : Kind) :
    values kind items = values kind others := by
  rw [values, same kind, values]

/-! ## What is no item -/

/-- What stands at the start of some arguments is no item, and this is what is wrong with it.  It
matters whether a path stands in front of them. -/
inductive Refused (behindPath : Prop) : List Text → OptionsError → Prop where
  | help {argument : Text} (rest : List Text)
      (asked : argument ∈ ["-h", "--help"].map String.toList) :
      Refused behindPath (argument :: rest) .helpRequested
  | noValue {flag : Text} (valued : flag ∈ ["-l", "--lang", "--log"].map String.toList) :
      Refused behindPath [flag] (.missingValue flag)
  | unknown {argument : Text} (rest : List Text) (dashed : ¬ IsPath argument)
      (noFlag : argument ∉ flags) :
      Refused behindPath (argument :: rest) (.unknownFlag argument)
  | second {argument : Text} (rest : List Text) (path : IsPath argument) (behind : behindPath) :
      Refused behindPath (argument :: rest) (.unknownFlag argument)

/-- Arguments start with an item or with what is none, unless there are none left. -/
theorem exists_item_or_refused (behindPath : Prop) {arguments : List Text}
    (more : arguments ≠ []) :
    (∃ error, Refused behindPath arguments error) ∨
      ∃ (item : Item) (rest : List Text), arguments = item.arguments ++ rest ∧ item.Fits ∧
        (item.kind = .path → ¬ behindPath) := by
  obtain ⟨argument, rest, rfl⟩ := List.exists_cons_of_ne_nil more
  by_cases flag : argument ∈ flags
  · simp only [flags, List.map_cons, List.map_nil, List.mem_cons, List.not_mem_nil, or_false]
      at flag
    rcases flag with rfl | rfl | rfl | rfl | rfl | rfl
    · exact .inl ⟨_, .help rest (by decide)⟩
    · exact .inl ⟨_, .help rest (by decide)⟩
    · exact .inr ⟨.plain, rest, rfl, nofun, nofun⟩
    · cases rest with
      | nil => exact .inl ⟨_, .noValue (by decide)⟩
      | cons tag rest => exact .inr ⟨.language true tag, rest, rfl, nofun, nofun⟩
    · cases rest with
      | nil => exact .inl ⟨_, .noValue (by decide)⟩
      | cons tag rest => exact .inr ⟨.language false tag, rest, rfl, nofun, nofun⟩
    · cases rest with
      | nil => exact .inl ⟨_, .noValue (by decide)⟩
      | cons file rest => exact .inr ⟨.log file, rest, rfl, nofun, nofun⟩
  · by_cases path : IsPath argument
    · by_cases behind : behindPath
      · exact .inl ⟨_, .second rest path behind⟩
      · exact .inr ⟨.path argument, rest, rfl, fun _ => path, fun _ => behind⟩
    · exact .inl ⟨_, .unknown rest path flag⟩

/-- Arguments start with a row of items, one path at most among them, and `rest` is left. -/
structure Reads (arguments : List Text) (items : List Item) (rest : List Text) : Prop where
  fit : ∀ item ∈ items, item.Fits
  cut : arguments = written items ++ rest
  one : (values .path items).length ≤ 1

theorem Reads.nil (arguments : List Text) : Reads arguments [] arguments :=
  ⟨fun _ member => absurd member List.not_mem_nil, rfl, Nat.zero_le 1⟩

/-- The next item is read if it is not a path behind another one. -/
theorem Reads.concat {arguments rest : List Text} {item : Item}
    (reads : Reads arguments items (item.arguments ++ rest)) (fits : item.Fits)
    (free : item.kind = .path → values .path items = []) :
    Reads arguments (items ++ [item]) rest := by
  constructor
  case fit =>
    intro other member
    rcases List.mem_append.mp member with member | member
    · exact reads.fit other member
    · rwa [List.mem_singleton.mp member]
  case cut =>
    rw [reads.cut, written, written, List.flatMap_append, List.flatMap_singleton,
      List.append_assoc]
  case one =>
    rw [values_concat]
    by_cases isPath : item.kind = .path
    · rw [free isPath, if_pos isPath]
      exact Nat.le_refl 1
    · rw [if_neg isPath, List.append_nil]
      exact reads.one

/-- Arguments can be cut into items until one is none, or none is left. -/
theorem exists_reads (arguments : List Text) :
    ∃ items rest, Reads arguments items rest ∧
      (rest = [] ∨ ∃ error, Refused (values .path items ≠ []) rest error) := by
  -- The row so far is what the induction generalizes over, since it tells whether there is a path.
  suffices further : ∀ (rest : List Text) (items : List Item), Reads arguments items rest →
      ∃ items rest, Reads arguments items rest ∧
        (rest = [] ∨ ∃ error, Refused (values .path items ≠ []) rest error) from
    further arguments [] (.nil arguments)
  intro rest
  induction length : rest.length using Nat.strongRecOn generalizing rest with
  | ind count inductionHypothesis =>
      intro items reads
      by_cases done : rest = []
      · exact ⟨items, rest, reads, .inl done⟩
      rcases exists_item_or_refused (values .path items ≠ []) done with refused | taken
      · exact ⟨items, rest, reads, .inr refused⟩
      obtain ⟨item, behind, rfl, fits, free⟩ := taken
      have shorter : behind.length < count := by
        have positive := item.length_arguments_pos
        rw [List.length_append] at length
        omega
      exact inductionHypothesis behind.length shorter behind rfl (items ++ [item])
        (reads.concat fits fun isPath => Decidable.not_not.mp (free isPath))

end Options

/-! ## Taking items -/

namespace PartialOptions

open Options

variable {options : PartialOptions} {argument : Text} {rest : List Text} {item : Item}
  {items : List Item} {error : OptionsError}

def add (options : PartialOptions) : Item → PartialOptions
  | .plain => { options with plain := true }
  | .language _ tag => { options with language? := some tag }
  | .log file => { options with log? := some file }
  | .path file => { options with path? := some file }

theorem takePath_of_isPath (path : IsPath argument) :
    options.takePath argument =
      if options.path?.isSome then .error (.unknownFlag argument)
      else .ok (options.add (.path argument)) := by
  have noFlag : (argument.head? = some '-' && 1 < argument.length) = false := by
    rcases path with noDash | rfl
    · simp [noDash]
    · rfl
  rw [takePath, if_neg (by rw [noFlag]; exact Bool.false_ne_true)]
  rfl

theorem takePath_of_not_isPath (dashed : ¬ IsPath argument) :
    options.takePath argument = .error (.unknownFlag argument) := by
  obtain ⟨dash, more⟩ := not_or.mp dashed
  have dash : argument.head? = some '-' := Decidable.not_not.mp dash
  have long : 1 < argument.length := by
    rcases argument with _ | ⟨first, _ | ⟨second, argument⟩⟩
    · cases dash
    · cases dash
      exact absurd rfl more
    · exact Nat.succ_lt_succ (Nat.zero_lt_succ _)
  rw [takePath, if_pos]
  simp [dash, long]

theorem optionsFrom_of_not_mem_flags (noFlag : argument ∉ flags) :
    optionsFrom options (argument :: rest) =
      options.takePath argument >>= (optionsFrom · rest) := by
  have apart : ∀ spellings : List String, (∀ spelling ∈ spellings, spelling.toList ∈ flags) →
      isFlag spellings argument = false := by
    intro spellings known
    apply Bool.eq_false_iff.mpr
    intro flag
    obtain ⟨spelling, listed, same⟩ := List.mem_map.mp (isFlag_iff.mp flag)
    exact noFlag (same ▸ known spelling listed)
  rw [optionsFrom.eq_def]
  simp only [apart ["-h", "--help"] (by decide), apart ["--plain"] (by decide),
    apart ["-l", "--lang"] (by decide), apart ["--log"] (by decide), Bool.false_eq_true, if_false]
  cases options.takePath argument <;> rfl

/-- An item is taken, unless it is a path behind another one. -/
theorem optionsFrom_arguments (fits : item.Fits)
    (free : item.kind = .path → options.path? = none) :
    optionsFrom options (item.arguments ++ rest) = optionsFrom (options.add item) rest := by
  cases item with
  | plain => cases rest <;> rfl
  | language short tag => cases short <;> rfl
  | log file => rfl
  | path file =>
      have path : IsPath file := fits rfl
      have free : options.path? = none := free rfl
      rw [Item.arguments, List.singleton_append,
        optionsFrom_of_not_mem_flags (not_mem_flags_of_isPath path), takePath_of_isPath path, free]
      rfl

theorem optionsFrom_of_refused (refused : Refused (options.path? ≠ none) rest error) :
    optionsFrom options rest = .error error := by
  cases refused with
  | help rest asked =>
      rw [optionsFrom.eq_def]
      exact if_pos (isFlag_iff.mpr asked)
  | noValue valued =>
      simp only [List.map_cons, List.map_nil, List.mem_cons, List.not_mem_nil, or_false] at valued
      rcases valued with rfl | rfl | rfl <;> rfl
  | unknown rest dashed noFlag =>
      rw [optionsFrom_of_not_mem_flags noFlag, takePath_of_not_isPath dashed]
      rfl
  | second rest path behind =>
      rw [optionsFrom_of_not_mem_flags (not_mem_flags_of_isPath path), takePath_of_isPath path,
        if_pos (Option.isSome_iff_ne_none.mpr behind)]
      rfl

/-- A row of items with one path at most, counting one that is there already, is taken. -/
theorem optionsFrom_written (fit : ∀ item ∈ items, item.Fits)
    (one : options.path?.toList.length + (values .path items).length ≤ 1) :
    optionsFrom options (written items ++ rest) = optionsFrom (items.foldl add options) rest := by
  induction items generalizing options with
  | nil => rfl
  | cons item items inductionHypothesis =>
      rw [values_cons] at one
      have free : item.kind = .path → options.path? = none := by
        intro isPath
        rw [if_pos isPath, List.length_cons] at one
        cases behind : options.path? with
        | none => rfl
        | some other =>
            rw [behind, Option.toList_some, List.length_singleton] at one
            omega
      rw [written_cons, List.append_assoc,
        optionsFrom_arguments (fit item List.mem_cons_self) free, List.foldl_cons]
      apply inductionHypothesis fun other member => fit other (List.mem_cons_of_mem item member)
      cases item with
      | path file =>
          rw [free rfl] at one
          simpa [add, Item.kind, Nat.add_comm] using one
      | _ => exact one

/-- What a row of items asks for: the last value of each kind. -/
def asked (items : List Item) : PartialOptions :=
  ⟨(values .path items).getLast?, (values .language items).getLast?, decide (.plain ∈ items),
    (values .log items).getLast?⟩

theorem foldl_add (items : List Item) : items.foldl add empty = asked items := by
  suffices further : ∀ options : PartialOptions, items.foldl add options =
      ⟨(asked items).path?.or options.path?, (asked items).language?.or options.language?,
        options.plain || (asked items).plain, (asked items).log?.or options.log?⟩ by
    rw [further]
    simp [empty]
  induction items with
  | nil =>
      intro options
      simp [asked, values]
  | cons item items inductionHypothesis =>
      intro options
      rw [List.foldl_cons, inductionHypothesis]
      cases item <;>
        simp [add, asked, values_cons, Item.kind, Item.value, List.getLast?_cons, Option.or_some]

end PartialOptions

/-! ## Whole command lines -/

namespace Options

open PartialOptions

variable {arguments rest : List Text} {items others : List Item} {options : Options}
  {error : OptionsError}

theorem Refused.imp {behind behind' : Prop} (implies : behind → behind')
    (refused : Refused behind rest error) : Refused behind' rest error := by
  cases refused with
  | help rest asked => exact .help rest asked
  | noValue valued => exact .noValue valued
  | unknown rest dashed noFlag => exact .unknown rest dashed noFlag
  | second rest path behind => exact .second rest path (implies behind)

namespace Reads

theorem ofArguments_eq (reads : Reads arguments items rest) :
    ofArguments arguments = optionsFrom (asked items) rest := by
  rw [ofArguments, reads.cut, optionsFrom_written reads.fit (by simpa [empty] using reads.one),
    foldl_add]

theorem eq_error_of_refused (reads : Reads arguments items rest)
    (refused : Refused (values .path items ≠ []) rest error) :
    ofArguments arguments = .error error := by
  rw [reads.ofArguments_eq]
  apply optionsFrom_of_refused
  refine refused.imp fun behind => ?_
  rwa [asked, Ne, List.getLast?_eq_none_iff]

theorem eq_missingFile (reads : Reads arguments items []) (noPath : values .path items = []) :
    ofArguments arguments = .error .missingFile := by
  rw [reads.ofArguments_eq, optionsFrom, complete, asked, noPath]
  rfl

theorem eq_ok_of_path {file : Text} (reads : Reads arguments items [])
    (path : values .path items = [file]) :
    ofArguments arguments = .ok ⟨file, (values .language items).getLast?,
      decide (.plain ∈ items), (values .log items).getLast?⟩ := by
  rw [reads.ofArguments_eq, optionsFrom, complete, asked, path]
  rfl

theorem no_path_or_path (reads : Reads arguments items rest) :
    values .path items = [] ∨ ∃ file, values .path items = [file] := by
  have one := reads.one
  match split : values .path items with
  | [] => exact .inl rfl
  | [file] => exact .inr ⟨file, rfl⟩
  | _ :: _ :: _ =>
      rw [split] at one
      exact absurd one (Nat.not_le_of_lt (Nat.succ_lt_succ (Nat.zero_lt_succ _)))

end Reads

theorem ofArguments_eq_ok_iff :
    ofArguments arguments = .ok options ↔
      ∃ items, Reads arguments items [] ∧ values .path items = [options.path] ∧
        options.language? = (values .language items).getLast? ∧
        (options.plain = true ↔ .plain ∈ items) ∧
        options.log? = (values .log items).getLast? := by
  constructor
  · intro found
    obtain ⟨items, rest, reads, rfl | ⟨error, refused⟩⟩ := exists_reads arguments
    · rcases reads.no_path_or_path with noPath | ⟨file, path⟩
      · rw [reads.eq_missingFile noPath] at found
        cases found
      · rw [reads.eq_ok_of_path path] at found
        cases found
        exact ⟨items, reads, path, rfl, decide_eq_true_iff, rfl⟩
    · rw [reads.eq_error_of_refused refused] at found
      cases found
  · rintro ⟨items, reads, path, language, plain, log⟩
    have plain : decide (.plain ∈ items) = options.plain :=
      Bool.eq_iff_iff.mpr (decide_eq_true_iff.trans plain.symm)
    rw [reads.eq_ok_of_path path, ← language, ← log, plain]

theorem ofArguments_eq_error_iff :
    ofArguments arguments = .error error ↔
      ∃ items rest, Reads arguments items rest ∧
        (Refused (values .path items ≠ []) rest error ∨
          rest = [] ∧ values .path items = [] ∧ error = .missingFile) := by
  constructor
  · intro found
    obtain ⟨items, rest, reads, rfl | ⟨other, refused⟩⟩ := exists_reads arguments
    · rcases reads.no_path_or_path with noPath | ⟨file, path⟩
      · rw [reads.eq_missingFile noPath] at found
        cases found
        exact ⟨items, [], reads, .inr ⟨rfl, noPath, rfl⟩⟩
      · rw [reads.eq_ok_of_path path] at found
        cases found
    · rw [reads.eq_error_of_refused refused] at found
      cases found
      exact ⟨items, rest, reads, .inl refused⟩
  · rintro ⟨items, rest, reads, refused | ⟨rfl, noPath, rfl⟩⟩
    · exact reads.eq_error_of_refused refused
    · exact reads.eq_missingFile noPath

/-- Items of different kinds may be put in another order. -/
theorem SameByKind.ofArguments_eq (same : SameByKind items others)
    (reads : Reads arguments items []) :
    ofArguments (written others) = ofArguments arguments := by
  have reordered : Reads (written others) others [] := by
    refine ⟨fun item member => ?_, (List.append_nil _).symm, ?_⟩
    · exact reads.fit item ((same.mem_iff item).mpr member)
    · rw [← same.values_eq]
      exact reads.one
  have alike : asked others = asked items := by
    simp only [asked, same.values_eq, same.mem_iff]
  rw [reordered.ofArguments_eq, reads.ofArguments_eq, alike]

/-- Arguments are accepted if and only if they can be cut into items with exactly one path, and then
the last value of each kind is taken, in whatever order the kinds stand.  Any other arguments are
refused with the error of the first that is no item, or for want of a path if there is none. -/
theorem ofArguments_reads_items (arguments : List Text) :
    (∀ options, ofArguments arguments = .ok options ↔
      ∃ items, Reads arguments items [] ∧ values .path items = [options.path] ∧
        options.language? = (values .language items).getLast? ∧
        (options.plain = true ↔ .plain ∈ items) ∧
        options.log? = (values .log items).getLast?) ∧
    (∀ error, ofArguments arguments = .error error ↔
      ∃ items rest, Reads arguments items rest ∧
        (Refused (values .path items ≠ []) rest error ∨
          rest = [] ∧ values .path items = [] ∧ error = .missingFile)) ∧
    ∀ items others, Reads arguments items [] → SameByKind items others →
      ofArguments (written others) = ofArguments arguments :=
  ⟨fun _ => ofArguments_eq_ok_iff, fun _ => ofArguments_eq_error_iff,
    fun _ _ reads same => same.ofArguments_eq reads⟩

/-- A value that looks like a flag, a flag that is repeated, and a dash alone as the path. -/
example : ofArguments ["-l".toList, "-h".toList, "-".toList, "--lang".toList, "go".toList] =
    .ok ⟨"-".toList, some "go".toList, false, none⟩ :=
  rfl

end Options

end InputDemand
