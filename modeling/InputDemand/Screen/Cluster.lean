import InputDemand.Screen.ClusterRanges
import InputDemand.Text.CharClass

/-!
# Clusters

A cluster is what is drawn as one sign: a character with the marks that follow it, a syllable, a
pair of linked consonants, a flag, or pictographs that a joiner has joined.  Whether a character
continues the cluster in front of it follows from the two characters and, for linked consonants,
flags and joined pictographs, from a summary of what stands further in front.  Main statement:
clusters cut a text into pieces and lose nothing.
-/

namespace InputDemand

/-- How a character takes part in clusters. -/
inductive ClusterRole where
  | carriageReturn
  | lineFeed
  /-- A character that stands alone. -/
  | control
  /-- A mark that continues any cluster. -/
  | extender
  /-- An extender that links two consonants. -/
  | linker
  /-- An extender that joins two pictographs. -/
  | joiner
  /-- The extender that keeps two consonants apart. -/
  | nonJoiner
  /-- A mark with columns of its own; it continues any cluster. -/
  | spacing
  /-- A sign that the next character continues. -/
  | leading
  /-- The letters of a Hangul syllable. -/
  | onset
  | vowel
  | coda
  /-- A whole Hangul syllable without and with a coda. -/
  | openSyllable
  | closedSyllable
  /-- One of the two halves of a flag. -/
  | indicator
  | consonant
  | pictograph
  | other
deriving DecidableEq, Repr

namespace ClusterRole

/-- The letters of Hangul by themselves; two vowels of the Kirat Rai script work like them. -/
def letter? (code : Nat) : Option ClusterRole :=
  if 0x1100 ≤ code ∧ code ≤ 0x115F ∨ 0xA960 ≤ code ∧ code ≤ 0xA97C then some onset
  else if 0x1160 ≤ code ∧ code ≤ 0x11A7 ∨ 0xD7B0 ≤ code ∧ code ≤ 0xD7C6 ∨ code = 0x16D63 ∨
      0x16D67 ≤ code ∧ code ≤ 0x16D6A then some vowel
  else if 0x11A8 ≤ code ∧ code ≤ 0x11FF ∨ 0xD7CB ≤ code ∧ code ≤ 0xD7FB then some coda
  else none

/-- The role of a Hangul letter or syllable.  Every twenty-eighth syllable has no coda. -/
def hangul? (code : Nat) : Option ClusterRole :=
  if 0xAC00 ≤ code ∧ code ≤ 0xD7A3 then
    if (code - 0xAC00) % 28 = 0 then some openSyllable else some closedSyllable
  else letter? code

def of (letter : Char) : ClusterRole :=
  if letter = '\r' then carriageReturn
  else if letter = '\n' then lineFeed
  else if letter.toNat < 32 || letter.toNat = 127 then control
  else if letter.toNat < 128 then other
  else if letter = '\u200D' then joiner
  else if letter = '\u200C' then nonJoiner
  else if inRanges letter linkerRanges then linker
  else if inRanges letter extenderRanges then extender
  else if inRanges letter spacingRanges then spacing
  else if inRanges letter controlRanges then control
  else if inRanges letter leadingRanges then leading
  else if 0x1F1E6 ≤ letter.toNat && letter.toNat ≤ 0x1F1FF then indicator
  else if inRanges letter consonantRanges then consonant
  else if inRanges letter pictographRanges then pictograph
  else (hangul? letter.toNat).getD other

/-- Whether a character of the role never shares a cluster, line feeds behind carriage returns
apart. -/
def standsAlone : ClusterRole → Bool
  | carriageReturn | lineFeed | control => true
  | _ => false

/-- Whether a character of the role continues any cluster. -/
def continues : ClusterRole → Bool
  | extender | linker | joiner | nonJoiner | spacing => true
  | _ => false

/-- Whether two letters follow each other in a Hangul syllable. -/
def makeSyllable : ClusterRole → ClusterRole → Bool
  | onset, onset | onset, vowel | onset, openSyllable | onset, closedSyllable => true
  | openSyllable, vowel | openSyllable, coda | vowel, vowel | vowel, coda => true
  | closedSyllable, coda | coda, coda => true
  | _, _ => false

end ClusterRole

/-- How far something with a joint in its middle has come. -/
inductive Joint where
  | none
  /-- Its first half is there. -/
  | begun
  /-- Its first half and its joint are there. -/
  | ready
deriving DecidableEq, Repr

/-- What matters of the text in front of a place for the cluster that goes on there. -/
structure ClusterContext where
  /-- The role of the character in front of the place. -/
  last : ClusterRole
  /-- Two linked consonants. -/
  consonants : Joint
  /-- Two joined pictographs. -/
  pictographs : Joint
  /-- Whether half a flag waits for its other half. -/
  halfFlag : Bool
deriving DecidableEq, Repr

namespace ClusterContext

def start : ClusterContext :=
  ⟨.control, .none, .none, false⟩

/-- The context behind one more character. -/
def next (before : ClusterContext) (role : ClusterRole) : ClusterContext where
  last := role
  consonants := match role with
    | .consonant => .begun
    | .linker => if before.consonants = .none then .none else .ready
    | .extender | .joiner => before.consonants
    | _ => .none
  pictographs := match role with
    | .pictograph => .begun
    | .extender | .linker | .nonJoiner =>
        if before.pictographs = .begun then .begun else .none
    | .joiner => if before.pictographs = .begun then .ready else .none
    | _ => .none
  halfFlag := role = .indicator && !before.halfFlag

/-- Whether a character continues the cluster in front of it. -/
def joins (before : ClusterContext) (role : ClusterRole) : Bool :=
  if before.last = .carriageReturn && role = .lineFeed then true
  else if before.last.standsAlone || role.standsAlone then false
  else
    role.continues || before.last = .leading || before.last.makeSyllable role ||
      (role = .consonant && before.consonants = .ready) ||
      (role = .pictograph && before.pictographs = .ready) ||
      (role = .indicator && before.halfFlag)

end ClusterContext

namespace Text

/-- What goes on with the cluster in front of a text, and the clusters behind that. -/
def continued (before : ClusterContext) : Text → Text × List Text
  | [] => ([], [])
  | letter :: text =>
      let role := ClusterRole.of letter
      let (more, others) := continued (before.next role) text
      if before.joins role then (letter :: more, others) else ([], (letter :: more) :: others)

def clusters (text : Text) : List Text :=
  (continued .start text).2

/-- What continues a cluster and the clusters behind it make up the text. -/
theorem append_flatten_continued (before : ClusterContext) (text : Text) :
    (continued before text).1 ++ (continued before text).2.flatten = text := by
  induction text generalizing before with
  | nil => rfl
  | cons letter text ih =>
      have rest := ih (before.next (ClusterRole.of letter))
      simp only [continued]
      split
      · simpa using rest
      · simpa using rest

theorem continued_start (text : Text) : (continued .start text).1 = [] := by
  cases text with
  | nil => rfl
  | cons letter text => simp [continued, ClusterContext.joins, ClusterContext.start,
      ClusterRole.standsAlone]

/-- Clusters cut a text into pieces and lose nothing. -/
@[simp]
theorem flatten_clusters (text : Text) : (clusters text).flatten = text := by
  have whole := append_flatten_continued .start text
  rwa [continued_start, List.nil_append] at whole

end Text

end InputDemand
