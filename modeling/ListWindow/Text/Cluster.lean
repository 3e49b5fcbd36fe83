import ListWindow.Text.CodeRanges
import ListWindow.Text.Emoji

/-!
Grapheme clusters: the pieces of a text that a reader takes for one character (Unicode 18). A text
is its clusters one after the other.

Each character has a class, and a cut between two neighbours depends on both classes and on three
things about the text before: whether a run of regional indicators is odd, whether a pictograph
waits to be joined, and whether a consonant waits to be linked.
-/
namespace ListWindow.Text

/-- The class of a character as far as cuts depend on it. -/
inductive BreakClass where
  | other
  | carriageReturn
  | lineFeed
  | control
  | extending
  | joiner
  | regional
  | prepended
  | spacing
  | leadingJamo
  | vowelJamo
  | finalJamo
  | openSyllable
  | closedSyllable
  deriving DecidableEq, Repr

/-- Controls, separators and other characters that stand alone. -/
def controls : CodeRanges :=
  [(0x0, 0x9), (0xB, 0xC), (0xE, 0x1F), (0x7F, 0x9F), (0xAD, 0xAD), (0x61C, 0x61C),
   (0x180E, 0x180E), (0x200B, 0x200B), (0x200E, 0x200F), (0x2028, 0x202E), (0x2060, 0x206F),
   (0xFEFF, 0xFEFF), (0xFFF0, 0xFFFB), (0x13430, 0x1343F), (0x1BCA0, 0x1BCA3), (0x1D173, 0x1D17A),
   (0xE0000, 0xE001F), (0xE0080, 0xE00FF), (0xE01F0, 0xE0FFF)]

/-- Signs written before the character they belong to. -/
def prependedSigns : CodeRanges :=
  [(0x600, 0x605), (0x6DD, 0x6DD), (0x70F, 0x70F), (0x890, 0x891), (0x8E2, 0x8E2), (0xD4E, 0xD4E),
   (0x110BD, 0x110BD), (0x110CD, 0x110CD), (0x111C2, 0x111C3), (0x113D1, 0x113D1),
   (0x1193F, 0x1193F), (0x11941, 0x11941), (0x11A84, 0x11A89), (0x11D46, 0x11D46),
   (0x11F02, 0x11F02)]

def leadingJamos : CodeRanges := [(0x1100, 0x115F), (0xA960, 0xA97C)]

/-- Vowels of Hangul syllables, and the vowels of Kirat Rai that combine in the same way. -/
def vowelJamos : CodeRanges :=
  [(0x1160, 0x11A7), (0xD7B0, 0xD7C6), (0x16D63, 0x16D63), (0x16D67, 0x16D6A)]

def finalJamos : CodeRanges := [(0x11A8, 0x11FF), (0xD7CB, 0xD7FB)]

/-- Whole Hangul syllables come in blocks of 28, of which the first has no final consonant. -/
def syllableClass (c : Char) : BreakClass :=
  if (c.toNat - 0xAC00) % 28 = 0 then .openSyllable else .closedSyllable

def BreakClass.of (c : Char) : BreakClass :=
  if c = '\r' then .carriageReturn
  else if c = '\n' then .lineFeed
  else if controls.contains c then .control
  else if c.toNat < 0x300 then .other
  else if c = '\u200d' then .joiner
  else if extenders.contains c then .extending
  else if regionalIndicators.contains c then .regional
  else if prependedSigns.contains c then .prepended
  else if spacingMarks.contains c then .spacing
  else if leadingJamos.contains c then .leadingJamo
  else if vowelJamos.contains c then .vowelJamo
  else if finalJamos.contains c then .finalJamo
  else if 0xAC00 ≤ c.toNat ∧ c.toNat ≤ 0xD7A3 then syllableClass c
  else .other

/-- Characters that always stand alone, apart from a line break of two characters. -/
def BreakClass.standsAlone : BreakClass → Bool
  | carriageReturn | lineFeed | control => true
  | _ => false

/-- A pictograph on the way to the next one: seen with its extenders, or with a joiner as well. -/
inductive Joining where
  | none
  | pictograph
  | joined
  deriving DecidableEq, Repr

/-- A consonant on the way to the next one: seen, or linked as well. -/
inductive Linking where
  | none
  | consonant
  | linked
  deriving DecidableEq, Repr

/-- What a cut depends on of the text before it. -/
structure BreakState where
  last : BreakClass
  oddRegionals : Bool
  joining : Joining
  linking : Linking
  deriving DecidableEq, Repr

namespace BreakState

/-- How a character carries a pictograph on. -/
def nextJoining (j : Joining) (kind : BreakClass) (c : Char) : Joining :=
  if pictographs.contains c then .pictograph
  else
    match j, kind with
    | .pictograph, .extending => .pictograph
    | .pictograph, .joiner => .joined
    | _, _ => .none

/-- How a character carries a consonant on. The non-joiner and all that is no mark end it. -/
def nextLinking (l : Linking) (kind : BreakClass) (c : Char) : Linking :=
  if conjunctConsonants.contains c then .consonant
  else if conjunctLinkers.contains c then (if l = .none then .none else .linked)
  else if (kind = .extending ∧ c ≠ '\u200c') ∨ kind = .joiner then l
  else .none

def start (c : Char) : BreakState :=
  let kind := BreakClass.of c
  { last := kind
    oddRegionals := kind == .regional
    joining := nextJoining .none kind c
    linking := nextLinking .none kind c }

def next (s : BreakState) (c : Char) : BreakState :=
  let kind := BreakClass.of c
  { last := kind
    oddRegionals := kind == .regional && !s.oddRegionals
    joining := nextJoining s.joining kind c
    linking := nextLinking s.linking kind c }

/-- Two classes that stay together whatever is around them. -/
def staysTogether : BreakClass → BreakClass → Bool
  | _, .extending => true
  | _, .joiner => true
  | _, .spacing => true
  | .prepended, _ => true
  | .leadingJamo, .leadingJamo => true
  | .leadingJamo, .vowelJamo => true
  | .leadingJamo, .openSyllable => true
  | .leadingJamo, .closedSyllable => true
  | .openSyllable, .vowelJamo => true
  | .openSyllable, .finalJamo => true
  | .vowelJamo, .vowelJamo => true
  | .vowelJamo, .finalJamo => true
  | .closedSyllable, .finalJamo => true
  | .finalJamo, .finalJamo => true
  | _, _ => false

/-- A cluster ends before the next character. -/
def cutsBefore (s : BreakState) (c : Char) : Bool :=
  let kind := BreakClass.of c
  if s.last = .carriageReturn ∧ kind = .lineFeed then false
  else if s.last.standsAlone || kind.standsAlone then true
  else if staysTogether s.last kind then false
  else if s.linking = .linked ∧ conjunctConsonants.contains c then false
  else if s.joining = .joined ∧ pictographs.contains c then false
  else !(s.oddRegionals && kind == .regional)

end BreakState

/-- A run of characters that stay together. -/
abbrev Cluster := List Char

/-- The rest of the cluster that has begun, and the clusters after it. -/
def clustersAfter : BreakState → List Char → Cluster × List Cluster
  | _, [] => ([], [])
  | s, c :: rest =>
    let (here, later) := clustersAfter (s.next c) rest
    if s.cutsBefore c then ([], (c :: here) :: later) else (c :: here, later)

def clusters : List Char → List Cluster
  | [] => []
  | c :: rest =>
    let (here, later) := clustersAfter (.start c) rest
    (c :: here) :: later

theorem flatten_clustersAfter (s : BreakState) (cs : List Char) :
    (clustersAfter s cs).1 ++ (clustersAfter s cs).2.flatten = cs := by
  induction cs generalizing s with
  | nil => rfl
  | cons c rest ih =>
    simp only [clustersAfter]
    split <;> simp [ih]

/-- The clusters of a text make up the text. -/
theorem flatten_clusters (cs : List Char) : (clusters cs).flatten = cs := by
  cases cs with
  | nil => rfl
  | cons c rest => simp [clusters, flatten_clustersAfter]

end ListWindow.Text
