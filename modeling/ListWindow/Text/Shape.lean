import ListWindow.Text.CharWidth
import ListWindow.Text.Emoji

/-!
Characters that change the width of their neighbours. Widths are added up from the end of a text
to its start, so what matters for a character is the shape of the text behind it: an emoji that a
joiner may tie to another one, a letter that melts into the letter before it, or a variation
selector.
-/
namespace ListWindow.Text

/-- Letters that make one sign with the letter before them. -/
inductive Ligature where
  /-- Hebrew lamed, after alef. -/
  | lamed
  /-- Buginese ya, after the vowel i. -/
  | ya
  /-- The Buginese vowel i with a joined ya behind it, after another letter. -/
  | vowelYa
  /-- A Tifinagh consonant, after another one. -/
  | tifinagh
  /-- A Tifinagh consonant that a joining sign ties to the one before. -/
  | tifinaghTied
  /-- A Lisu tone letter that follows another one. -/
  | lisuTone
  /-- Old Turkic i, after ic. -/
  | orkhonI
  /-- A Khmer letter that can stand below another one. -/
  | khmer
  deriving DecidableEq, Repr

/-- What the text behind a character begins with. -/
inductive Shape where
  | plain
  | lineFeed
  /-- A complete emoji. -/
  | emoji
  /-- A skin tone. -/
  | skinTone
  /-- One regional indicator. -/
  | regional
  /-- Several regional indicators, or at least one pair. -/
  | regionals
  /-- A joiner and an emoji. -/
  | joinedEmoji
  /-- A keycap, a joiner and an emoji. -/
  | joinedKeycap
  /-- One regional indicator, a joiner and an emoji. -/
  | joinedRegional
  /-- Regional indicators in pairs, a joiner and an emoji. -/
  | joinedEven
  /-- Regional indicators in pairs and one more, a joiner and an emoji. -/
  | joinedOdd
  /-- The tags that end a flag, a joiner and an emoji: so many letters, and digits before them. -/
  | joinedTags (letters digits : Nat)
  /-- Arabic alef, before which lam takes no room. -/
  | alef
  /-- A letter that may melt into the one before, and whether it is tied to it already. -/
  | ligature (letter : Ligature) (tied : Bool)
  /-- The Kirat Rai vowels e and ai. -/
  | vowelE
  | vowelAi
  deriving DecidableEq, Repr

/-- A variation selector. -/
inductive Selector where
  | text
  | emoji
  | wideQuote
  deriving DecidableEq, Repr

/-- The variation selectors at the start of the text behind, as far as they wait for a base. -/
structure Selectors where
  text : Bool := false
  emoji : Bool := false
  wideQuote : Bool := false
  deriving DecidableEq, Repr

namespace Selectors

def none : Selectors := {}

def add (ss : Selectors) : Selector → Selectors
  | .text => { ss with text := true }
  | .emoji => { ss with emoji := true }
  | .wideQuote => { ss with wideQuote := true }

end Selectors

def alefs : CodeRanges :=
  [(0x622, 0x623), (0x625, 0x625), (0x627, 0x627), (0x671, 0x673), (0x675, 0x675), (0x773, 0x774),
   (0x870, 0x882)]

def lams : CodeRanges :=
  [(0x644, 0x644), (0x6B5, 0x6B8), (0x76A, 0x76A), (0x8A6, 0x8A6), (0x8C7, 0x8C7)]

/-- Khmer letters that take a form below another letter. -/
def khmerLetters : CodeRanges :=
  [(0x1780, 0x1782), (0x1784, 0x1787), (0x1789, 0x178C), (0x178E, 0x1793), (0x1795, 0x1798),
   (0x179B, 0x179D), (0x17A0, 0x17A0), (0x17A2, 0x17A2), (0x17A7, 0x17A7), (0x17AB, 0x17AC),
   (0x17AF, 0x17AF)]

def tifinaghConsonants : CodeRanges := [(0x2D31, 0x2D65), (0x2D6F, 0x2D6F)]

/-- Lisu tone letters that may come first, and those that may come second. -/
def lisuFirstTones : CodeRanges := [(0xA4F8, 0xA4FB)]

def lisuSecondTones : CodeRanges := [(0xA4FC, 0xA4FD)]

def tagLetters : CodeRanges := [(0xE0061, 0xE007A)]

def tagDigits : CodeRanges := [(0xE0030, 0xE0039)]

/-- Marks that do not part a letter from the one it melts into. -/
def ligatureMarks : CodeRanges :=
  [(0x34F, 0x34F), (0x17B4, 0x17B5), (0x180B, 0x180D), (0x180F, 0x180F), (0x200D, 0x200D),
   (0xFE00, 0xFE0F), (0xE0100, 0xE01EF)]

namespace Shape

/-- The shape of a text that begins with the given character and goes on with nothing special. -/
def of (c : Char) : Shape :=
  if c = '\n' then .lineFeed
  else if c.toNat < 0x5DC then .plain
  else if c.toNat = 0x5DC then .ligature .lamed false
  else if c.toNat = 0x1A10 then .ligature .ya false
  else if c.toNat = 0x10C03 then .ligature .orkhonI false
  else if c.toNat = 0x16D67 then .vowelE
  else if c.toNat = 0x16D68 then .vowelAi
  else if alefs.contains c then .alef
  else if khmerLetters.contains c then .ligature .khmer true
  else if tifinaghConsonants.contains c then .ligature .tifinagh false
  else if lisuSecondTones.contains c then .ligature .lisuTone true
  else if regionalIndicators.contains c then .regional
  else if skinTones.contains c then .skinTone
  else if emojiPresentation.contains c then .emoji
  else .plain

/-- The shape is one that an emoji joiner stands before. -/
def isJoined : Shape → Bool
  | joinedEmoji | joinedKeycap => true
  | _ => false

/-- The shape melts into the character before it, so that a selector leaves it as it is. -/
def isMelting : Shape → Bool
  | alef | ligature _ _ => true
  | _ => false

/-- What is left of a shape when the selector before it turns out to have no base. -/
def withoutSelector (s : Shape) : Shape := if s.isMelting then s else plain

/-- The shape behind a selector. -/
def behind (s : Shape) (selector : Selector) : Shape :=
  if s.isMelting || (selector == .emoji && s.isJoined) then s else plain

/-- A letter before one that it may melt with: the cells it adds, and the new shape. -/
def meltWith? (c : Char) : Ligature → Bool → Option (Int × Shape)
  | .lamed, true => if c.toNat = 0x5D0 then some (0, plain) else none
  | .khmer, _ => if c.toNat = 0x17D2 then some (-1, plain) else none
  | .ya, true => if c.toNat = 0x1A17 then some (0, ligature .vowelYa true) else none
  | .vowelYa, _ => if c.toNat = 0x1A15 then some (0, plain) else none
  | .tifinagh, tied =>
    if c.toNat = 0x2D7F then some (1, ligature .tifinaghTied true)
    else if tied && tifinaghConsonants.contains c then some (0, plain)
    else none
  | .tifinaghTied, _ => if tifinaghConsonants.contains c then some (-1, plain) else none
  | .lisuTone, _ => if lisuFirstTones.contains c then some (0, plain) else none
  | .orkhonI, true => if c.toNat = 0x10C32 then some (0, plain) else none
  | _, _ => none

/-- A mark or a letter before a ligature letter. Marks are passed over, and a joiner ties. -/
def ligate? (c : Char) (letter : Ligature) (tied : Bool) : Option (Int × Shape) :=
  if c = '\u200d' then some (0, ligature letter true)
  else if ligatureMarks.contains c then some (0, ligature letter tied)
  else meltWith? c letter tied

/-- A character before a joiner and an emoji. -/
def joinEmoji? (c : Char) : Option (Int × Shape) :=
  if c.toNat = 0x20E3 then some (0, joinedKeycap)
  else if regionalIndicators.contains c then some (1, joinedRegional)
  else if skinTones.contains c then some (0, skinTone)
  else if c.toNat = 0xE007F then some (0, joinedTags 0 0)
  else if emojiPresentation.contains c then some (0, emoji)
  else none

/-- A character before the tags of a flag: the flag begins with its black ground, and has three
digits or three to six letters. -/
def joinTags? (c : Char) (letters digits : Nat) : Option (Int × Shape) :=
  if tagLetters.contains c then
    if digits = 0 ∧ letters < 6 then some (0, joinedTags (letters + 1) 0) else none
  else if tagDigits.contains c then
    if digits < 3 ∧ letters < 5 then some (0, joinedTags letters (digits + 1)) else none
  else if c.toNat = 0x1F3F4 ∧ (digits = 3 ∨ digits = 0 ∧ 3 ≤ letters) then some (0, emoji)
  else none

/-- A regional indicator, or a joiner, before regional indicators. -/
def pairRegional? (c : Char) (cells : Int) (paired : Shape) : Option (Int × Shape) :=
  if regionalIndicators.contains c then some (cells, paired) else none

/-- A joiner before an emoji. -/
def tieEmoji? (c : Char) : Option (Int × Shape) :=
  if c = '\u200d' then some (0, joinedEmoji) else none

/-- A character that combines with the shape behind it: the cells it adds, and the new shape. -/
def combine? (c : Char) : Shape → Option (Int × Shape)
  | plain => none
  | lineFeed => none
  | emoji => tieEmoji? c
  | skinTone =>
    if skinToneBases.contains c then some (0, emoji) else tieEmoji? c
  | regional => pairRegional? c 1 regionals
  | regionals => (pairRegional? c 1 regionals).or (tieEmoji? c)
  | joinedEmoji => joinEmoji? c
  | joinedKeycap => none
  | joinedRegional => pairRegional? c (-1) joinedEven
  | joinedEven => (pairRegional? c 3 joinedOdd).or (tieEmoji? c)
  | joinedOdd => (pairRegional? c (-1) joinedEven).or (tieEmoji? c)
  | joinedTags letters digits => joinTags? c letters digits
  | alef =>
    if lams.contains c then some (0, plain)
    else if isJoinTransparent c then some (0, alef)
    else none
  | ligature letter tied => ligate? c letter tied
  | vowelE =>
    if c.toNat = 0x16D63 then some (0, plain)
    else if c.toNat = 0x16D67 then some (0, vowelAi)
    else if c.toNat = 0x16D68 then some (1, vowelE)
    else if c.toNat = 0x16D69 then some (0, plain)
    else none
  | vowelAi => if c.toNat = 0x16D63 then some (0, plain) else none

end Shape

end ListWindow.Text
