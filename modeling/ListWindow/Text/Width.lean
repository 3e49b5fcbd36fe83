import ListWindow.Text.Shape

/-!
The width of a text in terminal cells. Cells are added up from the end of the text to its start:
each character adds its own width unless it combines with the text behind it. Controls count one
cell, a line break of two characters counts one, and an emoji counts two whatever it is made of.
-/
namespace ListWindow.Text

/-- A curly quotation mark, which a selector can make wide. -/
def isCurlyQuote (c : Char) : Bool :=
  c = '\u2018' || c = '\u2019' || c = '\u201c' || c = '\u201d'

/-- What a text says about its width: its cells, and how it begins. -/
structure Measure where
  cells : Int
  selectors : Selectors
  shape : Shape
  deriving DecidableEq, Repr

namespace Measure

def nothing : Measure := ⟨0, .none, .plain⟩

/-- A text with more cells, another shape and no selector in front. -/
def grow (m : Measure) (cells : Int) (shape : Shape) : Measure := ⟨m.cells + cells, .none, shape⟩

/-- A selector in front of a text. Before a melting shape it joins the ones that wait there already;
before any other it takes their place. -/
def select (m : Measure) (selector : Selector) : Measure :=
  ⟨m.cells, (if m.shape.isMelting then m.selectors else .none).add selector,
    m.shape.behind selector⟩

/-- A character of the lowest block in front of a text. -/
def consLatin (c : Char) (m : Measure) : Measure :=
  if c = '\r' ∧ m.shape = .lineFeed then m.grow 0 .plain
  else m.grow 1 (if c = '\n' then .lineFeed else .plain)

/-- A character in front of a text that does not begin with a selector. -/
def consPlain (c : Char) (m : Measure) : Measure :=
  match m.shape.combine? c with
  | some (cells, shape) => m.grow cells shape
  | none => m.grow (charWidth c) (.of c)

/-- Another character than a selector in front of a text. Every selector that waits for a base
looks whether this is one. -/
def consOther (c : Char) (m : Measure) : Measure :=
  if m.selectors.text && textBases.contains c then m.grow 1 .plain
  else if m.selectors.wideQuote && isCurlyQuote c then m.grow 2 .plain
  else consPlain c m

/-- Any character in front of a text whose emoji selector, if there was one, is dealt with. -/
def consSettled (c : Char) (m : Measure) : Measure :=
  if c.toNat ≤ 0xA0 then consLatin c m
  else if c = '\ufe0f' then m.select .emoji
  else if c = '\ufe0e' then m.select .text
  else if c = '\ufe01' then m.select .wideQuote
  else consOther c m

/-- A character in front of a text. An emoji selector gives up as soon as what is before it is no
base for it. -/
def cons (c : Char) (m : Measure) : Measure :=
  if m.selectors.emoji then
    if variationBases.contains c then m.grow (if m.shape.isJoined then 0 else 2) .emoji
    else
      consSettled c
        ⟨m.cells, { m.selectors with emoji := false }, m.shape.withoutSelector⟩
  else consSettled c m

def of (cs : List Char) : Measure := cs.foldr cons nothing

end Measure

def width (cs : List Char) : Nat := (Measure.of cs).cells.toNat

end ListWindow.Text
