import ListWindow.Screen.Paint
import Mathlib.Data.List.Nodup

/-!
What a terminal makes of a frame. `Reading` keeps account of where the cursor has been moved to, in
which colours and attributes texts are written, and where they begin, whatever was in force before.
A painted area reads as its rows, each in its style at the start of its line, followed by blanks in
the plain style at the start of every other line (`paint_reads`); so every line of the area is moved
to once (`painted_lines`).
-/
namespace ListWindow.Screen

/-- The colours and attributes in force. -/
structure Pen where
  foreground : Option Rgb := none
  background : Option Rgb := none
  /-- Codes of the attributes, in the order in which they were turned on. -/
  attributes : List Nat := []
  deriving DecidableEq, Repr

/-- The pen of a style. -/
def Style.pen (s : Style) : Pen := ⟨s.foreground, s.background, s.modifiers.codes⟩

/-- A text that has been written. Its place is known when the cursor was moved there just before. -/
structure Print where
  place : Option (Nat × Nat)
  pen : Pen
  text : String
  deriving DecidableEq, Repr

/-- How far a frame has been read. -/
structure Reading where
  /-- Where the cursor is, if no text was written since it was moved. -/
  place : Option (Nat × Nat) := none
  pen : Pen := {}
  moves : List (Nat × Nat) := []
  prints : List Print := []
  /-- Commands that neither move nor write. -/
  others : List Command := []

namespace Reading

def next (r : Reading) : Command → Reading
  | .text content =>
    { r with place := none, prints := r.prints ++ [⟨r.place, r.pen, content⟩] }
  | .moveTo x y => { r with place := some (x, y), moves := r.moves ++ [(x, y)] }
  | .foreground colour => { r with pen := { r.pen with foreground := some colour } }
  | .background colour => { r with pen := { r.pen with background := some colour } }
  | .turnOn code => { r with pen := { r.pen with attributes := r.pen.attributes ++ [code] } }
  | .resetAttributes => { r with pen := {} }
  | .hideCursor => { r with others := r.others ++ [.hideCursor] }
  | .showCursor => { r with others := r.others ++ [.showCursor] }
  | .clearLine => { r with others := r.others ++ [.clearLine] }
  | .clearScreen => { r with others := r.others ++ [.clearScreen] }

def read (r : Reading) (frame : Frame) : Reading := frame.foldl next r

/-- What is read after texts have been written, each at a place that the cursor was moved to. -/
def written (r : Reading) (texts : List ((Nat × Nat) × Pen × String)) (pen : Pen) : Reading :=
  { r with
    place := none
    pen
    moves := r.moves ++ texts.map (·.1)
    prints := r.prints ++ texts.map fun t => ⟨some t.1, t.2.1, t.2.2⟩ }

variable {r : Reading}

theorem read_append (r : Reading) (f g : Frame) : r.read (f ++ g) = (r.read f).read g :=
  List.foldl_append

theorem written_nil (h : r.place = none) (pen : Pen) : r.written [] pen = { r with pen } := by
  simp [written, h]

theorem written_append (r : Reading) (texts texts' : List ((Nat × Nat) × Pen × String))
    (pen pen' : Pen) :
    (r.written texts pen).written texts' pen' = r.written (texts ++ texts') pen' := by
  simp [written]

theorem read_turnOn (codes : List Nat) (r : Reading) :
    r.read (codes.map Command.turnOn) =
      { r with pen := { r.pen with attributes := r.pen.attributes ++ codes } } := by
  induction codes generalizing r with
  | nil => simp [read]
  | cons code codes ih =>
    rw [List.map_cons, read, List.foldl_cons]
    refine (ih _).trans ?_
    simp [next]

/-- The commands of a style put its pen in force, and nothing of the one before remains. -/
theorem read_style (r : Reading) (s : Style) : r.read s.commands = { r with pen := s.pen } := by
  rw [Style.commands, read_append, read_append]
  have hcodes : r.read (.resetAttributes :: s.modifiers.codes.map Command.turnOn) =
      { r with pen := { attributes := s.modifiers.codes } } :=
    (read_turnOn s.modifiers.codes (r.next .resetAttributes)).trans (by simp [next])
  rw [hcodes, Style.pen]
  rcases s.foreground with _ | foreground
  · rcases s.background with _ | background
    · rfl
    · rfl
  · rcases s.background with _ | background
    · rfl
    · rfl

theorem read_line (r : Reading) (x y : Nat) (s : Style) (text : String) :
    r.read (.moveTo x y :: (s.commands ++ [.text text])) =
      r.written [((x, y), s.pen, text)] s.pen := by
  show (r.next (.moveTo x y)).read (s.commands ++ [.text text]) = _
  rw [read_append, read_style]
  rfl

theorem read_bare (r : Reading) (x y : Nat) (text : String) :
    r.read [.moveTo x y, .text text] = r.written [((x, y), r.pen, text)] r.pen := rfl

/-- Segments that each write one text in a pen of its own, provided that the pen before is good. -/
theorem read_segments {α : Type} (segment : α → Frame) (text : α → (Nat × Nat) × Pen × String)
    (Good : Pen → Prop)
    (hsegment : ∀ (r : Reading) x, Good r.pen →
      r.read (segment x) = r.written [text x] (text x).2.1)
    (hgood : ∀ x, Good (text x).2.1) (xs : List α) (hplace : r.place = none) (hpen : Good r.pen) :
    ∃ pen, Good pen ∧ r.read (xs.map segment).flatten = r.written (xs.map text) pen := by
  induction xs generalizing r with
  | nil => exact ⟨r.pen, hpen, (written_nil hplace r.pen).symm⟩
  | cons x xs ih =>
    obtain ⟨pen, hpen', hrest⟩ := ih (r := r.written [text x] (text x).2.1) rfl (hgood x)
    refine ⟨pen, hpen', ?_⟩
    rw [List.map_cons, List.flatten_cons, read_append, hsegment r x hpen, hrest, written_append]
    rfl

end Reading

/-! ## A painted area -/

/-- The rows that are painted in an area of the given height. -/
def paintedRows (a : Arithmetic) (offset : Scalar) (height : Nat) (s : Surface Row) :
    List PlacedRow :=
  (visibleRows a offset height s).filter (·.line < height)

/-- The lines of an area that no row is on. -/
def clearedLines (height : Nat) (rows : List PlacedRow) : List Nat :=
  (List.range height).filter fun k => !rows.any (·.line == k)

variable {area : Rect}

theorem writeLines_eq {α : Type} (line : α → Nat) (commands : α → Frame)
    (harea : area.y + area.height ≤ maxCell) {xs : List α}
    (hline : ∀ x ∈ xs, line x < area.height) :
    (xs.mapM fun x => writeLine area (line x) (commands x)) =
      .ok (xs.map fun x => .moveTo area.x (area.y + line x) :: commands x) := by
  induction xs with
  | nil => rfl
  | cons x xs ih =>
    have hrest := ih fun x' hx' => hline x' (List.mem_cons_of_mem _ hx')
    have hfits : area.y + line x ≤ maxCell := by
      have hfirst := hline x List.mem_cons_self
      omega
    rw [List.mapM_cons, hrest, writeLine, checkedAdd, if_pos hfits]
    rfl

/-- An area that fits the screen is painted: its rows in their styles, then its other lines in the
plain one. -/
theorem paint_eq (a : Arithmetic) (offset : Scalar) (harea : area.y + area.height ≤ maxCell)
    (s : Surface Row) :
    paint a offset area s = .ok
      (((paintedRows a offset area.height s).map fun p => .moveTo area.x (area.y + p.line) ::
          (p.row.style.commands ++ [.text (Text.fit p.row.text area.width)])).flatten ++
        Style.plain.commands ++
        ((clearedLines area.height (paintedRows a offset area.height s)).map fun k =>
          [.moveTo area.x (area.y + k),
            .text (String.ofList (Text.blanks area.width))]).flatten) := by
  have hrows : ∀ p ∈ paintedRows a offset area.height s, p.line < area.height := fun p hp =>
    of_decide_eq_true (List.mem_filter.1 hp).2
  have hcleared : ∀ k ∈ clearedLines area.height (paintedRows a offset area.height s),
      k < area.height := fun k hk => List.mem_range.1 (List.mem_filter.1 hk).1
  have hpainted := writeLines_eq PlacedRow.line
    (fun p => p.row.style.commands ++ [.text (Text.fit p.row.text area.width)]) harea hrows
  have hblanks := writeLines_eq (fun k : Nat => k)
    (fun _ => [.text (String.ofList (Text.blanks area.width))]) harea hcleared
  rw [paintedRows] at hpainted hblanks
  rw [clearedLines] at hblanks
  rw [paint]
  simp only [hpainted, hblanks]
  rfl

def rowPrint (area : Rect) (p : PlacedRow) : (Nat × Nat) × Pen × String :=
  ((area.x, area.y + p.line), p.row.style.pen, Text.fit p.row.text area.width)

def blankPrint (area : Rect) (k : Nat) : (Nat × Nat) × Pen × String :=
  ((area.x, area.y + k), Style.plain.pen, String.ofList (Text.blanks area.width))

/-- A painted area reads as its rows, and then blanks on all other lines. -/
theorem paint_reads (a : Arithmetic) (offset : Scalar) (harea : area.y + area.height ≤ maxCell)
    (s : Surface Row) :
    ∃ frame, paint a offset area s = .ok frame ∧ ∀ r : Reading, r.place = none →
      r.read frame =
        r.written ((paintedRows a offset area.height s).map (rowPrint area) ++
          (clearedLines area.height (paintedRows a offset area.height s)).map (blankPrint area))
          Style.plain.pen := by
  refine ⟨_, paint_eq a offset harea s, ?_⟩
  intro r hplace
  obtain ⟨pen, _, hrows⟩ := Reading.read_segments _ (rowPrint area) (fun _ => True)
    (fun r p _ => r.read_line area.x (area.y + p.line) p.row.style _) (fun _ => trivial)
    (paintedRows a offset area.height s) hplace trivial
  obtain ⟨pen', hpen', hblanks⟩ := Reading.read_segments
    (r := { r.written ((paintedRows a offset area.height s).map (rowPrint area)) pen with
      pen := Style.plain.pen })
    (fun k => [.moveTo area.x (area.y + k), .text (String.ofList (Text.blanks area.width))])
    (blankPrint area) (· = Style.plain.pen)
    (fun r k hpen => by
      rw [Reading.read_bare, hpen]
      rfl)
    (fun _ => rfl) (clearedLines area.height (paintedRows a offset area.height s)) rfl rfl
  rw [Reading.read_append, Reading.read_append, hrows, Reading.read_style, hblanks, hpen',
    ← Reading.written_append]
  rfl

/-- Rows on lines of their own and the cleared lines are all lines of an area. -/
theorem painted_lines {height : Nat} {rows : List PlacedRow} (hlines : (rows.map (·.line)).Nodup)
    (hfit : ∀ p ∈ rows, p.line < height) :
    (rows.map (·.line) ++ clearedLines height rows).Perm (List.range height) := by
  have hcleared : ∀ k, k ∈ clearedLines height rows ↔ k < height ∧ k ∉ rows.map (·.line) := by
    intro k
    simp [clearedLines, List.mem_filter]
  refine (List.perm_ext_iff_of_nodup ?_ List.nodup_range).2 fun k => ?_
  · refine List.Nodup.append hlines (List.nodup_range.filter _) ?_
    intro k hk hk'
    exact ((hcleared k).1 hk').2 hk
  · rw [List.mem_append, hcleared, List.mem_range]
    constructor
    · rintro (hk | hk)
      · obtain ⟨p, hp, rfl⟩ := List.mem_map.1 hk
        exact hfit p hp
      · exact hk.1
    · intro hk
      by_cases hrow : k ∈ rows.map (·.line)
      · exact .inl hrow
      · exact .inr ⟨hk, hrow⟩

end ListWindow.Screen
