import ListWindow.Proofs.Painting
import ListWindow.Proofs.Rows

/-!
A painted area line by line, in exact arithmetic, for any regions of any heights. Every region
begins where those before it end (`topOf`), and the scan finds the rows that begin in the viewport,
in the order of the regions (`visibleRows_tops`). As rows are at least one line high, no two of them
are on one line; so the painted and the cleared lines are all lines of the area, each written once
(`paint_exact`).
-/
namespace ListWindow.Screen

variable {regions : List (Region Row)}

/-! ## Where regions begin -/

/-- Where a region begins: below all regions before it. -/
def topOf (regions : List (Region Row)) (n : Nat) : Rat :=
  ((regions.take n).map fun region => (regionExtent .exact region).toRat).sum

/-- A gap of finite height that is not negative, or a row at least one line high. -/
def Solid : Region Row → Prop
  | .filler _ extent => extent.isFinite = true ∧ 0 ≤ extent.toRat
  | .element _ row => 1 ≤ row.height

theorem Solid.sized {region : Region Row} (h : Solid region) : Sized region := by
  cases region with
  | filler edge extent => exact h
  | element index row => exact ⟨rfl, Nat.cast_nonneg row.height⟩

theorem topOf_zero (regions : List (Region Row)) : topOf regions 0 = 0 := rfl

theorem topOf_cons (region : Region Row) (rest : List (Region Row)) (n : Nat) :
    topOf (region :: rest) (n + 1) = (regionExtent .exact region).toRat + topOf rest n := rfl

theorem topOf_succ {n : Nat} {region : Region Row} (h : regions[n]? = some region) :
    topOf regions (n + 1) = topOf regions n + (regionExtent .exact region).toRat := by
  rw [topOf, List.take_add_one, h, List.map_append, List.sum_append, topOf]
  simp

theorem topOf_mono (hsolid : ∀ r ∈ regions, Solid r) : Monotone (topOf regions) := by
  refine monotone_nat_of_le_succ fun n => ?_
  rcases hn : regions[n]? with _ | region
  · have hlength : regions.length ≤ n := List.getElem?_eq_none_iff.1 hn
    rw [topOf, topOf, List.take_of_length_le hlength, List.take_of_length_le (by omega)]
  · rw [topOf_succ hn]
    exact le_add_of_nonneg_right (hsolid region (List.mem_of_getElem? hn)).sized.2

theorem topOf_below (hsolid : ∀ r ∈ regions, Solid r) {n m index : Nat} {row : Row}
    (hn : regions[n]? = some (.element index row)) (hlt : n < m) :
    topOf regions n + 1 ≤ topOf regions m := by
  have hheight : 1 ≤ row.height := hsolid _ (List.mem_of_getElem? hn)
  have hline : (1 : Rat) ≤ row.height := Nat.one_le_cast.2 hheight
  calc topOf regions n + 1 ≤ topOf regions n + row.height := add_le_add_right hline _
    _ = topOf regions (n + 1) := (topOf_succ hn).symm
    _ ≤ topOf regions m := topOf_mono hsolid hlt

/-! ## The rows in a viewport -/

/-- The row that a region shows in a viewport, if it begins there. -/
def rowAt? (regions : List (Region Row)) (offset : Rat) (height n : Nat) : Option PlacedRow :=
  match regions[n]? with
  | some (.element index row) =>
    if offset ≤ topOf regions n ∧ topOf regions n < offset + height then
      some ⟨⌊topOf regions n - offset⌋.toNat, index, row⟩
    else none
  | _ => none

theorem rowAt?_eq_some {offset : Rat} {height n : Nat} {p : PlacedRow} :
    rowAt? regions offset height n = some p ↔
      regions[n]? = some (.element p.index p.row) ∧
        (offset ≤ topOf regions n ∧ topOf regions n < offset + height) ∧
        ⌊topOf regions n - offset⌋.toNat = p.line := by
  obtain ⟨line, index, row⟩ := p
  rcases hn : regions[n]? with _ | (⟨edge, extent⟩ | ⟨i, r⟩)
  · simp [rowAt?, hn]
  · simp [rowAt?, hn]
  · simp only [rowAt?, hn]
    split
    · rename_i hin
      simp [hin]
      tauto
    · rename_i hout
      simp [hout]

theorem rowAt?_cons_succ (region : Region Row) (rest : List (Region Row)) (offset : Rat)
    (height n : Nat) :
    rowAt? (region :: rest) offset height (n + 1) =
      rowAt? rest (offset - (regionExtent .exact region).toRat) height n := by
  rw [rowAt?, rowAt?, List.getElem?_cons_succ, topOf_cons]
  generalize (regionExtent .exact region).toRat = extent
  generalize topOf rest n = top
  have habove : offset ≤ extent + top ↔ offset - extent ≤ top := sub_le_iff_le_add'.symm
  have hbelow : extent + top < offset + height ↔ top < offset - extent + height := by
    rw [sub_add_eq_add_sub, lt_sub_iff_add_lt']
  have hline : extent + top - offset = top - (offset - extent) := by ring
  simp only [habove, hbelow, hline]

theorem placedFrom_tops (y offset : Rat) (height : Nat) (regions : List (Region Row)) :
    (placedFrom y regions).filterMap (shown? offset (offset + height)) =
      (List.range regions.length).filterMap (rowAt? regions (offset - y) height) := by
  induction regions generalizing y with
  | nil => rfl
  | cons region rest ih =>
    have hlater : ((List.range rest.length).map Nat.succ).filterMap
        (rowAt? (region :: rest) (offset - y) height) =
        (placedFrom (y + (regionExtent .exact region).toRat) rest).filterMap
          (shown? offset (offset + height)) := by
      rw [ih, List.filterMap_map]
      apply List.filterMap_congr
      intro n _
      rw [Function.comp_apply, rowAt?_cons_succ, sub_sub]
    rw [List.length_cons, List.range_succ_eq_map, List.filterMap_cons, hlater]
    cases region with
    | filler edge extent => rfl
    | element index row =>
      have hfirst : rowAt? (.element index row :: rest) (offset - y) height 0 =
          shown? offset (offset + height) (y, index, row) := by
        have habove : offset - y ≤ 0 ↔ offset ≤ y := sub_nonpos
        have hbelow : 0 < offset - y + height ↔ y < offset + height := by
          rw [sub_add_eq_add_sub, sub_pos]
        have hline : 0 - (offset - y) = y - offset := by ring
        simp only [rowAt?, List.getElem?_cons_zero, topOf_zero, shown?, habove, hbelow, hline]
      rw [hfirst]
      rfl

/-- The rows in sight are those that begin in the viewport. -/
theorem visibleRows_tops {s : Surface Row} (hsolid : ∀ r ∈ s.regions, Solid r) {offset : Scalar}
    (ho : offset.isFinite = true) {height : Nat} (hcells : height ≤ maxCell) :
    visibleRows .exact offset height s =
      (List.range s.regions.length).filterMap (rowAt? s.regions offset.toRat height) := by
  obtain ⟨hbottom, hbottomval⟩ := bottom_exact ho height
  have hfits : (Scalar.add .exact offset (.ofNat .exact height)).toRat ≤
      offset.toRat + maxCell := by
    rw [hbottomval]
    exact add_le_add_right (Nat.cast_le.2 hcells) _
  rw [visibleRows, rowsFrom_exact ho hbottom hfits (fun r hr => (hsolid r hr).sized) rfl,
    hbottomval]
  refine (placedFrom_tops 0 offset.toRat height s.regions).trans ?_
  rw [sub_zero]

/-- A row is on the line in which it begins, and this is a line of the viewport. -/
theorem rowAt?_line {offset : Rat} {height n : Nat} {p : PlacedRow}
    (h : rowAt? regions offset height n = some p) :
    offset + p.line ≤ topOf regions n ∧ topOf regions n < offset + p.line + 1 ∧
      p.line < height := by
  obtain ⟨_, ⟨habove, hbelow⟩, hline⟩ := rowAt?_eq_some.1 h
  have hfloor : (⌊topOf regions n - offset⌋ : Int) = p.line := by
    rw [← hline, Int.toNat_of_nonneg (Int.floor_nonneg.2 (sub_nonneg.2 habove))]
  obtain ⟨hlower, hupper⟩ := Int.floor_eq_iff.1 hfloor
  rw [Int.cast_natCast] at hlower hupper
  refine ⟨by linarith, by linarith, ?_⟩
  have hcells : (p.line : Rat) < height := by linarith
  exact Nat.cast_lt.1 hcells

theorem rowAt?_of_line {offset : Rat} {height n k index : Nat} {row : Row} (hk : k < height)
    (hn : regions[n]? = some (.element index row)) (habove : offset + k ≤ topOf regions n)
    (hbelow : topOf regions n < offset + k + 1) :
    rowAt? regions offset height n = some ⟨k, index, row⟩ := by
  have hline : (k : Rat) + 1 ≤ height := by exact_mod_cast hk
  have hfloor : ⌊topOf regions n - offset⌋ = (k : Int) := by
    rw [Int.floor_eq_iff, Int.cast_natCast]
    constructor
    · linarith
    · linarith
  have hnonneg : (0 : Rat) ≤ k := Nat.cast_nonneg k
  refine rowAt?_eq_some.2 ⟨hn, ⟨by linarith, by linarith⟩, ?_⟩
  rw [hfloor, Int.toNat_natCast]

theorem visibleRows_pairwise {s : Surface Row} (hsolid : ∀ r ∈ s.regions, Solid r)
    {offset : Scalar} (ho : offset.isFinite = true) {height : Nat} (hcells : height ≤ maxCell) :
    (visibleRows .exact offset height s).Pairwise fun p q => p.line < q.line := by
  rw [visibleRows_tops hsolid ho hcells, List.pairwise_filterMap]
  refine List.pairwise_lt_range.imp ?_
  intro n m hlt p hp q hq
  obtain ⟨hn, _⟩ := rowAt?_eq_some.1 hp
  obtain ⟨hlower, _⟩ := rowAt?_line hp
  obtain ⟨_, hupper, _⟩ := rowAt?_line hq
  have hbelow := topOf_below hsolid hn hlt
  have hlines : (p.line : Rat) < q.line := by linarith
  exact Nat.cast_lt.1 hlines

/-! ## Every line of an area -/

/-- A frame writes one text at a place and no other text there: it moves there, gives the commands,
and writes it with the pen, whatever pen was in force before the frame. -/
structure Writes (frame : Frame) (x y : Nat) (commands : Frame) (pen : Pen) (text : String) :
    Prop where
  segment : .moveTo x y :: (commands ++ [.text text]) <:+: frame
  print : ∀ before : Pen,
    (Reading.read { pen := before } frame).prints.filter (·.place == some (x, y)) =
      [⟨some (x, y), pen, text⟩]

/-- A row begins in a line of the viewport. -/
def Begins (regions : List (Region Row)) (offset : Rat) (k n index : Nat) (row : Row) : Prop :=
  regions[n]? = some (.element index row) ∧
    offset + k ≤ topOf regions n ∧ topOf regions n < offset + k + 1

/-- What a frame is that paints an area and nothing else. -/
structure Paints (regions : List (Region Row)) (offset : Rat) (area : Rect) (frame : Frame) :
    Prop where
  /-- The cursor is moved to the start of every line of the area once, and nowhere else. -/
  moves : ∀ before : Pen, (Reading.read { pen := before } frame).moves.Perm
    ((List.range area.height).map fun k => (area.x, area.y + k))
  /-- A text is written after each move, and no text anywhere else. -/
  prints : ∀ before : Pen, (Reading.read { pen := before } frame).prints.map Print.place =
    (Reading.read { pen := before } frame).moves.map some
  /-- All other commands are those of styles. -/
  others : ∀ before : Pen, (Reading.read { pen := before } frame).others = []
  /-- A line in which a row begins has that row, and there is no second one. -/
  rows : ∀ k < area.height, ∀ n index row, Begins regions offset k n index row →
    Writes frame area.x (area.y + k) row.style.commands row.style.pen
        (Text.fit row.text area.width) ∧
      ∀ m i r, Begins regions offset k m i r → m = n
  /-- Any other line is blank, in the plain style. -/
  blanks : ∀ k < area.height, (∀ n index row, ¬Begins regions offset k n index row) →
    Writes frame area.x (area.y + k) [] Style.plain.pen
      (String.ofList (List.replicate area.width ' '))

theorem Begins.unique (hsolid : ∀ r ∈ regions, Solid r) {offset : Rat} {k n m index i : Nat}
    {row r : Row} (h : Begins regions offset k n index row) (h' : Begins regions offset k m i r) :
    m = n := by
  obtain ⟨hn, hnlower, hnupper⟩ := h
  obtain ⟨hm, hmlower, hmupper⟩ := h'
  rcases Nat.lt_trichotomy m n with hlt | heq | hlt
  · have hbelow := topOf_below hsolid hm hlt
    linarith
  · exact heq
  · have hbelow := topOf_below hsolid hn hlt
    linarith

/-- Of texts at different places, one is at the place of each. -/
theorem prints_at {texts : List ((Nat × Nat) × Pen × String)} (hnd : (texts.map (·.1)).Nodup)
    {t : (Nat × Nat) × Pen × String} (ht : t ∈ texts) :
    (texts.map fun t => (⟨some t.1, t.2.1, t.2.2⟩ : Print)).filter (·.place == some t.1) =
      [⟨some t.1, t.2.1, t.2.2⟩] := by
  have hplaces : ((texts.map fun t => (⟨some t.1, t.2.1, t.2.2⟩ : Print)).map
      Print.place).Nodup := by
    have hsome := hnd.map (Option.some_injective _)
    rwa [List.map_map] at hsome ⊢
  exact Registry.filter_key hplaces (List.mem_map_of_mem ht)

theorem mem_paintedRows {s : Surface Row} (hsolid : ∀ r ∈ s.regions, Solid r) {offset : Scalar}
    (ho : offset.isFinite = true) {height : Nat} (hcells : height ≤ maxCell) {p : PlacedRow} :
    p ∈ paintedRows .exact offset height s ↔
      ∃ n, Begins s.regions offset.toRat p.line n p.index p.row ∧ p.line < height := by
  rw [paintedRows, visibleRows_tops hsolid ho hcells, List.mem_filter, List.mem_filterMap]
  constructor
  · rintro ⟨⟨n, _, hp⟩, _⟩
    obtain ⟨hlower, hupper, hline⟩ := rowAt?_line hp
    exact ⟨n, ⟨(rowAt?_eq_some.1 hp).1, hlower, hupper⟩, hline⟩
  · rintro ⟨n, ⟨hn, hlower, hupper⟩, hline⟩
    have hindex : n < s.regions.length := (List.getElem?_eq_some_iff.1 hn).1
    exact ⟨⟨n, List.mem_range.2 hindex, rowAt?_of_line hline hn hlower hupper⟩,
      decide_eq_true hline⟩

/-- The places of all texts of an area are the starts of its lines. -/
theorem places_perm (area : Rect) {rows : List PlacedRow} (hlines : (rows.map (·.line)).Nodup)
    (hfit : ∀ p ∈ rows, p.line < area.height) :
    ((rows.map (rowPrint area) ++ (clearedLines area.height rows).map (blankPrint area)).map
      (·.1)).Perm ((List.range area.height).map fun k => (area.x, area.y + k)) := by
  have hplaces := (painted_lines hlines hfit).map fun k => (area.x, area.y + k)
  rw [List.map_append, List.map_map] at hplaces
  rw [List.map_append, List.map_map, List.map_map]
  exact hplaces

theorem nodup_starts (area : Rect) :
    ((List.range area.height).map fun k => (area.x, area.y + k)).Nodup := by
  refine List.nodup_range.map fun k l heq => ?_
  exact Nat.add_left_cancel (Prod.mk.inj heq).2

/-- An area that ends on the screen is painted. -/
theorem paint_paints {s : Surface Row} (hsolid : ∀ r ∈ s.regions, Solid r) {offset : Scalar}
    (ho : offset.isFinite = true) {area : Rect} (harea : area.y + area.height ≤ maxCell) :
    ∃ frame, paint .exact offset area s = .ok frame ∧
      Paints s.regions offset.toRat area frame := by
  have hcells : area.height ≤ maxCell := Nat.le_trans (Nat.le_add_left _ _) harea
  obtain ⟨frame, hpaint, hreads⟩ := paint_reads .exact offset harea s
  have hframe := Except.ok.inj ((paint_eq .exact offset harea s).symm.trans hpaint)
  have hsight : ∀ p, p ∈ paintedRows .exact offset area.height s ↔ _ :=
    fun _ => mem_paintedRows hsolid ho hcells
  have hlines : ((paintedRows .exact offset area.height s).map (·.line)).Nodup :=
    List.pairwise_map.2
      (((visibleRows_pairwise hsolid ho hcells).filter _).imp fun hlt => Nat.ne_of_lt hlt)
  generalize paintedRows .exact offset area.height s = rows at hreads hframe hsight hlines
  have hfit : ∀ p ∈ rows, p.line < area.height := by
    intro p hp
    obtain ⟨_, _, hline⟩ := (hsight p).1 hp
    exact hline
  have hplaces := places_perm area hlines hfit
  have hnd := hplaces.nodup_iff.2 (nodup_starts area)
  have hread : ∀ before : Pen, Reading.read { pen := before } frame = _ :=
    fun before => hreads { pen := before } rfl
  refine ⟨frame, hpaint, ?_, ?_, ?_, ?_, ?_⟩
  · intro before
    rw [hread]
    exact hplaces
  · intro before
    rw [hread, Reading.written]
    simp only [List.nil_append, List.map_map]
    rfl
  · intro before
    rw [hread]
    rfl
  · intro k hk n index row hbegins
    have hp : ⟨k, index, row⟩ ∈ rows := (hsight ⟨k, index, row⟩).2 ⟨n, hbegins, hk⟩
    refine ⟨⟨?_, fun before => ?_⟩, fun m i r hother => hbegins.unique hsolid hother⟩
    · have hsegment := List.infix_of_mem_flatten (List.mem_map_of_mem
        (f := fun p : PlacedRow => Command.moveTo area.x (area.y + p.line) ::
          (p.row.style.commands ++ [.text (Text.fit p.row.text area.width)])) hp)
      rw [← hframe]
      exact List.infix_append_of_infix_left (List.infix_append_of_infix_left hsegment)
    · rw [hread]
      exact prints_at hnd (List.mem_append_left _ (List.mem_map_of_mem hp))
  · intro k hk hnone
    have hcleared : k ∈ clearedLines area.height rows := by
      have hline := (painted_lines hlines hfit).mem_iff.2 (List.mem_range.2 hk)
      rcases List.mem_append.1 hline with hrow | hcleared
      · obtain ⟨p, hp, rfl⟩ := List.mem_map.1 hrow
        obtain ⟨n, hbegins, _⟩ := (hsight p).1 hp
        exact absurd hbegins (hnone _ _ _)
      · exact hcleared
    refine ⟨?_, fun before => ?_⟩
    · have hsegment := List.infix_of_mem_flatten (List.mem_map_of_mem
        (f := fun k : Nat => [Command.moveTo area.x (area.y + k),
          .text (String.ofList (Text.blanks area.width))]) hcleared)
      rw [← hframe]
      exact List.infix_append_of_infix_right hsegment
    · rw [hread]
      exact prints_at hnd (List.mem_append_right _ (List.mem_map_of_mem hcleared))

/-- Painting, in exact arithmetic, of gaps of any finite heights and of rows at least one line high.
The rows in sight are those that begin in the viewport, in the order of the regions and each on a
line below that of the one before. An area that ends on the screen is painted without a fault:
every line of it is written once, with the row that begins there or with blanks, and nothing else is
written. -/
theorem paint_exact {s : Surface Row} (hsolid : ∀ r ∈ s.regions, Solid r) {offset : Scalar}
    (ho : offset.isFinite = true) :
    (∀ height ≤ maxCell,
      visibleRows .exact offset height s =
        (List.range s.regions.length).filterMap (rowAt? s.regions offset.toRat height) ∧
      (visibleRows .exact offset height s).Pairwise (fun p q => p.line < q.line) ∧
      ∀ p ∈ visibleRows .exact offset height s, p.line < height) ∧
    ∀ area : Rect, area.y + area.height ≤ maxCell →
      ∃ frame, paint .exact offset area s = .ok frame ∧
        Paints s.regions offset.toRat area frame := by
  refine ⟨fun height hcells => ⟨visibleRows_tops hsolid ho hcells,
    visibleRows_pairwise hsolid ho hcells, ?_⟩, fun area harea => paint_paints hsolid ho harea⟩
  rw [visibleRows_tops hsolid ho hcells]
  intro p hp
  obtain ⟨n, _, hn⟩ := List.mem_filterMap.1 hp
  exact (rowAt?_line hn).2.2

/-- Two rows below half a line of gap, the first of them two lines high. -/
def gapped : Surface Row :=
  { regions := [.filler .leading (.rat (1 / 2)), .element 3 { text := "ab", height := 2 },
      .element 4 { text := "cd" }] }

/-- Scrolled by a quarter of a line, the rows are on the first and the third line of an area, and
its second line is blank. -/
theorem paint_exact_gapped :
    ∃ frame, paint .exact (.rat (1 / 4)) ⟨2, 5, 4, 4⟩ gapped = .ok frame ∧
      Writes frame 2 5 Style.plain.commands Style.plain.pen (Text.fit "ab" 4) ∧
      Writes frame 2 6 [] Style.plain.pen (String.ofList (List.replicate 4 ' ')) ∧
      Writes frame 2 7 Style.plain.commands Style.plain.pen (Text.fit "cd" 4) := by
  have hsolid : ∀ r ∈ gapped.regions, Solid r := by
    simp [gapped, Solid, Scalar.isFinite]
  have hfirst : topOf gapped.regions 1 = 1 / 2 := by
    norm_num [topOf, gapped, regionExtent]
  have hsecond : topOf gapped.regions 2 = 5 / 2 := by
    norm_num [topOf, gapped, regionExtent]
  have hoffset : (Scalar.rat (1 / 4)).isFinite = true := rfl
  obtain ⟨frame, hpaint, hpaints⟩ := (paint_exact hsolid hoffset).2 ⟨2, 5, 4, 4⟩ (by decide)
  refine ⟨frame, hpaint, ?_, ?_, ?_⟩
  · exact (hpaints.rows 0 (by decide) 1 3 _ ⟨rfl, by rw [hfirst]; norm_num,
      by rw [hfirst]; norm_num⟩).1
  · refine hpaints.blanks 1 (by decide) ?_
    rintro n index row ⟨hn, hlower, hupper⟩
    rcases n with _ | _ | _ | n
    · cases hn
    · rw [hfirst] at hlower
      norm_num at hlower
    · rw [hsecond] at hupper
      norm_num at hupper
    · cases hn
  · exact (hpaints.rows 2 (by decide) 2 4 _ ⟨rfl, by rw [hsecond]; norm_num,
      by rw [hsecond]; norm_num⟩).1

end ListWindow.Screen
