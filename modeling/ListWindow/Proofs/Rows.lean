import ListWindow.Proofs.Exact
import ListWindow.Proofs.Invariant
import ListWindow.Screen.Paint

/-!
The rows that a surface shows, in exact arithmetic. `placedFrom` says where every row of a list of
regions begins, and `rowsFrom_exact` that the rows shown are those that begin in the viewport: the
scan may stop early because no region has a negative height. Rows of one height that stand for
consecutive indices begin at the multiples of that height (`placedFrom_rows`), so it is enough that
no index outside them is in sight for the surface to show the same as all rows together
(`visibleRows_eq`).
-/
namespace ListWindow.Screen

variable {α : Type}

/-- Where the rows of some regions begin, with their indices; the first region begins at `y`. -/
def placedFrom : Rat → List (Region Row) → List (Rat × Nat × Row)
  | _, [] => []
  | y, .filler _ extent :: rest => placedFrom (y + extent.toRat) rest
  | y, .element index row :: rest => (y, index, row) :: placedFrom (y + row.height) rest

/-- A row that begins in the viewport, with its line there. -/
def shown? (offset bottom : Rat) (r : Rat × Nat × Row) : Option PlacedRow :=
  if offset ≤ r.1 ∧ r.1 < bottom then some ⟨⌊r.1 - offset⌋.toNat, r.2.1, r.2.2⟩ else none

/-- A region with a finite height that is not negative. -/
def Sized (region : Region Row) : Prop :=
  (regionExtent .exact region).isFinite = true ∧ 0 ≤ (regionExtent .exact region).toRat

theorem lineOf?_exact {offset y : Scalar} (ho : offset.isFinite = true) (hy : y.isFinite = true) :
    lineOf? .exact offset y =
      if offset.toRat ≤ y.toRat then some (min ⌊y.toRat - offset.toRat⌋.toNat maxCell)
      else none := by
  obtain ⟨hsub, hsubval⟩ := Scalar.sub_exact hy ho
  obtain ⟨hfloor, hfloorval⟩ := Scalar.floor_finite hsub
  obtain ⟨hnext, hnextval⟩ := Scalar.add_exact (y := 1) hy rfl
  rw [hsubval] at hfloorval
  have hbegins : (0 : Scalar) ≤ (Scalar.sub .exact y offset).floor ↔ offset.toRat ≤ y.toRat := by
    rw [Scalar.le_iff Scalar.finite_zero hfloor, hfloorval]
    show ((0 : Rat) ≤ _) ↔ _
    rw [Int.cast_nonneg_iff, Int.floor_nonneg, sub_nonneg]
  have hends : offset.toRat ≤ y.toRat → offset < Scalar.add .exact y 1 := by
    intro hle
    rw [Scalar.lt_iff ho hnext, hnextval]
    exact lt_of_le_of_lt hle (lt_add_one _)
  rw [lineOf?]
  by_cases hle : offset.toRat ≤ y.toRat
  · rw [if_pos ⟨hends hle, hbegins.2 hle⟩, if_pos hle, Scalar.toNat_finite maxCell hfloor,
      hfloorval, Int.floor_intCast]
  · rw [if_neg fun hboth => hle (hbegins.1 hboth.2), if_neg hle]

theorem placedFrom_ge {regions : List (Region Row)} (hsized : ∀ r ∈ regions, Sized r) {y : Rat}
    {p : Rat × Nat × Row} (hp : p ∈ placedFrom y regions) : y ≤ p.1 := by
  induction regions generalizing y with
  | nil => cases hp
  | cons region rest ih =>
    have hrest : ∀ r ∈ rest, Sized r := fun r hr => hsized r (List.mem_cons_of_mem _ hr)
    have hfirst : 0 ≤ (regionExtent .exact region).toRat := (hsized region List.mem_cons_self).2
    cases region with
    | filler edge extent =>
      calc y ≤ y + extent.toRat := le_add_of_nonneg_right hfirst
        _ ≤ p.1 := ih hrest hp
    | element index row =>
      rcases List.mem_cons.1 hp with rfl | hp
      · exact le_refl _
      · calc y ≤ y + row.height := le_add_of_nonneg_right hfirst
          _ ≤ p.1 := ih hrest hp

/-- The scan finds the rows that begin in the viewport, and stops where no further one does. -/
theorem rowsFrom_exact {offset bottom : Scalar} (ho : offset.isFinite = true)
    (hb : bottom.isFinite = true) (hcells : bottom.toRat ≤ offset.toRat + maxCell)
    {regions : List (Region Row)} (hsized : ∀ r ∈ regions, Sized r) {y : Scalar}
    (hy : y.isFinite = true) :
    rowsFrom .exact offset bottom y regions =
      (placedFrom y.toRat regions).filterMap (shown? offset.toRat bottom.toRat) := by
  induction regions generalizing y with
  | nil => rfl
  | cons region rest ih =>
    have hrest : ∀ r ∈ rest, Sized r := fun r hr => hsized r (List.mem_cons_of_mem _ hr)
    have hregion := hsized region List.mem_cons_self
    by_cases hpast : bottom ≤ y
    · -- the scan stops, and what is left begins no higher
      have hnone : (placedFrom y.toRat (region :: rest)).filterMap
          (shown? offset.toRat bottom.toRat) = [] := by
        rw [List.filterMap_eq_nil_iff]
        intro p hp
        have hle := (Scalar.le_iff hb hy).1 hpast
        have hge := placedFrom_ge hsized hp
        exact if_neg fun hboth => absurd hboth.2 (not_lt.2 (le_trans hle hge))
      rw [rowsFrom, if_pos hpast, hnone]
    · obtain ⟨hnext, hnextval⟩ := Scalar.add_exact hy hregion.1
      have hlater := ih hrest hnext
      rw [hnextval] at hlater
      rw [rowsFrom, if_neg hpast]
      dsimp only
      rw [hlater]
      cases region with
      | filler edge extent => rfl
      | element index row =>
        have hlt : y.toRat < bottom.toRat := not_le.1 (mt (Scalar.le_iff hb hy).2 hpast)
        rw [placedFrom, List.filterMap_cons, lineOf?_exact ho hy, shown?]
        by_cases hle : offset.toRat ≤ y.toRat
        · -- the line fits a cell, because the viewport does
          have hline : ⌊y.toRat - offset.toRat⌋.toNat ≤ maxCell := by
            have hcell : ((⌊y.toRat - offset.toRat⌋ : Int) : Rat) ≤ ((maxCell : Int) : Rat) :=
              calc ((⌊y.toRat - offset.toRat⌋ : Int) : Rat)
                  ≤ y.toRat - offset.toRat := Int.floor_le _
                _ ≤ bottom.toRat - offset.toRat := sub_le_sub_right hlt.le _
                _ ≤ maxCell := sub_le_iff_le_add'.2 hcells
            exact Int.toNat_le.2 (Int.cast_le.1 hcell)
          rw [if_pos hle, if_pos ⟨hle, hlt⟩, Nat.min_eq_left hline]
          rfl
        · rw [if_neg hle, if_neg fun hboth => hle hboth.1]
          rfl

/-! ## Rows of one height -/

theorem placedFrom_rows {h first : Nat} {entries : List (Rendered Row)}
    (hindices : entries.map (·.index) = List.range' first entries.length)
    (hheight : ∀ e ∈ entries, e.element.height = h) (rest : List (Region Row)) :
    placedFrom (first * h) (entries.map (fun e => .element e.index e.element) ++ rest) =
      entries.map (fun e => ((e.index * h : Rat), e.index, e.element)) ++
        placedFrom ((first + entries.length : Nat) * h) rest := by
  induction entries generalizing first with
  | nil => rfl
  | cons e entries ih =>
    simp only [List.map_cons, List.length_cons, List.range'_succ, List.cons.injEq] at hindices
    obtain ⟨hindex, hindices⟩ := hindices
    have hrest := ih hindices fun e he => hheight e (List.mem_cons_of_mem _ he)
    -- one row further the next index begins
    have hnext : (first * h + e.element.height : Rat) = (first + 1 : Nat) * h := by
      rw [hheight e List.mem_cons_self]
      push_cast
      ring
    have hlength : first + 1 + entries.length = first + (entries.length + 1) := by omega
    rw [List.map_cons, List.cons_append, placedFrom, hnext, hrest, hlength, List.map_cons,
      List.cons_append, hindex, List.length_cons]

/-- The rows in sight when every item has one: row `i` begins at `i * h`. -/
def rowsInSight (offset : Rat) (height h : Nat) (items : Array α) (f : α → Nat → Row) :
    List PlacedRow :=
  (List.range items.size).filterMap fun (i : Nat) =>
    if offset ≤ i * h ∧ (i * h : Rat) < offset + height then
      items[i]?.map fun item => ⟨⌊i * h - offset⌋.toNat, i, f item i⟩
    else none

/-- A surface with one row for every item and no gaps. -/
def fullSurface (items : Array α) (f : α → Nat → Row) : Surface Row :=
  { regions := (List.range items.size).filterMap fun (i : Nat) =>
      items[i]?.map fun item => .element i (f item i) }

theorem filterMap_range {β : Type} {g : Nat → Option β} {first n count : Nat}
    (hfits : first + n ≤ count)
    (hnone : ∀ i < count, i ∉ List.range' first n → g i = none) :
    (List.range count).filterMap g = (List.range' first n).filterMap g := by
  have hsplit : List.range count =
      List.range' 0 first ++
        (List.range' first n ++ List.range' (first + n) (count - (first + n))) := by
    have hinner : n + (count - (first + n)) = count - first := by omega
    have houter : first + (count - first) = count := by omega
    have hstart := List.range'_append_1 (s := 0) (m := first) (n := count - first)
    rw [Nat.zero_add, houter] at hstart
    rw [List.range_eq_range', List.range'_append_1, hinner, hstart]
  have houtside : ∀ l : List Nat, (∀ i ∈ l, i < count ∧ i ∉ List.range' first n) →
      l.filterMap g = [] := fun l hl =>
    List.filterMap_eq_nil_iff.2 fun i hi => hnone i (hl i hi).1 (hl i hi).2
  have hbefore : (List.range' 0 first).filterMap g = [] := by
    apply houtside
    intro i hi
    rw [List.mem_range'_1] at hi ⊢
    omega
  have hafter : (List.range' (first + n) (count - (first + n))).filterMap g = [] := by
    apply houtside
    intro i hi
    rw [List.mem_range'_1] at hi ⊢
    omega
  rw [hsplit, List.filterMap_append, List.filterMap_append, hbefore, hafter, List.nil_append,
    List.append_nil]

/-- Entries that show the items of consecutive indices show all rows in sight when no other index
is. -/
theorem shown_entries {h first : Nat} {offset : Rat} {height : Nat} {items : Array α}
    {f : α → Nat → Row} {entries : List (Rendered Row)}
    (hindices : entries.map (·.index) = List.range' first entries.length)
    (hfits : first + entries.length ≤ items.size)
    (hfresh : ∀ e ∈ entries, ∃ item, items[e.index]? = some item ∧ e.element = f item e.index)
    (hcover : ∀ i < items.size, offset ≤ i * h → (i * h : Rat) < offset + height →
      i ∈ List.range' first entries.length) :
    (entries.map fun e => ((e.index * h : Rat), e.index, e.element)).filterMap
        (shown? offset (offset + height)) = rowsInSight offset height h items f := by
  rw [rowsInSight, filterMap_range hfits, ← hindices, List.filterMap_map, List.filterMap_map]
  · apply List.filterMap_congr
    intro e he
    obtain ⟨item, hitem, hrow⟩ := hfresh e he
    simp only [Function.comp_apply, shown?, hitem, hrow, Option.map_some]
  · intro i hi hout
    rw [if_neg]
    rintro ⟨habove, hbelow⟩
    exact hout (hcover i hi habove hbelow)

/-! ## Spacers -/

/-- Where a range begins; an empty one begins anywhere. -/
def start (r : IndexRange) : Nat := r.first?.getD 0

theorem indices_start (r : IndexRange) :
    r.indices = List.range' (start r) r.indices.length := by
  cases r with
  | empty => rfl
  | span first last =>
    show List.range' first (last + 1 - first) = List.range' first (List.range' first _).length
    rw [List.length_range']

theorem start_fits {r : IndexRange} {count : Nat} (h : r.Within count) :
    start r + r.indices.length ≤ count := by
  cases r with
  | empty => exact Nat.zero_le _
  | span first last =>
    obtain ⟨hfirst, hlast⟩ := h
    show first + (List.range' first (last + 1 - first)).length ≤ count
    rw [List.length_range']
    omega

theorem leading_exact (count h : Nat) (r : IndexRange) :
    (Spacers.around .exact count (.rat h) r).leading.isFinite = true ∧
      (Spacers.around .exact count (.rat h) r).leading.toRat = start r * h := by
  cases r with
  | empty =>
    refine ⟨rfl, ?_⟩
    show (0 : Rat) = (0 : Nat) * h
    rw [Nat.cast_zero, zero_mul]
  | span first last => exact Scalar.multiple_exact first (Nat.cast_nonneg h)

theorem trailing_finite (count h : Nat) (r : IndexRange) :
    (Spacers.around .exact count (.rat h) r).trailing.isFinite = true := by
  cases r with
  | empty => rfl
  | span first last => exact (Scalar.multiple_exact _ (Nat.cast_nonneg h)).1

theorem spacer_sized {x : Scalar} (hx : x.isFinite = true) {edge : Edge} {region : Region Row}
    (h : region ∈ Spacers.region edge (Spacers.filler? x)) : Sized region := by
  by_cases hpos : (0 : Scalar) < x
  · rw [Spacers.filler?, if_pos hpos] at h
    rw [List.mem_singleton.1 h]
    exact ⟨hx, le_of_lt ((Scalar.lt_iff Scalar.finite_zero hx).1 hpos)⟩
  · rw [Spacers.filler?, if_neg hpos] at h
    cases h

theorem placedFrom_spacer {x : Scalar} (hx : x.isFinite = true) (hnonneg : 0 ≤ x.toRat)
    (edge : Edge) (y : Rat) (rest : List (Region Row)) :
    placedFrom y (Spacers.region edge (Spacers.filler? x) ++ rest) =
      placedFrom (y + x.toRat) rest := by
  by_cases hpos : (0 : Scalar) < x
  · rw [Spacers.filler?, if_pos hpos]
    rfl
  · have hzero : x.toRat = 0 :=
      le_antisymm (not_lt.1 (mt (Scalar.lt_iff Scalar.finite_zero hx).2 hpos)) hnonneg
    rw [Spacers.filler?, if_neg hpos, hzero, add_zero]
    rfl

/-! ## The surface of a window -/

variable {h height : Nat} {f : α → Nat → Row} {offset : Scalar}

theorem bottom_exact (ho : offset.isFinite = true) (height : Nat) :
    (Scalar.add .exact offset (.ofNat .exact height)).isFinite = true ∧
      (Scalar.add .exact offset (.ofNat .exact height)).toRat = offset.toRat + height :=
  Scalar.add_exact ho rfl

/-- A surface with entries of one height for a stretch of indices, behind a spacer for those before,
shows the entries that begin in the viewport. -/
theorem visibleRows_placed {first : Nat} {entries : List (Rendered Row)}
    (hindices : entries.map (·.index) = List.range' first entries.length)
    (hrows : ∀ e ∈ entries, e.element.height = h) (ho : offset.isFinite = true)
    (hcells : height ≤ maxCell) {leading trailing : Scalar} (hleading : leading.isFinite = true)
    (hleadingval : leading.toRat = first * h) (htrailing : trailing.isFinite = true)
    {surface : Surface Row}
    (hdrawn : surface.regions = Spacers.region .leading (Spacers.filler? leading)
      ++ entries.map (fun e => .element e.index e.element)
      ++ Spacers.region .trailing (Spacers.filler? trailing)) :
    visibleRows .exact offset height surface =
      (entries.map fun e => ((e.index * h : Rat), e.index, e.element)).filterMap
        (shown? offset.toRat (offset.toRat + height)) := by
  obtain ⟨hbottom, hbottomval⟩ := bottom_exact ho height
  have hsized : ∀ r ∈ surface.regions, Sized r := by
    intro r hr
    rw [hdrawn, List.mem_append, List.mem_append] at hr
    rcases hr with (hr | hr) | hr
    · exact spacer_sized hleading hr
    · obtain ⟨e, _, rfl⟩ := List.mem_map.1 hr
      exact ⟨rfl, Nat.cast_nonneg e.element.height⟩
    · exact spacer_sized htrailing hr
  -- the trailing spacer places nothing
  have hpast : placedFrom ((first + entries.length : Nat) * h)
      (Spacers.region .trailing (Spacers.filler? trailing)) = [] := by
    by_cases hpos : (0 : Scalar) < trailing
    · rw [Spacers.filler?, if_pos hpos]
      rfl
    · rw [Spacers.filler?, if_neg hpos]
      rfl
  have hnonneg : 0 ≤ leading.toRat := by
    rw [hleadingval]
    exact mul_nonneg (Nat.cast_nonneg first) (Nat.cast_nonneg h)
  have hcells' : (Scalar.add .exact offset (.ofNat .exact height)).toRat
      ≤ offset.toRat + maxCell := by
    rw [hbottomval]
    exact add_le_add_right (Nat.cast_le.2 hcells) _
  rw [visibleRows, rowsFrom_exact ho hbottom hcells' hsized Scalar.finite_zero, hbottomval, hdrawn,
    List.append_assoc, placedFrom_spacer hleading hnonneg, hleadingval]
  show (placedFrom (0 + first * h) _).filterMap _ = _
  rw [zero_add, placedFrom_rows hindices hrows, hpast, List.append_nil]

theorem entries_stretch {a : Arithmetic} {w : Window α Row} (hs : w.Consistent a) :
    w.registry.entries.map (·.index) =
        List.range' (start w.range) w.registry.entries.length ∧
      w.registry.entries.length = w.range.indices.length := by
  have hkeys : w.registry.entries.map (·.index) = w.range.indices := hs.keys
  have hlength : w.registry.entries.length = w.range.indices.length := by
    rw [← hkeys, List.length_map]
  exact ⟨by rw [hkeys, hlength, ← indices_start], hlength⟩

/-- A window shows the rows of its registry that begin in the viewport. -/
theorem visibleRows_registry {w : Window α Row} (hs : w.Consistent .exact)
    (hextent : w.itemExtent = .rat h) (hrows : ∀ e ∈ w.registry.entries, e.element.height = h)
    (ho : offset.isFinite = true) (hcells : height ≤ maxCell) :
    visibleRows .exact offset height w.surface =
      (w.registry.entries.map fun e => ((e.index * h : Rat), e.index, e.element)).filterMap
        (shown? offset.toRat (offset.toRat + height)) := by
  have hspacers := hs.spacers
  rw [hextent] at hspacers
  obtain ⟨hleading, hleadingval⟩ := leading_exact w.items.size h w.range
  have htrailing := trailing_finite w.items.size h w.range
  rw [← hspacers] at hleading hleadingval htrailing
  exact visibleRows_placed (entries_stretch hs).1 hrows ho hcells hleading hleadingval htrailing
    (hs.drawn.trans hs.regions_eq)

theorem visibleRows_window {w : Window α Row} (hs : w.Consistent .exact)
    (hextent : w.itemExtent = .rat h) (hheight : ∀ item i, (f item i).height = h)
    (hfresh : w.Fresh id f) (ho : offset.isFinite = true) (hcells : height ≤ maxCell)
    (hcover : ∀ i < w.items.size, offset.toRat ≤ i * h → (i * h : Rat) < offset.toRat + height →
      w.range.contains i = true) :
    visibleRows .exact offset height w.surface = rowsInSight offset.toRat height h w.items f := by
  obtain ⟨hindices, hlength⟩ := entries_stretch hs
  have hrows : ∀ e ∈ w.registry.entries, e.element.height = h := by
    intro e he
    obtain ⟨item, _, hrow⟩ := hfresh e he
    exact (congrArg Row.height hrow).trans (hheight item e.index)
  refine (visibleRows_registry hs hextent hrows ho hcells).trans
    (shown_entries hindices ?_ hfresh ?_)
  · rw [hlength]
    exact start_fits hs.range
  · intro i hi habove hbelow
    rw [hlength, ← indices_start, IndexRange.mem_indices]
    exact hcover i hi habove hbelow

theorem visibleRows_full (hheight : ∀ item i, (f item i).height = h) (ho : offset.isFinite = true)
    (hcells : height ≤ maxCell) (items : Array α) :
    visibleRows .exact offset height (fullSurface items f) =
      rowsInSight offset.toRat height h items f := by
  let entries : List (Rendered Row) := (List.range items.size).filterMap fun (i : Nat) =>
    items[i]?.map fun item => ⟨i, f item i⟩
  have hindices : entries.map (·.index) = List.range items.size := by
    have hself : ∀ i ∈ List.range items.size,
        (items[i]?.map fun item => (⟨i, f item i⟩ : Rendered Row)).map (·.index) = some i := by
      intro i hi
      rw [Array.getElem?_eq_getElem (List.mem_range.1 hi)]
      rfl
    rw [List.map_filterMap, List.filterMap_congr hself, List.filterMap_some]
  have hlength : entries.length = items.size := by
    rw [← List.length_map (f := (·.index)), hindices, List.length_range]
  have hfresh : ∀ e ∈ entries,
      ∃ item, items[e.index]? = some item ∧ e.element = f item e.index := by
    intro e he
    obtain ⟨i, _, hi⟩ := List.mem_filterMap.1 he
    obtain ⟨item, hitem, rfl⟩ := Option.map_eq_some_iff.1 hi
    exact ⟨item, hitem, rfl⟩
  have hdrawn : (fullSurface items f).regions = Spacers.region .leading (Spacers.filler? 0)
      ++ entries.map (fun e => .element e.index e.element)
      ++ Spacers.region .trailing (Spacers.filler? 0) := by
    show _ = [] ++ entries.map _ ++ []
    rw [List.nil_append, List.append_nil, List.map_filterMap]
    simp only [Option.map_map]
    rfl
  have hstretch : entries.map (·.index) = List.range' 0 entries.length := by
    rw [hindices, hlength, List.range_eq_range']
  have hrows : ∀ e ∈ entries, e.element.height = h := by
    intro e he
    obtain ⟨item, _, hrow⟩ := hfresh e he
    rw [hrow, hheight]
  have hzero : (0 : Scalar).toRat = (0 : Nat) * h := by
    rw [Nat.cast_zero, zero_mul]
    rfl
  refine (visibleRows_placed hstretch hrows ho hcells rfl hzero rfl hdrawn).trans
    (shown_entries hstretch (by omega) hfresh ?_)
  intro i hi _ _
  rw [hlength, ← List.range_eq_range']
  exact List.mem_range.2 hi

end ListWindow.Screen
