import ListWindow.Proofs.Content
import ListWindow.Proofs.Rows
import ListWindow.Proofs.Viewport
import ListWindow.Proofs.Whole

/-!
Whole lines in either arithmetic. A surface whose regions are whole lines high shows the rows that
it shows in exact arithmetic (`visibleRows_whole`), so a window onto items one line high shows the
rows of its registry, each on the line that is as far below the top as its index is past the offset
(`visibleRows_lines`). A viewport over so many lines stays at the start of a line, however it is
scrolled by whole lines and resized (`Viewport.AtLine`).
-/
namespace ListWindow.Screen

variable {a : Arithmetic} {bound : Nat}

/-! ## Rows -/

/-- A region of whole lines, no more than `size`. -/
def Lined (size : Nat) : Region Row → Prop
  | .filler _ extent => ∃ n : Nat, n ≤ size ∧ extent.IsWhole n
  | .element _ row => row.height ≤ size

theorem Lined.extent (ha : a.Holds bound) {size : Nat} (hsize : size ≤ bound) {region : Region Row}
    (h : Lined size region) :
    regionExtent a region = regionExtent .exact region ∧
      ∃ n : Nat, n ≤ size ∧ (regionExtent .exact region).IsWhole n := by
  cases region with
  | filler edge extent => exact ⟨rfl, h⟩
  | element index row =>
    exact ⟨Scalar.ofNat_whole ha (le_trans h hsize), row.height, h, Scalar.isWhole_nat _⟩

theorem lineOf?_whole (ha : a.Holds bound) {offset y : Scalar} {o z : Int} (ho : offset.IsWhole o)
    (hy : y.IsWhole z) (hline : (z - o).natAbs ≤ bound) (hnext : (z + 1).natAbs ≤ bound) :
    lineOf? a offset y = lineOf? .exact offset y := by
  rw [lineOf?, lineOf?, (Scalar.sub_whole ha hy ho hline).1,
    (Scalar.add_whole ha hy Scalar.IsWhole.one hnext).1]

/-- The scan goes over whole lines, and stops before a number is too large. -/
theorem rowsFrom_whole (ha : a.Holds bound) {offset bottom y : Scalar} {o b z size : Nat}
    (ho : offset.IsWhole o) (hb : bottom.IsWhole b) (hy : y.IsWhole z) (hoffset : o ≤ bound)
    (hbound : b + size + 1 ≤ bound) {regions : List (Region Row)}
    (hlined : ∀ r ∈ regions, Lined size r) :
    rowsFrom a offset bottom y regions = rowsFrom .exact offset bottom y regions := by
  induction regions generalizing y z with
  | nil => rfl
  | cons region rest ih =>
    rw [rowsFrom, rowsFrom]
    by_cases hpast : bottom ≤ y
    · rw [if_pos hpast, if_pos hpast]
    · have habove : z < b := by
        rw [hb.le_iff hy, not_le] at hpast
        exact_mod_cast hpast
      obtain ⟨hsame, n, hn, hextent⟩ :=
        (hlined region List.mem_cons_self).extent ha (by omega)
      obtain ⟨hadd, hnext⟩ := Scalar.add_whole ha hy hextent (by omega)
      rw [← Nat.cast_add] at hnext
      rw [if_neg hpast, if_neg hpast, hsame, hadd,
        lineOf?_whole ha ho hy (by omega) (by omega),
        ih hnext fun r hr => hlined r (List.mem_cons_of_mem _ hr)]

/-- A surface of whole lines shows what it shows in exact arithmetic. -/
theorem visibleRows_whole (ha : a.Holds bound) {offset : Scalar} {o height size : Nat}
    (ho : offset.IsWhole o) (hbound : o + height + size + 1 ≤ bound) {s : Surface Row}
    (hlined : ∀ r ∈ s.regions, Lined size r) :
    visibleRows a offset height s = visibleRows .exact offset height s := by
  have hheight : Scalar.ofNat a height = .ofNat .exact height := Scalar.ofNat_whole ha (by omega)
  obtain ⟨hadd, hbottom⟩ := Scalar.add_whole ha ho (Scalar.isWhole_nat height) (by omega)
  rw [← Nat.cast_add] at hbottom
  rw [visibleRows, visibleRows, hheight, Scalar.ofNat_exact, hadd]
  exact rowsFrom_whole ha ho hbottom Scalar.IsWhole.zero (by omega) hbound hlined

theorem spacer_lined {x : Scalar} {n size : Nat} (hx : x.IsWhole n) (hn : n ≤ size) {edge : Edge}
    {region : Region Row} (h : region ∈ Spacers.region edge (Spacers.filler? x)) :
    Lined size region := by
  by_cases hpos : (0 : Scalar) < x
  · rw [Spacers.filler?, if_pos hpos] at h
    rw [List.mem_singleton.1 h]
    exact ⟨n, hn, hx⟩
  · rw [Spacers.filler?, if_neg hpos] at h
    cases h

theorem around_lines {count : Nat} {r : IndexRange} (hr : r.Within count) :
    (∃ n : Nat, n ≤ count ∧ (Spacers.around .exact count 1 r).leading.IsWhole n) ∧
      ∃ n : Nat, n ≤ count ∧ (Spacers.around .exact count 1 r).trailing.IsWhole n := by
  have hmultiple : ∀ n : Nat, ((Scalar.mul .exact (.rat n) 1).max 0).IsWhole n := by
    intro n
    obtain ⟨_, hmul⟩ := Scalar.mul_whole (Arithmetic.holds_exact n) (Scalar.isWhole_nat n)
      Scalar.IsWhole.one (by simp)
    simpa using hmul.max Scalar.IsWhole.zero
  cases r with
  | empty => exact ⟨⟨0, Nat.zero_le _, Scalar.IsWhole.zero⟩, 0, Nat.zero_le _, Scalar.IsWhole.zero⟩
  | span first last =>
    obtain ⟨hfirst, hlast⟩ := hr
    exact ⟨⟨first, by omega, hmultiple first⟩, _, Nat.sub_le _ _, hmultiple _⟩

/-- A row of the registry that begins in a viewport of whole lines, on its line there. -/
def lineIn? (top height : Nat) (e : Rendered Row) : Option PlacedRow :=
  if top ≤ e.index ∧ e.index < top + height then some ⟨e.index - top, e.index, e.element⟩ else none

theorem lineIn?_eq_some {top height : Nat} {e : Rendered Row} {p : PlacedRow} :
    lineIn? top height e = some p ↔
      (top ≤ e.index ∧ e.index < top + height) ∧ p = ⟨e.index - top, e.index, e.element⟩ := by
  rw [lineIn?]
  split
  · rename_i hin
    simp [hin, eq_comm]
  · rename_i hout
    simp [hout]

/-- A window onto items one line high shows the rows of its registry that begin in the viewport,
each on the line that is as far below the top as its index is past the offset. -/
theorem visibleRows_lines {α : Type} (ha : a.Holds bound) {w : Window α Row}
    (hs : w.Consistent a) (hextent : w.itemExtent = 1)
    (hrows : ∀ e ∈ w.registry.entries, e.element.height = 1) {offset : Scalar} {top height : Nat}
    (ho : offset.IsWhole top) (hcells : height ≤ maxCell)
    (hbound : top + height + w.items.size + 2 ≤ bound) :
    visibleRows a offset height w.surface =
      w.registry.entries.filterMap (lineIn? top height) := by
  have hexact := hs.exact ha hextent (by omega)
  obtain ⟨⟨leading, hleading, hleadingwhole⟩, trailing, htrailing, htrailingwhole⟩ :=
    around_lines hs.range
  have hlined : ∀ r ∈ w.surface.regions, Lined (w.items.size + 1) r := by
    intro r hr
    rw [hexact.drawn.trans hexact.regions_eq, hexact.spacers, hextent, List.mem_append,
      List.mem_append] at hr
    rcases hr with (hr | hr) | hr
    · exact spacer_lined hleadingwhole (by omega) hr
    · obtain ⟨e, he, rfl⟩ := List.mem_map.1 hr
      show e.element.height ≤ _
      rw [hrows e he]
      omega
    · exact spacer_lined htrailingwhole (by omega) hr
  rw [visibleRows_whole ha ho (by omega) hlined,
    visibleRows_registry (h := 1) hexact hextent hrows ho.finite hcells, List.filterMap_map]
  apply List.filterMap_congr
  intro e _
  -- on whole lines the floor is the number itself
  have hiff : (offset.toRat ≤ (e.index * (1 : Nat) : Rat) ∧
      (e.index * (1 : Nat) : Rat) < offset.toRat + height) ↔
        top ≤ e.index ∧ e.index < top + height := by
    rw [ho.value, Int.cast_natCast, Nat.cast_one, mul_one]
    exact_mod_cast Iff.rfl
  have hfloor : ⌊(e.index * (1 : Nat) : Rat) - offset.toRat⌋.toNat = e.index - top := by
    rw [ho.value, Nat.cast_one, mul_one, ← Int.cast_natCast, ← Int.cast_sub, Int.floor_intCast]
    omega
  simp only [Function.comp_apply, shown?, lineIn?, hiff, hfloor]

/-! ## The viewport -/

/-- What a terminal can report: its size fits a cell, and so do the notches of the wheel. -/
def InputEvent.Reported : InputEvent → Prop
  | .wheel notches => notches.natAbs ≤ 2 ^ 15
  | event => event.Fits

namespace Viewport

/-- A viewport that stands at the start of a line, over no more than `limit` lines. -/
structure AtLine (limit : Nat) (v : Viewport) : Prop where
  offset : ∃ top : Nat, top ≤ limit ∧ v.offset.IsWhole top
  content : ∃ lines : Nat, lines ≤ limit ∧ v.content.IsWhole lines
  height : v.height ≤ maxCell

variable {limit : Nat} {v : Viewport}

theorem extent_whole (ha : a.Holds bound) (hbound : v.height ≤ bound) :
    v.extent a = .rat v.height :=
  Scalar.ofNat_whole ha hbound

theorem maxOffset_lines (ha : a.Holds bound) {lines : Nat} (hcontent : v.content.IsWhole lines)
    (hbound : lines + v.height ≤ bound) : (v.maxOffset a).IsWhole (lines - v.height : Nat) := by
  obtain ⟨hsub, hroom⟩ := Scalar.sub_whole ha hcontent (Scalar.isWhole_nat v.height) (by omega)
  rw [maxOffset, extent_whole ha (by omega), hsub]
  have hmax := hroom.max Scalar.IsWhole.zero
  rwa [show max ((lines : Int) - v.height) 0 = (lines - v.height : Nat) by omega] at hmax

theorem maxOffset_whole (ha : a.Holds bound) (hbound : limit + maxCell ≤ bound)
    (h : v.AtLine limit) : ∃ n : Nat, n ≤ limit ∧ (v.maxOffset a).IsWhole n := by
  obtain ⟨lines, hlines, hcontent⟩ := h.content
  have hheight := h.height
  exact ⟨lines - v.height, by omega, maxOffset_lines ha hcontent (by omega)⟩

/-- A request for a whole line, or for no number at all, comes to a whole line that is not past the
last offset. -/
theorem clampOffset_lines {last : Nat} (hmax : (v.maxOffset a).IsWhole last) {offset : Scalar}
    (hoffset : offset.isFinite = true → ∃ z, offset.IsWhole z) :
    ∃ n : Nat, n ≤ last ∧ (v.clampOffset a offset).IsWhole n := by
  rw [clampOffset]
  split
  · rename_i hfinite
    obtain ⟨z, hz⟩ := hoffset hfinite
    have hclamp := hz.clamp Scalar.IsWhole.zero hmax (by omega)
    refine ⟨(max 0 (min z last)).toNat, by omega, ?_⟩
    rwa [Int.toNat_of_nonneg (by omega)]
  · exact ⟨0, Nat.zero_le _, Scalar.IsWhole.zero⟩

theorem clampOffset_whole (ha : a.Holds bound) (hbound : limit + maxCell ≤ bound)
    (h : v.AtLine limit) {offset : Scalar}
    (hoffset : offset.isFinite = true → ∃ z, offset.IsWhole z) :
    ∃ n : Nat, n ≤ limit ∧ (v.clampOffset a offset).IsWhole n := by
  obtain ⟨last, hlast, hmax⟩ := maxOffset_whole ha hbound h
  obtain ⟨n, hn, hwhole⟩ := clampOffset_lines hmax hoffset
  exact ⟨n, hn.trans hlast, hwhole⟩

theorem AtLine.scrollTo (ha : a.Holds bound) (hbound : limit + maxCell ≤ bound)
    (h : v.AtLine limit) {offset : Scalar}
    (hoffset : offset.isFinite = true → ∃ z, offset.IsWhole z) (cs : Channels) :
    (v.scrollTo a offset cs).1.AtLine limit := by
  have htarget := clampOffset_whole ha hbound h hoffset
  rw [Viewport.scrollTo]
  dsimp only
  split
  · exact h
  · exact ⟨htarget, h.content, h.height⟩

theorem AtLine.scrollBy (ha : a.Holds bound) (hbound : limit + maxCell ≤ bound)
    (h : v.AtLine limit) {lines : Scalar} {z : Int} (hlines : lines.IsWhole z)
    (hz : limit + z.natAbs ≤ bound) (cs : Channels) :
    (v.scrollBy a lines cs).1.AtLine limit := by
  obtain ⟨top, htop, hoffset⟩ := h.offset
  obtain ⟨hadd, hsum⟩ := Scalar.add_whole ha hoffset hlines (by omega)
  rw [Viewport.scrollBy, hadd]
  exact h.scrollTo ha hbound (fun _ => ⟨_, hsum⟩) cs

theorem AtLine.resize (ha : a.Holds bound) (hbound : limit + maxCell ≤ bound)
    (h : v.AtLine limit) {terminalHeight : Nat} (hfits : terminalHeight ≤ maxCell) (cs : Channels) :
    (v.resize a terminalHeight cs).1.AtLine limit := by
  obtain ⟨top, _, hoffset⟩ := h.offset
  rw [Viewport.resize]
  dsimp only
  split
  · exact h
  · refine AtLine.scrollTo ha hbound ?_ (fun _ => ⟨top, hoffset⟩) _
    exact ⟨h.offset, h.content, Nat.le_trans (Nat.sub_le _ _) hfits⟩

theorem AtLine.setContent (ha : a.Holds bound) (hbound : limit + maxCell ≤ bound)
    (h : v.AtLine limit) {extent : Scalar} {lines : Nat} (hlines : lines ≤ limit)
    (hextent : extent.IsWhole lines) : (v.setContent a extent).AtLine limit := by
  have hnew : AtLine limit { v with content := extent } :=
    ⟨h.offset, ⟨lines, hlines, hextent⟩, h.height⟩
  rw [Viewport.setContent]
  dsimp only
  split
  · exact ⟨maxOffset_whole ha hbound hnew, hnew.content, h.height⟩
  · exact hnew

theorem AtLine.setContent_top (ha : a.Holds bound) (hbound : limit + maxCell ≤ bound)
    (h : v.AtLine limit) {extent : Scalar} {lines : Nat} (hlines : lines ≤ limit)
    (hextent : extent.IsWhole lines) (htop : v.offset = 0) :
    (v.setContent a extent).offset = 0 := by
  have hnew : AtLine limit { v with content := extent } :=
    ⟨h.offset, ⟨lines, hlines, hextent⟩, h.height⟩
  obtain ⟨last, _, hlast⟩ := maxOffset_whole ha hbound hnew
  have hbelow : ¬maxOffset a { v with content := extent } < 0 := by
    rw [hlast.lt_iff Scalar.IsWhole.zero, not_lt]
    exact Int.natCast_nonneg last
  rw [← htop] at hbelow
  rw [Viewport.setContent]
  dsimp only
  rw [if_neg hbelow]
  exact htop

theorem applyKey_whole (ha : a.Holds bound) (hbound : limit + maxCell ≤ bound)
    (hheight : v.height ≤ maxCell) {key : Key} {cs : Channels} {moved : Viewport × Channels}
    (h : v.applyKey a key cs = some moved) :
    (∃ (lines : Scalar) (z : Int), lines.IsWhole z ∧ z.natAbs ≤ maxCell ∧
      moved = v.scrollBy a lines cs) ∨
    ∃ offset, (offset = 0 ∨ offset = v.maxOffset a) ∧ moved = v.scrollTo a offset cs := by
  have hfits : max v.height 1 ≤ maxCell := max_le hheight (by decide)
  have hpage : (v.page a).IsWhole (max v.height 1 : Nat) := by
    rw [page, Scalar.ofNat_whole ha (by omega)]
    exact Scalar.isWhole_nat _
  have hline : (Int.natAbs 1) ≤ maxCell := by decide
  unfold applyKey at h
  split at h
  all_goals first
    | exact .inl ⟨_, _, Scalar.IsWhole.one.neg, hline, (Option.some.inj h).symm⟩
    | exact .inl ⟨_, _, Scalar.IsWhole.one, hline, (Option.some.inj h).symm⟩
    | exact .inl ⟨_, _, hpage.neg, by omega, (Option.some.inj h).symm⟩
    | exact .inl ⟨_, _, hpage, by omega, (Option.some.inj h).symm⟩
    | exact .inr ⟨_, .inl rfl, (Option.some.inj h).symm⟩
    | exact .inr ⟨_, .inr rfl, (Option.some.inj h).symm⟩
    | cases h

/-- Whatever a terminal reports leaves the viewport at the start of a line. -/
theorem AtLine.apply (ha : a.Holds bound) (hbound : limit + 2 ^ 17 ≤ bound) (h : v.AtLine limit)
    {event : InputEvent} (hreported : event.Reported) {cs cs' : Channels} {v' : Viewport}
    (happly : v.apply a event cs = some (v', cs')) : v'.AtLine limit := by
  have hcells : limit + maxCell ≤ bound := by
    rw [maxCell]
    omega
  cases event with
  | key key held =>
    rcases applyKey_whole ha hcells h.height happly with
      ⟨lines, z, hlines, hz, hmoved⟩ | ⟨offset, hoffset, hmoved⟩
    · rw [show v' = _ from congrArg Prod.fst hmoved]
      exact h.scrollBy ha hcells hlines (by omega) cs
    · rw [show v' = _ from congrArg Prod.fst hmoved]
      refine h.scrollTo ha hcells (fun _ => ?_) cs
      rcases hoffset with rfl | rfl
      · exact ⟨0, Scalar.IsWhole.zero⟩
      · obtain ⟨last, _, hlast⟩ := maxOffset_whole ha hcells h
        exact ⟨last, hlast⟩
  | wheel notches =>
    have hnotches : notches.natAbs ≤ 2 ^ 15 := hreported
    have hwheel : wheelStep.IsWhole (3 : Nat) := Scalar.isWhole_nat 3
    obtain ⟨hmul, hlines⟩ := Scalar.mul_whole ha (Scalar.isWhole_rat notches).neg hwheel (by omega)
    have hmoved : (v', cs') = v.scrollBy a _ cs := (Option.some.inj happly).symm
    rw [Scalar.ofInt_whole ha (by omega), hmul] at hmoved
    rw [show v' = _ from congrArg Prod.fst hmoved]
    exact h.scrollBy ha hcells hlines (by omega) cs
  | resize width height =>
    have hmoved : (v', cs') = v.resize a height cs := (Option.some.inj happly).symm
    rw [show v' = _ from congrArg Prod.fst hmoved]
    exact h.resize ha hcells hreported cs
  | failure text => cases happly
  | shutdown => cases happly

end Viewport

/-! ## A window over the viewport -/

variable {σ α ε : Type} {limit : Nat}

/-- Whatever is asked of a window onto items one line high, its viewport remains at the start of a
line and as high as it is. -/
theorem AtLine.effect (ha : a.Holds bound) (hbound : limit + maxCell ≤ bound)
    {cb : Callbacks σ α ε} {s s' : Scene Viewport σ α ε} {r : Request α} {answer : Answer}
    (h : Scene.Effect a cb s r answer s') (hlive : s'.window.isDestroyed = false)
    (hextent : s.window.itemExtent = 1) (hsize : s.window.items.size ≤ limit)
    (hsize' : s'.window.items.size ≤ limit) (hline : s.world.container.AtLine limit) :
    s'.world.container.AtLine limit ∧
      s'.world.container.height = s.world.container.height ∧
      s'.world.container.reserved = s.world.container.reserved := by
  rcases h.container_cases hlive with ⟨hsame, _⟩ | htold | ⟨index, _, hmoved⟩
  · rw [hsame]
    exact ⟨hline, rfl, rfl⟩
  · rw [htold]
    obtain ⟨_, hheight, hreserved, _⟩ :=
      Viewport.setContent_frame a (s'.window.totalExtent a) s.world.container
    have htotal := Window.totalExtent_whole (w := s'.window) ha (h.extent.trans hextent) (by omega)
    exact ⟨hline.setContent ha hbound hsize' htotal, hheight, hreserved⟩
  · rw [hmoved]
    obtain ⟨hheight, hreserved, _⟩ := Viewport.scrollTo_frame a
      (Scalar.mul a (.ofNat a (min index (s.window.items.size - 1))) s.window.itemExtent)
      s.world.container s.world.channels
    refine ⟨hline.scrollTo ha hbound (fun _ => ?_) _, hheight, hreserved⟩
    obtain ⟨hmul, hoffset⟩ := Scalar.mul_whole ha
      (Scalar.isWhole_nat (min index (s.window.items.size - 1))) Scalar.IsWhole.one (by omega)
    rw [hextent, Scalar.ofNat_whole ha (by omega), hmul]
    exact ⟨_, hoffset⟩

/-- When the last pass has seen the present offset and height, the range has every item in sight. -/
theorem contains_inSight (ha : a.Holds bound) (hbound : limit + maxCell ≤ bound)
    {w : Window α ε} {v : Viewport} (hs : w.Sampled a) (hextent : w.itemExtent = 1)
    (hsize : w.items.size ≤ limit) (hline : v.AtLine limit) {top : Nat}
    (htop : v.offset.IsWhole top) (hseen : w.geometry = Container.geometry v)
    (hfits : w.items.size ≤ maxIndex) {k : Nat} (hk : k < v.height)
    (hitem : top + k < w.items.size) : w.range.contains (top + k) = true := by
  obtain ⟨top', htop', hoffset⟩ := hline.offset
  have hheight := hline.height
  obtain rfl : top' = top := by
    have heq := hoffset.value.symm.trans htop.value
    exact_mod_cast heq
  have hsampled := hs.range
  have hgeometry : Container.geometry v = Geometry.sample v.offset (.rat v.height) := rfl
  rw [hseen, hextent, hgeometry, ← visibleRange_sample,
    visibleRange_whole ha htop (Scalar.isWhole_nat v.height) (by omega) (by omega)] at hsampled
  have hneeded :=
    visibleRange_reads ⟨v.offset, .rat v.height⟩ one_pos w.items.size w.config.overscan
  rw [← Except.ok.inj (hneeded.symm.trans hsampled)]
  show (neededRange (max v.offset.toRat 0) (max (v.height : Rat) 0) 1 w.items.size
    w.config.overscan).contains (top' + k) = true
  have hoffset' : v.offset.toRat = top' := by simpa using htop.value
  rw [hoffset', max_eq_left (Nat.cast_nonneg _), max_eq_left (Nat.cast_nonneg _)]
  refine neededRange_covers (p := top') one_pos (Nat.cast_nonneg _) (Nat.cast_nonneg _) hfits hitem
    ?_ ?_ ?_
  · rw [sub_self, abs_zero, mul_one]
    exact Nat.cast_nonneg _
  · rw [mul_one]
    exact_mod_cast Nat.le_add_right top' k
  · rw [mul_one]
    exact_mod_cast Nat.add_lt_add_left hk top'

end ListWindow.Screen
