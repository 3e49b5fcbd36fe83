import ListWindow.Demo.Browser
import Mathlib.Algebra.GroupWithZero.Nat
import Mathlib.Logic.Relation

/-!
Rectangles split into parts. Where the far edges of a rectangle are coordinates it can be split at
any line, its parts can be split again, and so on (`Rect.Splits`). Whatever the splits, every cell
of the rectangle lies in exactly one part, no other cell lies in any, the parts have the columns of
the rectangle, and their heights add up to its height (`Rect.Partition`). So header, body and status
line of a browser share the screen between them, whatever its size (`Rect.splits_partition`).
-/
namespace ListWindow.Screen.Rect

variable {r part : Rect} {parts parts' : List Rect}

/-- The far edges are coordinates. -/
def Fits (r : Rect) : Prop := r.x + r.width ≤ maxCell ∧ r.y + r.height ≤ maxCell

/-- No cell lies in both rectangles. -/
def Apart (r r' : Rect) : Prop := ∀ px py, ¬ (r.contains px py = true ∧ r'.contains px py = true)

/-- The parts share the rectangle between them. -/
structure Partition (r : Rect) (parts : List Rect) : Prop where
  columns : ∀ part ∈ parts, part.x = r.x ∧ part.width = r.width
  fits : ∀ part ∈ parts, part.Fits
  /-- A cell of the rectangle lies in exactly one part, any other cell in none. -/
  once : ∀ px py, parts.countP (·.contains px py) = (r.contains px py).toNat
  heights : (parts.map height).sum = r.height

/-- One of the parts is split. -/
inductive Splits : List Rect → List Rect → Prop where
  | part (before after : List Rect) (lines : Nat) {part top rest : Rect} :
      part.splitAt lines = .ok (top, rest) →
      Splits (before ++ part :: after) (before ++ top :: rest :: after)

/-! ## One split -/

theorem Fits.contains_iff (h : r.Fits) {px py : Nat} :
    r.contains px py = true ↔
      (r.x ≤ px ∧ px < r.x + r.width) ∧ r.y ≤ py ∧ py < r.y + r.height := by
  obtain ⟨hright, hbottom⟩ := h
  rw [contains, right, bottom, saturatingAdd, saturatingAdd, Nat.min_eq_left hright,
    Nat.min_eq_left hbottom]
  simp only [Bool.and_eq_true, decide_eq_true_eq, and_assoc]

theorem splitAt_eq (hbottom : r.y + r.height ≤ maxCell) (lines : Nat) :
    r.splitAt lines = .ok ({ r with height := min lines r.height },
      { r with y := r.y + min lines r.height, height := r.height - min lines r.height }) := by
  have htop : r.y + min lines r.height ≤ maxCell := by omega
  rw [splitAt, checkedAdd, if_pos htop]
  rfl

/-- A rectangle can be split at any line. Its first part has the cells above that line, and the
other part has the rest of the cells. -/
theorem Fits.split (h : r.Fits) (lines : Nat) :
    ∃ top rest, r.splitAt lines = .ok (top, rest) ∧ r.Partition [top, rest] ∧
      ∀ px py, top.contains px py = true ↔ r.contains px py = true ∧ py - r.y < lines := by
  obtain ⟨hright, hbottom⟩ := h
  have hfits : r.Fits := ⟨hright, hbottom⟩
  refine ⟨_, _, splitAt_eq hbottom lines, ?_⟩
  generalize htop : ({ r with height := min lines r.height } : Rect) = top
  generalize hrest : ({ r with
    y := r.y + min lines r.height
    height := r.height - min lines r.height } : Rect) = rest
  have htopfits : top.Fits := by
    subst htop
    exact ⟨hright, by dsimp only; omega⟩
  have hrestfits : rest.Fits := by
    subst hrest
    exact ⟨hright, by dsimp only; omega⟩
  have habove : ∀ px py, top.contains px py = true ↔
      r.contains px py = true ∧ py - r.y < lines := by
    intro px py
    rw [htopfits.contains_iff, hfits.contains_iff]
    subst htop
    dsimp only
    omega
  have hbelow : ∀ px py, rest.contains px py = true ↔
      r.contains px py = true ∧ ¬ py - r.y < lines := by
    intro px py
    rw [hrestfits.contains_iff, hfits.contains_iff]
    subst hrest
    dsimp only
    omega
  refine ⟨⟨?_, ?_, ?_, ?_⟩, habove⟩
  · subst htop hrest
    simp
  · simpa using ⟨htopfits, hrestfits⟩
  · intro px py
    simp only [List.countP_cons, List.countP_nil, habove, hbelow]
    cases r.contains px py with
    | false => simp
    | true => by_cases hline : py - r.y < lines <;> simp [hline]
  · subst htop hrest
    simp only [List.map_cons, List.map_nil, List.sum_cons, List.sum_nil]
    omega

/-! ## Any number of splits -/

theorem Fits.partition (h : r.Fits) : r.Partition [r] where
  columns := by simp
  fits := by simpa using h
  once px py := by
    rw [List.countP_singleton]
    cases r.contains px py <;> rfl
  heights := by simp

/-- The parts of a part take its place. -/
theorem Partition.substitute {before inner after : List Rect}
    (h : r.Partition (before ++ part :: after)) (hinner : part.Partition inner) :
    r.Partition (before ++ (inner ++ after)) := by
  have hpart : part ∈ before ++ part :: after := List.mem_append_right _ List.mem_cons_self
  have hmem : ∀ p ∈ before ++ (inner ++ after), p ∈ before ++ part :: after ∨ p ∈ inner := by
    intro p hp
    simp only [List.mem_append, List.mem_cons] at hp ⊢
    obtain hp | hp | hp := hp
    · exact .inl (.inl hp)
    · exact .inr hp
    · exact .inl (.inr (.inr hp))
  refine ⟨?_, ?_, ?_, ?_⟩
  · intro p hp
    obtain hp | hp := hmem p hp
    · exact h.columns p hp
    · obtain ⟨hx, hwidth⟩ := h.columns part hpart
      obtain ⟨hpx, hpwidth⟩ := hinner.columns p hp
      exact ⟨hpx.trans hx, hpwidth.trans hwidth⟩
  · intro p hp
    obtain hp | hp := hmem p hp
    · exact h.fits p hp
    · exact hinner.fits p hp
  · intro px py
    rw [← h.once px py, List.countP_append, List.countP_append, hinner.once px py,
      List.countP_append, List.countP_cons]
    cases part.contains px py <;> simp [Nat.add_comm]
  · rw [← h.heights]
    simp only [List.map_append, List.map_cons, List.sum_append, List.sum_cons, hinner.heights]

theorem Partition.splits (h : r.Partition parts) (hsplits : Splits parts parts') :
    r.Partition parts' := by
  cases hsplits with | @part before after lines part top rest hsplit
  have hfits := h.fits part (List.mem_append_right _ List.mem_cons_self)
  obtain ⟨top', rest', hsplit', hparts, _⟩ := hfits.split lines
  cases hsplit.symm.trans hsplit'
  exact h.substitute hparts

theorem Partition.run (h : r.Partition parts)
    (hrun : Relation.ReflTransGen Splits parts parts') : r.Partition parts' := by
  induction hrun with
  | refl => exact h
  | tail _ hlast ih => exact ih.splits hlast

theorem Partition.contains_iff (h : r.Partition parts) {px py : Nat} :
    r.contains px py = true ↔ ∃ part ∈ parts, part.contains px py = true := by
  rw [← List.countP_pos_iff, h.once]
  cases r.contains px py <;> simp

theorem Partition.apart (h : r.Partition parts) : parts.Pairwise Apart := by
  have hatmost : ∀ px py, parts.countP (·.contains px py) ≤ 1 := by
    intro px py
    rw [h.once]
    exact Bool.toNat_le _
  clear h
  induction parts with
  | nil => exact .nil
  | cons part rest ih =>
    refine List.pairwise_cons.2 ⟨?_, ih fun px py => ?_⟩
    · rintro other hother px py ⟨hpart, hin⟩
      have hcount := hatmost px py
      have hlater : 0 < rest.countP (·.contains px py) :=
        List.countP_pos_iff.2 ⟨other, hother, hin⟩
      rw [List.countP_cons, if_pos hpart] at hcount
      omega
    · exact Nat.le_trans (List.sublist_cons_self part rest).countP_le (hatmost px py)

open Demo in
/-- Splitting shares a rectangle out between the parts.

A rectangle whose far edges are coordinates can be split at any line. Its parts have its columns,
every cell of it lies in exactly one of them, and that is the first part exactly for the cells above
the line. The same holds of the parts of the parts, however often they are split, and none of these
splits breaks off. On a screen they are the header, the body and the footer that a browser draws. -/
theorem splits_partition (hfits : r.Fits) :
    (∀ lines, ∃ top rest, r.splitAt lines = .ok (top, rest) ∧ r.Partition [top, rest] ∧
      ∀ px py, top.contains px py = true ↔ r.contains px py = true ∧ py - r.y < lines) ∧
    (∀ parts, Relation.ReflTransGen Splits [r] parts →
      r.Partition parts ∧ parts.Pairwise Apart ∧
      (∀ px py, r.contains px py = true ↔ ∃ part ∈ parts, part.contains px py = true) ∧
      ∀ part ∈ parts, ∀ lines, ∃ top rest, part.splitAt lines = .ok (top, rest)) ∧
    ∀ b : Browser, r = .ofSize b.width b.height →
      ∃ header rest body footer, r.splitAt 1 = .ok (header, rest) ∧
        rest.splitAt (rest.height - 1) = .ok (body, footer) ∧
        r.Partition [header, body, footer] ∧ [header, body, footer].Pairwise Apart ∧
        b.draw = do
          let rows ← paint .binary64 b.scene.world.container.offset body b.scene.window.surface
          return Browser.lineAt header Browser.headerStyle columns.header ++ rows
            ++ Browser.lineAt footer Browser.statusStyle b.status ++ [.resetAttributes] := by
  refine ⟨hfits.split, ?_, ?_⟩
  · intro parts hrun
    have hparts := hfits.partition.run hrun
    refine ⟨hparts, hparts.apart, fun _ _ => hparts.contains_iff, ?_⟩
    intro part hpart lines
    obtain ⟨top, rest, hsplit, _⟩ := (hparts.fits part hpart).split lines
    exact ⟨top, rest, hsplit⟩
  · rintro b rfl
    obtain ⟨header, rest, hfirst, hparts, _⟩ := hfits.split 1
    obtain ⟨body, footer, hsecond, _⟩ :=
      (hparts.fits rest (List.mem_cons_of_mem _ List.mem_cons_self)).split (rest.height - 1)
    have hall := hparts.splits (.part [header] [] _ hsecond)
    refine ⟨header, rest, body, footer, hfirst, hsecond, hall, hall.apart, ?_⟩
    rw [Browser.draw, hfirst]
    simp only [bind, Except.bind, hsecond]

/-- The largest screen there is, split as for a browser. -/
theorem splits_partition_largest :
    (ofSize maxCell maxCell).Fits ∧
      (ofSize maxCell maxCell).Partition
        [{ width := maxCell, height := 1 },
          { y := 1, width := maxCell, height := maxCell - 2 },
          { y := maxCell - 1, width := maxCell, height := 1 }] := by
  have hfits : (ofSize maxCell maxCell).Fits := ⟨by decide, by decide⟩
  obtain ⟨_, hchains, _⟩ := splits_partition hfits
  refine ⟨hfits, (hchains _ ?_).1⟩
  exact (Relation.ReflTransGen.single (.part [] [] 1 rfl)).tail (.part [_] [] (maxCell - 2) rfl)

end ListWindow.Screen.Rect
