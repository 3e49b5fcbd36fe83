import ListWindow.Proofs.Announcement
import ListWindow.Proofs.Lines

/-!
Scrolling by whole lines in exact arithmetic. `Viewport.ByLines` are the viewports that moves by
whole lines lead to, whatever order they come in: the content is a number of lines, scrolling goes
by lines or to no number at all, the terminal takes any height, and input events are acted on. Both
bounds of the offset move with the height and with the content. Yet the offset is the number of a
line after each move, and the viewport ends with the content or is not scrolled at all
(`Viewport.ByLines.clamped`).
-/
namespace ListWindow.Screen.Viewport

variable {v : Viewport} {cs : Channels} {top lines : Nat}

/-- Moves by whole lines. Scrolling may be asked for with what is no number. -/
def Move.Whole : Move → Prop
  | .scrollTo offset => offset.isFinite = true → ∃ z, offset.IsWhole z
  | .scrollBy delta => delta.isFinite = true → ∃ z, delta.IsWhole z
  | .content extent => ∃ lines : Nat, extent.IsWhole lines
  | _ => True

/-- What a viewport has been told last. -/
structure Setting where
  terminalHeight : Nat
  content : Scalar := 0

/-- A move tells the height of the terminal, or the content, or neither. -/
def Setting.after (k : Setting) : Move → Setting
  | .resize terminalHeight => { k with terminalHeight }
  | .apply (.resize _ terminalHeight) => { k with terminalHeight }
  | .content extent => { k with content := extent }
  | _ => k

/-- The viewports that moves by whole lines lead to, whatever becomes of the channels between them,
and what they have been told last. -/
inductive ByLines (reserved : Nat) : Setting → Viewport → Prop where
  | start (terminalHeight : Nat) : terminalHeight ≤ maxCell →
      ByLines reserved { terminalHeight } (.ofTerminal terminalHeight reserved)
  | move {k : Setting} {v : Viewport} (m : Move) (cs : Channels) : ByLines reserved k v →
      m.Fits → m.Whole → ByLines reserved (k.after m) (v.perform .exact m cs).1
  | subscribe {k : Setting} {v : Viewport} (channel : Nat) : ByLines reserved k v →
      ByLines reserved k (Container.subscribe channel v).1
  | unsubscribe {k : Setting} {v : Viewport} (handle : UInt32) : ByLines reserved k v →
      ByLines reserved k (Container.unsubscribe handle v)

/-- A viewport at the start of a line that is no further down than the last full page. -/
structure Clamped (reserved : Nat) (k : Setting) (v : Viewport) : Prop where
  offset : ∃ top lines : Nat,
    v.offset.IsWhole top ∧ v.content.IsWhole lines ∧ top ≤ lines - v.height
  height : v.height = k.terminalHeight - reserved
  fits : v.height ≤ maxCell
  reserved : v.reserved = reserved
  content : v.content = k.content

/-! ## One move -/

/-- Whole numbers that are closer than can be told apart are the same. -/
theorem eq_of_close {x y : Scalar} {p q : Int} (hx : x.IsWhole p) (hy : y.IsWhole q)
    (hclose : (Scalar.sub .exact x y).abs < offsetTolerance) : p = q := by
  obtain ⟨_, hsub⟩ :=
    Scalar.sub_whole (Arithmetic.holds_exact (p - q).natAbs) hx hy le_rfl
  obtain ⟨habs, habsval⟩ := Scalar.abs_finite hsub.finite
  have hlt := (Scalar.lt_iff habs rfl).1 hclose
  have htolerance : offsetTolerance.toRat < 1 := by decide +kernel
  rw [habsval, hsub.value] at hlt
  have hone : |(p - q : Int)| < 1 := by exact_mod_cast hlt.trans htolerance
  exact sub_eq_zero.1 (Int.abs_lt_one_iff.1 hone)

/-- Scrolling over whole lines stops at a line that is not past the last full page, wherever the
viewport stands before. -/
theorem scrollTo_lines (hoffset : v.offset.IsWhole top) (hcontent : v.content.IsWhole lines)
    {offset : Scalar} (hwhole : offset.isFinite = true → ∃ z, offset.IsWhole z) (cs : Channels) :
    ∃ n : Nat, n ≤ lines - v.height ∧ (v.scrollTo .exact offset cs).1.offset.IsWhole n := by
  obtain ⟨n, hn, htarget⟩ := clampOffset_lines
    (maxOffset_lines (Arithmetic.holds_exact (lines + v.height)) hcontent le_rfl) hwhole
  rw [scrollTo]
  dsimp only
  split
  · -- nothing moves, because the viewport stands there already
    rename_i hclose
    have hsame : n = top := by exact_mod_cast eq_of_close htarget hoffset hclose
    exact ⟨n, hn, hsame ▸ hoffset⟩
  · exact ⟨n, hn, htarget⟩

theorem scrollBy_whole (hoffset : v.offset.IsWhole top) {delta : Scalar}
    (hwhole : delta.isFinite = true → ∃ z, delta.IsWhole z) :
    (Scalar.add .exact v.offset delta).isFinite = true →
      ∃ z, (Scalar.add .exact v.offset delta).IsWhole z := by
  intro hsum
  have hdelta : delta.isFinite = true := by
    have hnumber := hoffset.finite
    cases delta with
    | nan => cases hv : v.offset <;> rw [hv] at hsum <;> cases hsum
    | infinite negative =>
      cases hv : v.offset with
      | nan | infinite negative => rw [hv] at hnumber; cases hnumber
      | negZero | rat q => rw [hv] at hsum; cases hsum
    | negZero | rat q => rfl
  obtain ⟨z, hz⟩ := hwhole hdelta
  exact ⟨_, (Scalar.add_whole (Arithmetic.holds_exact (top + z).natAbs) hoffset hz le_rfl).2⟩

/-- What an input event does to a viewport at the start of a line: it scrolls to a whole line, or it
tells the height of the terminal. -/
theorem apply_whole (hoffset : v.offset.IsWhole top) (hcontent : v.content.IsWhole lines)
    (hheight : v.height ≤ maxCell) {event : InputEvent} {moved : Viewport × Channels}
    (h : v.apply .exact event cs = some moved) :
    (∃ offset, (offset.isFinite = true → ∃ z, offset.IsWhole z) ∧
      (∀ width height, event ≠ .resize width height) ∧ moved = v.scrollTo .exact offset cs) ∨
    ∃ width height, event = .resize width height ∧ moved = v.resize .exact height cs := by
  cases event with
  | key key held =>
    refine .inl ?_
    have hbound : 0 + maxCell ≤ maxCell := Nat.le_of_eq (Nat.zero_add _)
    rcases applyKey_whole (Arithmetic.holds_exact maxCell) hbound hheight h with
      ⟨delta, z, hz, _, hmoved⟩ | ⟨offset, hends, hmoved⟩
    · exact ⟨_, scrollBy_whole hoffset fun _ => ⟨z, hz⟩, by simp, hmoved⟩
    · refine ⟨offset, fun _ => ?_, by simp, hmoved⟩
      rcases hends with rfl | rfl
      · exact ⟨0, Scalar.IsWhole.zero⟩
      · exact ⟨_, maxOffset_lines (Arithmetic.holds_exact (lines + v.height)) hcontent le_rfl⟩
  | wheel notches =>
    have hwheel : wheelStep.IsWhole (3 : Nat) := Scalar.isWhole_nat 3
    obtain ⟨_, hdelta⟩ := Scalar.mul_whole (Arithmetic.holds_exact (-notches * 3).natAbs)
      (Scalar.isWhole_rat notches).neg hwheel le_rfl
    exact .inl ⟨_, scrollBy_whole hoffset fun _ => ⟨_, hdelta⟩, by simp, (Option.some.inj h).symm⟩
  | resize width height => exact .inr ⟨width, height, rfl, (Option.some.inj h).symm⟩
  | failure text => cases h
  | shutdown => cases h

variable {reserved : Nat} {k : Setting}

theorem Clamped.scrollTo (h : v.Clamped reserved k) {offset : Scalar}
    (hwhole : offset.isFinite = true → ∃ z, offset.IsWhole z) (cs : Channels) :
    (v.scrollTo .exact offset cs).1.Clamped reserved k := by
  obtain ⟨top, lines, htop, hlines, _⟩ := h.offset
  obtain ⟨n, hn, hmoved⟩ := scrollTo_lines htop hlines hwhole cs
  obtain ⟨hheight, hreserved, hcontent⟩ := scrollTo_frame .exact offset v cs
  exact ⟨⟨n, lines, hmoved, hcontent ▸ hlines, hheight ▸ hn⟩, hheight.trans h.height,
    hheight ▸ h.fits, hreserved.trans h.reserved, hcontent.trans h.content⟩

theorem Clamped.resize (h : v.Clamped reserved k) {terminalHeight : Nat}
    (hfits : terminalHeight ≤ maxCell) (cs : Channels) :
    (v.resize .exact terminalHeight cs).1.Clamped reserved { k with terminalHeight } := by
  obtain ⟨top, lines, htop, hlines, hbound⟩ := h.offset
  obtain ⟨hheight, hreserved, hcontent⟩ := resize_frame .exact terminalHeight v cs
  have hsmall : terminalHeight - v.reserved ≤ maxCell := (Nat.sub_le _ _).trans hfits
  refine ⟨?_, hheight.trans (by rw [h.reserved]), hheight ▸ hsmall, hreserved.trans h.reserved,
    hcontent.trans h.content⟩
  rw [hheight, hcontent, Viewport.resize]
  dsimp only
  split
  · rename_i hsame
    exact ⟨top, lines, htop, hlines, hsame ▸ hbound⟩
  · obtain ⟨n, hn, hmoved⟩ := scrollTo_lines (v := { v with
        height := terminalHeight - v.reserved
        subscribers := (v.subscribers.broadcast
          (.resize (.ofNat .exact (terminalHeight - v.reserved))) cs).1 })
      htop hlines (fun _ => ⟨top, htop⟩) _
    exact ⟨n, lines, hmoved, hlines, hn⟩

theorem Clamped.setContent (h : v.Clamped reserved k) {extent : Scalar}
    (hextent : ∃ lines : Nat, extent.IsWhole lines) :
    (v.setContent .exact extent).Clamped reserved { k with content := extent } := by
  obtain ⟨top, _, htop, _, _⟩ := h.offset
  obtain ⟨lines, hlines⟩ := hextent
  obtain ⟨_, hheight, hreserved, hcontent⟩ := setContent_frame .exact extent v
  refine ⟨?_, hheight.trans h.height, hheight ▸ h.fits, hreserved.trans h.reserved, hcontent⟩
  have hmax := maxOffset_lines (v := { v with content := extent })
    (Arithmetic.holds_exact (lines + v.height)) hlines le_rfl
  rw [hheight, hcontent]
  by_cases hback : v.PulledBack .exact (.content extent)
  · rw [setContent_pulled hback]
    exact ⟨_, lines, hmax, hlines, le_rfl⟩
  · rw [setContent_stays hback]
    have hle := not_lt.1 (mt (hmax.lt_iff htop).2 hback)
    exact ⟨top, lines, htop, hlines, Int.ofNat_le.1 hle⟩

theorem Clamped.perform (h : v.Clamped reserved k) {m : Move} (hfits : m.Fits) (hwhole : m.Whole)
    (cs : Channels) : (v.perform .exact m cs).1.Clamped reserved (k.after m) := by
  obtain ⟨top, lines, htop, hlines, _⟩ := h.offset
  cases m with
  | scrollTo offset => exact h.scrollTo hwhole cs
  | scrollBy delta => exact h.scrollTo (scrollBy_whole htop hwhole) cs
  | resize terminalHeight => exact h.resize hfits cs
  | content extent => exact h.setContent hwhole
  | apply event =>
    rw [Viewport.perform]
    rcases happly : v.apply .exact event cs with _ | moved
    · -- a resize is always acted on
      cases event with
      | resize width height => cases happly
      | _ => exact h
    · rcases apply_whole htop hlines h.fits happly with
        ⟨offset, hoffset, hevent, rfl⟩ | ⟨width, height, rfl, rfl⟩
      · have hsame : k.after (.apply event) = k := by
          cases event with
          | resize width height => exact absurd rfl (hevent width height)
          | _ => rfl
        rw [hsame]
        exact h.scrollTo hoffset cs
      · exact h.resize hfits cs

/-! ## Any number of moves -/

theorem ByLines.invariant (h : ByLines reserved k v) : v.Clamped reserved k := by
  induction h with
  | start terminalHeight hfits =>
    exact ⟨⟨0, 0, Scalar.IsWhole.zero, Scalar.IsWhole.zero, Nat.zero_le _⟩, rfl,
      (Nat.sub_le _ _).trans hfits, rfl, rfl⟩
  | move m cs _ hfits hwhole ih => exact ih.perform hfits hwhole cs
  | subscribe channel _ ih => exact ⟨ih.offset, ih.height, ih.fits, ih.reserved, ih.content⟩
  | unsubscribe handle _ ih => exact ⟨ih.offset, ih.height, ih.fits, ih.reserved, ih.content⟩

/-- After any moves by whole lines the offset is the number of a line, from zero to the last offset,
which is where the content of which the viewport has been told last leaves it full, or zero; the
height is the one of the terminal less the reserved lines, or zero. So a row that begins a whole
number of lines down the content begins at a whole line of the screen, and the viewport never begins
past the content. -/
theorem ByLines.clamped (h : ByLines reserved k v) :
    (∃ top : Nat, (Container.scrollOffset v).IsWhole top) ∧
      (0 ≤ Container.scrollOffset v ∧ Container.scrollOffset v ≤ v.maxOffset .exact) ∧
      ((v.maxOffset .exact).isFinite = true ∧
        (v.maxOffset .exact).toRat = max (k.content.toRat - v.height) 0) ∧
      v.height = k.terminalHeight - reserved ∧
      (∀ row : Nat, ∃ line : Int,
        (Scalar.sub .exact (.rat row) (Container.scrollOffset v)).IsWhole line) ∧
      Container.scrollOffset v ≤ k.content := by
  have hclamped := h.invariant
  obtain ⟨top, lines, htop, hlines, hbound⟩ := hclamped.offset
  have hmax := maxOffset_lines (Arithmetic.holds_exact (lines + v.height)) hlines le_rfl
  refine ⟨⟨top, htop⟩, ⟨?_, ?_⟩, ?_, hclamped.height, ?_, ?_⟩
  · exact (Scalar.IsWhole.zero.le_iff htop).2 (Int.natCast_nonneg top)
  · exact (htop.le_iff hmax).2 (Int.ofNat_le.2 hbound)
  · rw [← hclamped.content]
    exact maxOffset_exact hlines.finite
  · intro row
    exact ⟨_, (Scalar.sub_whole (Arithmetic.holds_exact ((row : Int) - top).natAbs)
      (Scalar.isWhole_nat row) htop le_rfl).2⟩
  · rw [← hclamped.content]
    exact (htop.le_iff hlines).2 (Int.ofNat_le.2 (hbound.trans (Nat.sub_le _ _)))

/-- The last page of a hundred lines, in a terminal that gets higher before the content shrinks. -/
def shrunk : Viewport :=
  let page := ((ofTerminal 12 2).perform .exact (.content 100) #[]).1
  let last := (page.perform .exact (.apply (.key .last {})) #[]).1
  ((last.perform .exact (.resize 22) #[]).1.perform .exact (.content 30) #[]).1

theorem shrunk_byLines : ByLines 2 { terminalHeight := 22, content := 30 } shrunk := by
  have hstart : ByLines 2 { terminalHeight := 12 } (ofTerminal 12 2) := .start 12 (by decide)
  have hpage := hstart.move (.content 100) #[] trivial ⟨100, Scalar.isWhole_nat 100⟩
  have hlast := hpage.move (.apply (.key .last {})) #[] trivial trivial
  have hhigh := hlast.move (.resize 22) #[] (show 22 ≤ maxCell by decide) trivial
  exact hhigh.move (.content 30) #[] trivial ⟨30, Scalar.isWhole_nat 30⟩

/-- Twenty lines of thirty are in sight then, and the first of them is the eleventh. -/
theorem clamped_shrunk :
    ByLines 2 { terminalHeight := 22, content := 30 } shrunk ∧ shrunk.height = 20 ∧
      Container.scrollOffset shrunk = 10 ∧
      Container.scrollOffset shrunk ≤ shrunk.maxOffset .exact ∧
      (shrunk.maxOffset .exact).toRat = max ((30 : Scalar).toRat - shrunk.height) 0 := by
  obtain ⟨_, ⟨_, hbound⟩, ⟨_, hmax⟩, hheight, _⟩ := shrunk_byLines.clamped
  exact ⟨shrunk_byLines, hheight, by decide +kernel, hbound, hmax⟩

end ListWindow.Screen.Viewport
