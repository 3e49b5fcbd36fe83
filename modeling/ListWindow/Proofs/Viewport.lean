import ListWindow.Proofs.Coverage
import ListWindow.Proofs.Watch
import ListWindow.Screen.Viewport

/-!
The scroll area of a terminal in exact arithmetic. It keeps its offset between zero and the last one
at which it is full (`Viewport.Proper`), it tells its subscribers whenever it moves, and when it
learns how large the content is it may scroll back, but never so far that other items are needed
(`Viewport.faithful`). `Navigates` lists how it is moved and resized from outside.
-/
namespace ListWindow

namespace Screen

namespace Viewport

/-- The offset is a number that is not negative, the content is finite, and the viewport fits a
screen. -/
structure Proper (v : Viewport) : Prop where
  offset : v.offset.isFinite = true
  nonneg : 0 ≤ v.offset.toRat
  content : v.content.isFinite = true
  height : v.height ≤ maxCell

variable {v : Viewport} {cs : Channels}

theorem maxOffset_exact (hcontent : v.content.isFinite = true) :
    (v.maxOffset .exact).isFinite = true ∧
      (v.maxOffset .exact).toRat = max (v.content.toRat - v.height) 0 := by
  obtain ⟨hsub, hsubval⟩ := Scalar.sub_exact (y := .rat v.height) hcontent rfl
  obtain ⟨hmax, hmaxval⟩ := Scalar.max_finite hsub Scalar.finite_zero
  exact ⟨hmax, by rw [maxOffset, extent, Scalar.ofNat_exact, hmaxval, hsubval]; rfl⟩

/-- A requested offset comes to the one nearest to it between zero and the largest. -/
theorem clampOffset_exact (hcontent : v.content.isFinite = true) (offset : Scalar) :
    (v.clampOffset .exact offset).isFinite = true ∧
      (v.clampOffset .exact offset).toRat =
        max 0 (min offset.toRat (max (v.content.toRat - v.height) 0)) := by
  obtain ⟨hmax, hmaxval⟩ := maxOffset_exact hcontent
  rw [clampOffset]
  split
  · rename_i hoffset
    obtain ⟨hclamp, hclampval⟩ := Scalar.clamp_finite hoffset Scalar.finite_zero hmax
      (hmaxval ▸ le_max_right _ _)
    rw [hmaxval] at hclampval
    exact ⟨hclamp, hclampval⟩
  · rename_i hoffset
    rw [Scalar.toRat_of_not_finite (x := offset) (by simpa using hoffset),
      min_eq_left (le_max_right _ _)]
    exact ⟨rfl, (max_self 0).symm⟩

theorem scrollTo_proper (h : v.Proper) (offset : Scalar) (cs : Channels) :
    (v.scrollTo .exact offset cs).1.Proper := by
  obtain ⟨hfinite, hval⟩ := clampOffset_exact h.content offset
  rw [scrollTo]
  dsimp only
  split
  · exact h
  · exact ⟨hfinite, hval ▸ le_max_left _ _, h.content, h.height⟩

theorem scrollTo_frame (a : Arithmetic) (offset : Scalar) (v : Viewport) (cs : Channels) :
    (v.scrollTo a offset cs).1.height = v.height ∧
      (v.scrollTo a offset cs).1.reserved = v.reserved ∧
      (v.scrollTo a offset cs).1.content = v.content := by
  rw [scrollTo]
  dsimp only
  split
  · exact ⟨rfl, rfl, rfl⟩
  · exact ⟨rfl, rfl, rfl⟩

/-- Scrolling leads closer than a line to where it is asked to go, or to where the content ends. -/
theorem scrollTo_near (h : v.Proper) {offset : Scalar} (hoffset : 0 ≤ offset.toRat)
    (cs : Channels) :
    |(v.scrollTo .exact offset cs).1.offset.toRat -
      min offset.toRat (max (v.content.toRat - v.height) 0)| < 1 := by
  obtain ⟨hfinite, hval⟩ := clampOffset_exact h.content offset
  rw [max_eq_right (le_min hoffset (le_max_right _ _))] at hval
  rw [← hval, scrollTo]
  dsimp only
  split
  · -- it is closer than can be told apart already
    rename_i hsame
    obtain ⟨hsub, hsubval⟩ := Scalar.sub_exact hfinite h.offset
    obtain ⟨habs, habsval⟩ := Scalar.abs_finite hsub
    have hlt := (Scalar.lt_iff habs rfl).1 hsame
    have htolerance : offsetTolerance.toRat < 1 := by decide +kernel
    rw [abs_sub_comm, ← hsubval, ← habsval]
    exact hlt.trans htolerance
  · rw [sub_self, abs_zero]
    exact one_pos

theorem scrollTo_heeds (a : Arithmetic) (offset : Scalar) (v : Viewport) (cs : Channels)
    (mine : Subscription) :
    Heeds Viewport.subscribers mine v cs (v.scrollTo a offset cs).1 (v.scrollTo a offset cs).2 := by
  rw [scrollTo]
  dsimp only
  split
  · exact Heeds.refl _ _ _ _
  · exact heeds_broadcast Viewport.subscribers (.scroll (v.clampOffset a offset)) rfl mine

theorem resize_frame (a : Arithmetic) (terminalHeight : Nat) (v : Viewport) (cs : Channels) :
    (v.resize a terminalHeight cs).1.height = terminalHeight - v.reserved ∧
      (v.resize a terminalHeight cs).1.reserved = v.reserved ∧
      (v.resize a terminalHeight cs).1.content = v.content := by
  rw [resize]
  dsimp only
  split
  · rename_i hsame
    exact ⟨hsame.symm, rfl, rfl⟩
  · exact scrollTo_frame _ _ _ _

theorem resize_proper (h : v.Proper) {terminalHeight : Nat} (hfits : terminalHeight ≤ maxCell)
    (cs : Channels) : (v.resize .exact terminalHeight cs).1.Proper := by
  rw [resize]
  dsimp only
  split
  · exact h
  · apply scrollTo_proper
    exact ⟨h.offset, h.nonneg, h.content, Nat.le_trans (Nat.sub_le _ _) hfits⟩

theorem resize_heeds (a : Arithmetic) (terminalHeight : Nat) (v : Viewport) (cs : Channels)
    (mine : Subscription) :
    Heeds Viewport.subscribers mine v cs (v.resize a terminalHeight cs).1
      (v.resize a terminalHeight cs).2 := by
  rw [resize]
  dsimp only
  split
  · exact Heeds.refl _ _ _ _
  · exact (heeds_broadcast Viewport.subscribers (.resize (.ofNat a (terminalHeight - v.reserved)))
      rfl mine).trans (scrollTo_heeds a _ _ _ mine)

theorem setContent_exact {extent : Scalar} (h : v.Proper) (hextent : extent.isFinite = true) :
    (v.setContent .exact extent).Proper ∧
      (v.setContent .exact extent).offset.toRat =
        min v.offset.toRat (max (extent.toRat - v.height) 0) := by
  obtain ⟨hmax, hmaxval⟩ := maxOffset_exact (v := { v with content := extent }) hextent
  rw [setContent]
  dsimp only
  split
  · -- the content ends sooner than the viewport, which scrolls back
    rename_i hpast
    have hlt := (Scalar.lt_iff hmax h.offset).1 hpast
    refine ⟨⟨hmax, ?_, hextent, h.height⟩, ?_⟩
    · rw [hmaxval]
      exact le_max_right _ _
    · rw [hmaxval] at hlt ⊢
      exact (min_eq_right hlt.le).symm
  · rename_i hpast
    have hle := not_lt.1 (mt (Scalar.lt_iff hmax h.offset).2 hpast)
    refine ⟨⟨h.offset, h.nonneg, hextent, h.height⟩, ?_⟩
    rw [hmaxval] at hle
    exact (min_eq_left hle).symm

theorem setContent_frame (a : Arithmetic) (extent : Scalar) (v : Viewport) :
    (v.setContent a extent).subscribers = v.subscribers ∧
      (v.setContent a extent).height = v.height ∧
      (v.setContent a extent).reserved = v.reserved ∧
      (v.setContent a extent).content = extent := by
  rw [setContent]
  dsimp only
  split
  · exact ⟨rfl, rfl, rfl, rfl⟩
  · exact ⟨rfl, rfl, rfl, rfl⟩

theorem geometry_eq {v v' : Viewport} (hoffset : v'.offset = v.offset)
    (hheight : v'.height = v.height) : Container.geometry v' = Container.geometry v := by
  show Geometry.sample v'.offset (.rat v'.height) = Geometry.sample v.offset (.rat v.height)
  rw [hoffset, hheight]

theorem visibleRange_eq (h : v.Proper) {e : Rat} (he : 0 < e) (count overscan : Nat) :
    visibleRange .exact (Container.geometry v) (.rat e) count overscan =
      .ok (neededRange v.offset.toRat v.height e count overscan) := by
  show visibleRange .exact (Geometry.sample v.offset (.rat v.height)) _ _ _ = _
  rw [visibleRange_exact h.offset rfl he, max_eq_left h.nonneg, Scalar.toRat_rat,
    max_eq_left (Nat.cast_nonneg v.height)]

/-- In exact arithmetic a viewport is faithful to whoever watches it. -/
theorem faithful : Faithful .exact Viewport.subscribers Viewport.Proper where
  subscribe := fun _ _ h => ⟨⟨h.offset, h.nonneg, h.content, h.height⟩, rfl, rfl⟩
  scroll := fun offset v cs h => ⟨scrollTo_proper h offset cs, scrollTo_heeds .exact offset v cs⟩
  content := by
    intro v count extent h hextent
    obtain ⟨e, he, rfl⟩ := Scalar.isExtent_iff.1 hextent
    obtain ⟨htotal, htotalval⟩ := Scalar.mul_exact (x := .rat count) (y := .rat e) rfl rfl
    obtain ⟨hproper, hoffset⟩ := setContent_exact h htotal
    obtain ⟨hsubs, hheight, _⟩ :=
      setContent_frame .exact (Scalar.mul .exact (.rat count) (.rat e)) v
    refine ⟨hproper, hsubs, fun overscan => ?_⟩
    have hafter := visibleRange_eq hproper he count overscan
    rw [hoffset, hheight, htotalval, Scalar.toRat_rat, Scalar.toRat_rat, ← reachedOffset,
      neededRange_clamped] at hafter
    exact hafter.trans (visibleRange_eq h he count overscan).symm

end Viewport

/-! ## Navigation -/

/-- Screens that a terminal can report. -/
def InputEvent.Fits : InputEvent → Prop
  | .resize _ height => height ≤ maxCell
  | _ => True

variable {σ : Type}

/-- What happens to a viewport from outside, in exact arithmetic. The state of the caller's
functions may change as well. -/
inductive Navigates (w : World Viewport σ) : World Viewport σ → Prop where
  | scrollTo (offset : Scalar) :
      Navigates w
        { w with
          container := (w.container.scrollTo .exact offset w.channels).1
          channels := (w.container.scrollTo .exact offset w.channels).2 }
  | scrollBy (lines : Scalar) :
      Navigates w
        { w with
          container := (w.container.scrollBy .exact lines w.channels).1
          channels := (w.container.scrollBy .exact lines w.channels).2 }
  | resize (terminalHeight : Nat) : terminalHeight ≤ maxCell →
      Navigates w
        { w with
          container := (w.container.resize .exact terminalHeight w.channels).1
          channels := (w.container.resize .exact terminalHeight w.channels).2 }
  | apply {event : InputEvent} {v : Viewport} {cs : Channels} : event.Fits →
      w.container.apply .exact event w.channels = some (v, cs) →
      Navigates w { w with container := v, channels := cs }
  | caller (c : σ) : Navigates w { w with caller := c }

/-- A viewport that was made for a terminal and navigated. -/
def Navigated (w : World Viewport σ) : Prop :=
  ∃ (w₀ : World Viewport σ) (terminalHeight reserved : Nat), terminalHeight ≤ maxCell ∧
    w₀.container = .ofTerminal terminalHeight reserved ∧ Relation.ReflTransGen Navigates w₀ w

theorem apply_cases {a : Arithmetic} {v v' : Viewport} {cs cs' : Channels} {event : InputEvent}
    (h : v.apply a event cs = some (v', cs')) :
    (∃ offset, (∀ width height, event ≠ .resize width height) ∧
      (v', cs') = v.scrollTo a offset cs) ∨
      ∃ width height, event = .resize width height ∧ (v', cs') = v.resize a height cs := by
  cases event with
  | key key held =>
    left
    simp only [Viewport.apply] at h
    unfold Viewport.applyKey at h
    split at h
    all_goals first
      | exact ⟨_, by simp, (Option.some.inj h).symm⟩
      | cases h
  | wheel notches => exact .inl ⟨_, by simp, (Option.some.inj h).symm⟩
  | resize width height => exact .inr ⟨width, height, rfl, (Option.some.inj h).symm⟩
  | failure text => cases h
  | shutdown => cases h

/-- Navigation keeps a viewport proper and passes no subscription by. -/
theorem Navigates.spec {w w' : World Viewport σ} (h : Navigates w w')
    (hproper : w.container.Proper) :
    w'.container.Proper ∧ ∀ mine,
      Heeds Viewport.subscribers mine w.container w.channels w'.container w'.channels := by
  cases h with
  | scrollTo offset =>
    exact ⟨Viewport.scrollTo_proper hproper _ _, Viewport.scrollTo_heeds _ _ _ _⟩
  | scrollBy lines =>
    exact ⟨Viewport.scrollTo_proper hproper _ _, Viewport.scrollTo_heeds _ _ _ _⟩
  | resize terminalHeight hfits =>
    exact ⟨Viewport.resize_proper hproper hfits _, Viewport.resize_heeds _ _ _ _⟩
  | @apply event v cs hfits happly =>
    rcases apply_cases happly with ⟨offset, _, heq⟩ | ⟨width, height, rfl, heq⟩
    · obtain ⟨rfl, rfl⟩ := Prod.mk.inj heq
      exact ⟨Viewport.scrollTo_proper hproper _ _, Viewport.scrollTo_heeds _ _ _ _⟩
    · obtain ⟨rfl, rfl⟩ := Prod.mk.inj heq
      exact ⟨Viewport.resize_proper hproper hfits _, Viewport.resize_heeds _ _ _ _⟩
  | caller c => exact ⟨hproper, fun mine => Heeds.refl _ _ _ _⟩

theorem Navigates.content {w w' : World Viewport σ} (h : Navigates w w') :
    w'.container.content = w.container.content := by
  cases h with
  | scrollTo offset => exact (Viewport.scrollTo_frame _ _ _ _).2.2
  | scrollBy lines => exact (Viewport.scrollTo_frame _ _ _ _).2.2
  | resize terminalHeight _ => exact (Viewport.resize_frame _ _ _ _).2.2
  | @apply event v cs _ happly =>
    rcases apply_cases happly with ⟨offset, _, heq⟩ | ⟨width, height, rfl, heq⟩
    · obtain ⟨rfl, rfl⟩ := Prod.mk.inj heq
      exact (Viewport.scrollTo_frame _ _ _ _).2.2
    · obtain ⟨rfl, rfl⟩ := Prod.mk.inj heq
      exact (Viewport.resize_frame _ _ _ _).2.2
  | caller c => rfl

theorem Navigated.proper {w : World Viewport σ} (h : Navigated w) : w.container.Proper := by
  obtain ⟨w₀, terminalHeight, reserved, hfits, hstart, hrun⟩ := h
  induction hrun with
  | refl =>
    rw [hstart]
    exact ⟨rfl, le_refl 0, rfl, Nat.le_trans (Nat.sub_le _ _) hfits⟩
  | tail _ hlast ih => exact (hlast.spec ih).1

end Screen

end ListWindow
