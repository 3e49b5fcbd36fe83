import ListWindow.Demo.Browser
import ListWindow.Proofs.Lines

/-!
The window of a browser. However a browser is used, as far as a terminal allows, and at whatever
time it looks for changes, nothing it does breaks off, its viewport stands at the start of a line,
and two lines of the screen are left to header and status line (`Browser.Steady`).
-/
namespace ListWindow.Demo

open ListWindow.Screen

namespace Browser

/-! ## The window at the start -/

theorem callbacks_total : callbacks.Total where
  create := fun _ c index => ⟨rowOf index c, rfl⟩
  update := by
    intro u hu
    obtain rfl := Option.some.inj hu
    exact fun _ _ _ _ => rfl

theorem callbacks_shows : callbacks.Shows id fun c index => rowOf index c where
  create := fun _ _ _ _ hrow => (Option.some.inj hrow).symm
  update := by
    intro u hu _ row old c index hrow _
    obtain rfl := Option.some.inj hu
    obtain rfl : row = rowOf index old := hrow
    rfl

theorem size_customers (count : Nat) : (customers count).size = count := by
  simp [customers]

theorem builder_size : builder.items.size = customerCount := by
  simp only [builder, size_customers]

theorem builder_parts : builder.parts = .ok (seeded { text := columns.header }, callbacks) := by
  have hvalid : Config.validate { overscan := 8 } = .ok () := by decide +kernel
  rw [Builder.parts, show builder.config.validate = .ok () from hvalid]
  rfl

theorem builder_extent :
    (ExtentEstimator.measure { extent := builder.config.itemExtent } builder.sample).extent =
      1 := by
  have hmeasured : (ExtentEstimator.measure { extent := 50 }
      (some (Scalar.ofNat .binary64 1))).extent = 1 := by decide +kernel
  exact hmeasured

/-- What holds of the window of a browser on a terminal of the given height. -/
structure Steady (height : Nat) (s : Scene Viewport Unit Customer Row) : Prop where
  fits : height ≤ maxCell
  reach : Reachable .binary64 callbacks anywhere anything s
  live : s.window.isDestroyed = false
  extent : s.window.itemExtent = 1
  size : s.window.items.size ≤ customerCount
  line : s.world.container.AtLine customerCount
  lines : s.world.container.height = height - 2
  reserved : s.world.container.reserved = 2

/-- A window at the top of all customers, whose last pass has seen the viewport as it is. -/
structure Begins (s : Scene Viewport Unit Customer Row) : Prop where
  top : s.world.container.offset = 0
  seen : s.window.geometry = Container.geometry s.world.container
  size : s.window.items.size = customerCount

def size (b : Browser) : Nat × Nat := (b.width, b.height)

/-- The window of a browser is steady. -/
def Sound (b : Browser) : Prop := Steady b.height b.scene

/-- The size of the screen once an event is reported. -/
def screenAfter (size : Nat × Nat) : InputEvent → Nat × Nat
  | .resize width height => (width, height)
  | _ => size

theorem screenAfter_same {event : InputEvent} (h : ∀ width height, event ≠ .resize width height)
    (size : Nat × Nat) : screenAfter size event = size := by
  cases event with
  | resize width height => exact absurd rfl (h width height)
  | _ => rfl

theorem room : customerCount + 2 ^ 17 ≤ 2 ^ 53 - 1 ∧ customerCount + maxCell ≤ 2 ^ 53 - 1 ∧
    2 * customerCount + maxCell + 2 ≤ 2 ^ 53 - 1 := by
  decide

theorem ofTerminal_atLine {height : Nat} (hfits : height ≤ maxCell) (reserved limit : Nat) :
    (Viewport.ofTerminal height reserved).AtLine limit where
  offset := ⟨0, Nat.zero_le _, Scalar.IsWhole.zero⟩
  content := ⟨0, Nat.zero_le _, Scalar.IsWhole.zero⟩
  height := (Nat.sub_le _ _).trans hfits

theorem total_lines {w : Window Customer Row} (hextent : w.itemExtent = 1)
    (hsize : w.items.size ≤ customerCount) :
    (w.totalExtent .binary64).IsWhole w.items.size := by
  have hroom := room.1
  exact Window.totalExtent_whole Arithmetic.holds_binary64 hextent (by omega)

/-- A browser can be opened on any screen, and is to be drawn there from the beginning. -/
theorem start_sound (width : Nat) {height : Nat} (hfits : height ≤ maxCell) :
    ∃ b, Browser.start width height = .ok (some b) ∧ b.size = (width, height) ∧
      b.changed = true ∧ b.Sound ∧ Begins b.scene := by
  have hindex : builder.items.size ≤ maxIndex := by
    rw [builder_size]
    decide
  obtain ⟨s, hs, _, hitems, hextent⟩ := Builder.build_total .binary64 builder_parts hindex
    callbacks_total ⟨Viewport.ofTerminal height 2, #[], ()⟩
  have hbuilt : Built .binary64 callbacks (·.container = Viewport.ofTerminal height 2) s :=
    ⟨builder, _, rfl, hindex, ⟨_, builder_parts⟩, hs⟩
  have hbuilt' : Built .binary64 callbacks anywhere s :=
    ⟨builder, _, trivial, hindex, ⟨_, builder_parts⟩, hs⟩
  have hextent' : s.window.itemExtent = 1 := hextent.trans builder_extent
  have hsize : s.window.items.size = customerCount := by rw [hitems, builder_size]
  -- the viewport has been told how many lines there are, and does nothing else about it
  obtain ⟨w, channel, hw, hgeometry, hcontainer⟩ := hbuilt.container
  rw [hw] at hgeometry hcontainer
  obtain ⟨_, hlines, hreserved, _⟩ := Viewport.setContent_frame .binary64
    (s.window.totalExtent .binary64) (Container.subscribe channel (Viewport.ofTerminal height 2)).1
  have hline : (Container.subscribe channel (Viewport.ofTerminal height 2)).1.AtLine
      customerCount := by
    obtain ⟨hoffset, hcontent, hheight⟩ := ofTerminal_atLine hfits 2 customerCount
    exact ⟨hoffset, hcontent, hheight⟩
  have htotal := total_lines hextent' hsize.le
  have htop := hline.setContent_top Arithmetic.holds_binary64 room.2.1 hsize.le htotal rfl
  refine ⟨{ scene := s, width, height }, by rw [start, hs, opened], rfl, rfl, ?_, ?_⟩
  · refine ⟨hfits, ⟨s, hbuilt', .refl⟩, hbuilt'.live, hextent', hsize.le, ?_, ?_, ?_⟩
    · rw [hcontainer]
      exact hline.setContent Arithmetic.holds_binary64 room.2.1 hsize.le htotal
    · rw [hcontainer]
      exact hlines
    · rw [hcontainer]
      exact hreserved
  · refine ⟨(congrArg Viewport.offset hcontainer).trans htop, ?_, hsize⟩
    rw [hcontainer, hgeometry]
    exact (Viewport.geometry_eq htop hlines).symm

/-! ## What is done to it -/

namespace Steady

variable {height : Nat} {s : Scene Viewport Unit Customer Row}

/-- What is asked of the window does not break off, and keeps it so. -/
theorem ask (h : Steady height s) {r : Request Customer} (hr : r ≠ .destroy) (hfits : r.Fits)
    (hsize : (r.staged s.window).items.size ≤ customerCount) :
    (s.perform .binary64 callbacks r).1.fault? = none ∧
      Steady height (s.perform .binary64 callbacks r).2 := by
  have hs := h.reach.consistent
  have heffect := Scene.perform_effect (a := .binary64) h.live hs.pos hs.bounded r hfits
    (.inl callbacks_total)
  have hlive := heffect.live h.live hr
  have hsize' : (s.perform .binary64 callbacks r).2.window.items.size ≤ customerCount := by
    rw [heffect.items hlive]
    exact hsize
  have hok : s.Unbroken .binary64 callbacks r :=
    Scene.unbroken_of_total callbacks_total h.live hs.pos hs.bounded hfits
  obtain ⟨hline, hlines, hreserved⟩ := AtLine.effect Arithmetic.holds_binary64 room.2.1 heffect
    hlive h.extent h.size hsize' h.line
  exact ⟨heffect.faultless,
    { fits := h.fits
      reach := h.reach.step (.ask r hfits hok)
      live := hlive
      extent := heffect.extent.trans h.extent
      size := hsize'
      line := hline
      lines := hlines.trans h.lines
      reserved := hreserved.trans h.reserved }⟩

theorem navigate {size : Nat × Nat} (h : Steady size.2 s) {event : InputEvent}
    (hreported : event.Reported) {v : Viewport} {cs : Channels}
    (happly : s.world.container.apply .binary64 event s.world.channels = some (v, cs)) :
    Steady (screenAfter size event).2
      { s with world := { s.world with container := v, channels := cs } } := by
  have hline := h.line.apply Arithmetic.holds_binary64 room.1 hreported happly
  have hreach : Reachable .binary64 callbacks anywhere anything
      { s with world := { s.world with container := v, channels := cs } } :=
    h.reach.step (.outside trivial)
  rcases apply_cases happly with ⟨offset, hevent, hmoved⟩ | ⟨width, height', rfl, hmoved⟩
  · obtain ⟨rfl, rfl⟩ := Prod.mk.inj hmoved
    obtain ⟨hlines, hreserved, _⟩ :=
      Viewport.scrollTo_frame .binary64 offset s.world.container s.world.channels
    rw [screenAfter_same hevent]
    exact ⟨h.fits, hreach, h.live, h.extent, h.size, hline, hlines.trans h.lines,
      hreserved.trans h.reserved⟩
  · obtain ⟨rfl, rfl⟩ := Prod.mk.inj hmoved
    obtain ⟨hlines, hreserved, _⟩ :=
      Viewport.resize_frame .binary64 height' s.world.container s.world.channels
    rw [h.reserved] at hlines
    exact ⟨hreported, hreach, h.live, h.extent, h.size, hline, hlines, hreserved.trans h.reserved⟩

end Steady

variable {b b' : Browser}

theorem Sound.jump (h : b.Sound) : b.jump.Sound :=
  (Steady.ask h (r := .scrollToIndex (b.scene.window.items.size / 2)) (by simp) trivial h.size).2

theorem Sound.edit (h : b.Sound) : ∃ b', b.edit = .ok b' ∧ b'.Sound ∧ b'.size = b.size := by
  unfold Browser.edit
  rcases b.scene.window.items[b.topIndex]? with _ | customer
  · exact ⟨b, rfl, h, rfl⟩
  · dsimp only
    generalize ({ customer with name := _ } : Customer) = edited
    obtain ⟨hfault, hsteady⟩ := Steady.ask h (r := .updateAt b.topIndex edited) (by simp) trivial
      (by simpa [Request.staged] using h.size)
    simp only [Scene.perform] at hfault hsteady
    generalize b.scene.updateAt .binary64 callbacks b.topIndex edited = done at hfault hsteady ⊢
    obtain ⟨fault | outcome, scene⟩ := done
    · cases hfault
    · exact ⟨_, rfl, hsteady, rfl⟩

theorem Sound.halve (h : b.Sound) : ∃ b', b.halve = .ok b' ∧ b'.Sound ∧ b'.size = b.size := by
  have hcount : max (b.scene.window.items.size / 2) 1 ≤ customerCount := by
    have hsize := h.size
    rw [customerCount] at hsize ⊢
    omega
  obtain ⟨hfault, hsteady⟩ := Steady.ask h
    (r := .setItems b.now (customers (max (b.scene.window.items.size / 2) 1))) (by simp)
    (by
      show (customers _).size ≤ maxIndex
      rw [size_customers]
      exact hcount.trans (by decide))
    (by
      show (customers _).size ≤ customerCount
      rw [size_customers]
      exact hcount)
  unfold Browser.halve
  dsimp only
  simp only [Scene.perform] at hfault hsteady
  generalize b.scene.setItems .binary64 callbacks b.now
    (customers (max (b.scene.window.items.size / 2) 1)) = done at hfault hsteady ⊢
  obtain ⟨fault | stats, scene⟩ := done
  · cases hfault
  · exact ⟨_, rfl, hsteady, rfl⟩

theorem Sound.navigate (h : b.Sound) {event : InputEvent} (hreported : event.Reported) :
    Steady (screenAfter b.size event).2 (b.navigate event).scene := by
  have hsteady : Steady b.size.2 b.scene := h
  unfold Browser.navigate
  dsimp only
  rcases happly : b.scene.world.container.apply .binary64 event b.scene.world.channels with
    _ | ⟨v, cs⟩
  · -- a resize is always acted on
    cases event with
    | resize width height => cases happly
    | _ => exact hsteady
  · exact hsteady.navigate hreported happly

theorem navigate_size (event : InputEvent) (b : Browser) : (b.navigate event).size = b.size := by
  unfold Browser.navigate
  dsimp only
  split
  · rfl
  · rfl

/-- Acting on what a terminal reports does not break off, and leaves a sound browser that knows the
size of the screen. -/
theorem Sound.handle (h : b.Sound) {event : InputEvent} (hreported : event.Reported) :
    ∃ next, b.handle event = .ok next ∧
      ∀ b' ∈ next, b'.Sound ∧ b'.size = screenAfter b.size event := by
  unfold Browser.handle
  split
  · exact ⟨none, rfl, by simp⟩
  · exact ⟨none, rfl, by simp⟩
  · exact ⟨none, rfl, by simp⟩
  · refine ⟨_, rfl, ?_⟩
    rintro b' ⟨rfl⟩
    exact ⟨h.jump, rfl⟩
  · obtain ⟨b', hedit, hb'⟩ := h.edit
    refine ⟨some b', by rw [hedit]; rfl, ?_⟩
    rintro b' ⟨rfl⟩
    exact hb'
  · obtain ⟨b', hhalve, hb'⟩ := h.halve
    refine ⟨some b', by rw [hhalve]; rfl, ?_⟩
    rintro b' ⟨rfl⟩
    exact hb'
  · refine ⟨_, rfl, ?_⟩
    rintro b' ⟨rfl⟩
    exact ⟨h.navigate hreported, rfl⟩
  · rename_i hresize
    have hsize : (b.navigate event).size = screenAfter b.size event :=
      (navigate_size event b).trans (screenAfter_same (fun _ _ => hresize _ _) b.size).symm
    refine ⟨_, rfl, ?_⟩
    rintro b' ⟨rfl⟩
    refine ⟨?_, hsize⟩
    show Steady (b.navigate event).size.2 _
    rw [hsize]
    exact h.navigate hreported

theorem Steady.pump_begins {height : Nat} {s : Scene Viewport Unit Customer Row}
    (h : Steady height s) (hbegins : Begins s) (now : Instant) :
    Begins (s.perform .binary64 callbacks (.pump now)).2 := by
  have hs := h.reach.consistent
  have heffect := Scene.pump_effect (a := .binary64) h.live hs.pos hs.bounded now
    (.inl callbacks_total)
  obtain ⟨_, hsteady⟩ := Steady.ask h (r := .pump now) (by simp) trivial h.size
  generalize s.perform .binary64 callbacks (.pump now) = next at heffect hsteady ⊢
  obtain ⟨answer, s'⟩ := next
  have hsize : s'.window.items.size = customerCount :=
    (congrArg Array.size (heffect.items hsteady.live)).trans hbegins.size
  rcases heffect.pump_cases with ⟨hsame, hgeometry⟩ | ⟨htold, hgeometry⟩
  · refine ⟨(congrArg Viewport.offset hsame).trans hbegins.top, ?_, hsize⟩
    exact hgeometry.trans (hbegins.seen.trans (congrArg Container.geometry hsame.symm))
  · have htop := h.line.setContent_top Arithmetic.holds_binary64 room.2.1 hsteady.size
      (total_lines hsteady.extent hsteady.size) hbegins.top
    obtain ⟨_, hlines, _, _⟩ :=
      Viewport.setContent_frame .binary64 (s'.window.totalExtent .binary64) s.world.container
    refine ⟨(congrArg Viewport.offset htold).trans htop, ?_, hsize⟩
    rw [hgeometry, htold]
    exact (Viewport.geometry_eq (htop.trans hbegins.top.symm) hlines).symm

/-- Looking for changes does not break off, and leaves a sound browser of the same size. -/
theorem Sound.pump (h : b.Sound) :
    ∃ pass scene, b.scene.pump .binary64 callbacks b.now = (.ok pass, scene) ∧
      Steady b.height scene ∧ (Begins b.scene → Begins scene) := by
  obtain ⟨hfault, hsteady⟩ := Steady.ask h (r := .pump b.now) (by simp) trivial h.size
  have hbegins := fun hb : Begins b.scene => Steady.pump_begins h hb b.now
  simp only [Scene.perform] at hfault hsteady hbegins
  generalize b.scene.pump .binary64 callbacks b.now = done at hfault hsteady hbegins ⊢
  obtain ⟨fault | pass, scene⟩ := done
  · cases hfault
  · exact ⟨pass, scene, rfl, hsteady, hbegins⟩

end Browser

end ListWindow.Demo
