import ListWindow.Proofs.Content
import ListWindow.Proofs.UpToDate

/-!
Scrolling to an item brings it into the window. The area may stop short of where it is asked to go,
because the content ends there or because it is as good as there already, and then nobody is told
and no pass follows. But it stops within the extent of an item of the offset that counts
(`neededRange_near`), so the item is in the range of the geometry that is left, and after a flush
the window has that range, whether or not it ran a pass for it (`Scene.Watching.flushed`).
`scrollToIndex_lands` proves it over a plain scroll area that many share and over the viewport of a
terminal whose items are whole lines.
-/
namespace ListWindow

variable {κ σ α ε : Type}

/-- Where the offset that counts is closer than an item to the one that counts for the top of an
item, the range has this item, whatever the viewport and the margin are. -/
theorem neededRange_near {offset height extent : Rat} {count item : Nat} (hextent : 0 < extent)
    (hoffset : 0 ≤ offset) (hheight : 0 ≤ height) (hfits : count ≤ maxIndex) (hitem : item < count)
    (hnear : |reachedOffset offset height extent count -
      reachedOffset (item * extent) height extent count| < extent) (overscan : Nat) :
    (neededRange offset height extent count overscan).contains item = true := by
  obtain ⟨hlow, hhigh⟩ := abs_lt.1 hnear
  have hmargin : 0 ≤ (overscan : Rat) * extent := mul_nonneg (Nat.cast_nonneg _) hextent.le
  have htop : reachedOffset (item * extent) height extent count ≤ item * extent := min_le_left _ _
  -- the viewport at the offset for the item ends below its top, or where the content does
  have hend : item * extent ≤ reachedOffset (item * extent) height extent count + height := by
    have hitem' : (item : Rat) * extent ≤ count * extent :=
      mul_le_mul_of_nonneg_right (by exact_mod_cast hitem.le) hextent.le
    have hroom : count * extent ≤ max (count * extent - height) 0 + height :=
      sub_le_iff_le_add.1 (le_max_left _ _)
    rw [reachedOffset, min_add]
    exact le_min (le_add_of_nonneg_right hheight) (hitem'.trans hroom)
  rw [neededRange_contains_iff hextent hoffset hheight hfits]
  exact ⟨hitem, by linarith, .inl (by linarith)⟩

theorem visibleRange_geometry [Container κ] (c : κ) {e : Rat} (he : 0 < e) (count overscan : Nat) :
    visibleRange .exact (Container.geometry c) (.rat e) count overscan =
      .ok (neededRange (max (Container.scrollOffset c).toRat 0)
        (max (Container.viewportExtent c).toRat 0) e count overscan) := by
  rw [Container.geometry, ← visibleRange_sample, visibleRange_reads _ he]

/-- The offset that counts is closer than an item to the one that counts for the top of an item. -/
def Container.Nears [Container κ] (c : κ) (extent : Rat) (count item : Nat) : Prop :=
  let height := max (viewportExtent c).toRat 0
  |reachedOffset (max (scrollOffset c).toRat 0) height extent count -
    reachedOffset (item * extent) height extent count| < extent

namespace Scene

variable [Container κ] {a : Arithmetic} {subs : κ → Subscribers} {Good : κ → Prop}
  {cb : Callbacks σ α ε} {s : Scene κ σ α ε}

/-- After a flush the window has the range that the geometry before it asks for: either the flush
has run a pass, or nothing has been waiting. -/
theorem Effect.flush_needed {now : Instant} {answer : Answer} {s' : Scene κ σ α ε}
    (h : Effect a cb s (.flush now) answer s') (hs : s.Watching a subs Good) :
    visibleRange a (Container.geometry s.world.container) s.window.itemExtent s.window.items.size
      s.window.config.overscan = .ok s'.window.range := by
  cases h with
  | passes _ _ range p _ _ hrange _ _ _ => exact hrange
  | waits _ now hwhen =>
    obtain ⟨hpump, _⟩ | ⟨_, hidle⟩ := hwhen
    · cases hpump
    · rw [hasPending_collected, Bool.or_eq_false_iff, Bool.not_eq_false', List.isEmpty_iff] at hidle
      rw [collectEvents_eq]
      exact hs.abreast ⟨hidle.2, hidle.1⟩

theorem Watching.flushed (h : s.Watching a subs Good) (hs : s.window.Consistent a) (hcb : cb.Total)
    (hlive : s.window.isDestroyed = false) (now : Instant) :
    (∃ stats, (s.flush a cb now).1 = .ok stats) ∧ (s.flush a cb now).2.window.Consistent a ∧
      visibleRange a (Container.geometry s.world.container) s.window.itemExtent
        s.window.items.size s.window.config.overscan = .ok (s.flush a cb now).2.window.range := by
  have heffect := perform_effect (a := a) hlive hs.pos hs.bounded (.flush now) trivial (.inl hcb)
  have hfault := heffect.faultless
  have hconsistent := heffect.consistent trivial hs
  have hneeded := heffect.flush_needed h
  simp only [perform] at hfault hconsistent hneeded
  refine ⟨?_, hconsistent, hneeded⟩
  rcases hflush : (s.flush a cb now).1 with fault | stats
  · rw [hflush] at hfault
    cases hfault
  · exact ⟨stats, rfl⟩

/-- Scrolling to an item and a flush bring the item, or the last one before it, into the range, and
it has an element there. -/
def Lands (cb : Callbacks σ α ε) (index : Nat) (now : Instant) (s : Scene κ σ α ε) : Prop :=
  let flushed := (s.scrollToIndex .exact index).2.flush .exact cb now
  let item := min index (s.window.items.size - 1)
  (∃ stats, flushed.1 = .ok stats) ∧ flushed.2.window.range.contains item = true ∧
    flushed.2.window.registry.contains item = true

/-- A window lands on an item where the area comes near to it. -/
theorem Watching.lands {s : Scene κ σ α ε} (h : s.Watching .exact subs Good)
    (hfaithful : Faithful .exact subs Good) (hs : s.window.Consistent .exact) (hcb : cb.Total)
    (hlive : s.window.isDestroyed = false) (hitems : s.window.items.size ≠ 0) {e : Rat} (he : 0 < e)
    (hextent : s.window.itemExtent = .rat e)
    (hnears : ∀ item < s.window.items.size,
      Container.Nears (Container.setScrollOffset .exact (Scalar.mul .exact (.rat item) (.rat e))
        s.world.container s.world.channels).1 e s.window.items.size item)
    (index : Nat) (now : Instant) : s.Lands cb index now := by
  have heffect : Effect .exact cb s (.scrollToIndex index) _ (s.scrollToIndex .exact index).2 :=
    .scrolls index
  have hwindow := scrollToIndex_window .exact index s
  have hscrolled := (heffect.watching hfaithful hs (by rw [hwindow]; exact hlive) h).1
  obtain ⟨hdone, hconsistent, hneeded⟩ := hscrolled.flushed (by rw [hwindow]; exact hs) hcb
    (by rw [hwindow]; exact hlive) now
  have hbelow : min index (s.window.items.size - 1) < s.window.items.size := by omega
  have hmoved : (s.scrollToIndex .exact index).2.world.container =
      (Container.setScrollOffset .exact
        (Scalar.mul .exact (.rat (min index (s.window.items.size - 1) : Nat)) (.rat e))
        s.world.container s.world.channels).1 := by
    rw [scrollToIndex, hlive, hextent]
    rfl
  rw [hwindow, hextent, visibleRange_geometry _ he] at hneeded
  have hcontains : ((s.scrollToIndex .exact index).2.flush .exact cb now).2.window.range.contains
      (min index (s.window.items.size - 1)) = true := by
    rw [← Except.ok.inj hneeded]
    refine neededRange_near he (le_max_right _ _) (le_max_right _ _) hs.bounded hbelow ?_ _
    rw [hmoved]
    exact hnears _ hbelow
  exact ⟨hdone, hcontains, (hconsistent.contains_eq _).trans hcontains⟩

end Scene

theorem ScrollArea.nears {e : Rat} (he : 0 < e) (count item : Nat) (c : ScrollArea)
    (cs : Channels) :
    Container.Nears (Container.setScrollOffset .exact (Scalar.mul .exact (.rat item) (.rat e)) c
      cs).1 e count item := by
  have hoffset : (Container.scrollOffset (Container.setScrollOffset .exact
      (Scalar.mul .exact (.rat item) (.rat e)) c cs).1).toRat = item * e :=
    (Scalar.mul_exact (x := .rat item) (y := .rat e) rfl rfl).2
  have htop : 0 ≤ (item : Rat) * e := mul_nonneg (Nat.cast_nonneg _) he.le
  rw [Container.Nears, hoffset, max_eq_left htop, sub_self, abs_zero]
  exact he

theorem Screen.Viewport.nears_of_line {v : Screen.Viewport} (h : v.Proper) {lines : Nat}
    (hlines : 1 ≤ lines) {count item : Nat}
    (hnear : |v.offset.toRat - reachedOffset (item * lines) v.height lines count| < 1) :
    Container.Nears v lines count item := by
  show |reachedOffset (max v.offset.toRat 0) (max (v.height : Rat) 0) lines count -
    reachedOffset (item * lines) (max (v.height : Rat) 0) lines count| < lines
  rw [max_eq_left h.nonneg, max_eq_left (Nat.cast_nonneg _)]
  -- the offset that counts moves no further than the offset
  calc |reachedOffset v.offset.toRat v.height lines count -
        reachedOffset (item * lines) v.height lines count|
      = |reachedOffset v.offset.toRat v.height lines count -
          reachedOffset (reachedOffset (item * lines) v.height lines count) v.height lines
            count| := by
        rw [reachedOffset_reached]
    _ ≤ |v.offset.toRat - reachedOffset (item * lines) v.height lines count| :=
        abs_inf_sub_inf_le_abs _ _ _
    _ < 1 := hnear
    _ ≤ lines := by exact_mod_cast hlines

/-- The viewport of a terminal that knows how large the content is comes near to every item that is
whole lines high. -/
theorem Screen.Viewport.nears {v : Screen.Viewport} (h : v.Proper) {lines : Nat}
    (hlines : 1 ≤ lines) {count : Nat} (hcontent : v.content.toRat = count * lines) (item : Nat)
    (cs : Channels) :
    Container.Nears (Container.setScrollOffset .exact (Scalar.mul .exact (.rat item) (.rat lines)) v
      cs).1 lines count item := by
  obtain ⟨_, htop⟩ := Scalar.mul_exact (x := .rat item) (y := .rat lines) rfl rfl
  rw [Scalar.toRat_rat, Scalar.toRat_rat] at htop
  have hnonneg : 0 ≤ (item : Rat) * lines := mul_nonneg (Nat.cast_nonneg _) (Nat.cast_nonneg _)
  have hnear := scrollTo_near h (htop ▸ hnonneg) cs
  rw [htop, hcontent] at hnear
  refine nears_of_line (scrollTo_proper h _ cs) hlines ?_
  rw [(scrollTo_frame _ _ _ _).1]
  exact hnear

theorem Screen.Viewport.remembers (a : Arithmetic) :
    Remembers a fun v : Screen.Viewport => some v.content where
  content := fun extent v => congrArg some (setContent_frame a extent v).2.2.2
  scroll := fun offset v cs => congrArg some (scrollTo_frame a offset v cs).2.2

/-- Scrolling to any index and a flush bring the item there, or the last one before it, into the
window, whatever waits for the window and whether or not the flush runs a pass. In exact arithmetic
this holds of a live window that has items and whose functions never give up: for every extent of
the items over a plain scroll area, which any number of windows and listeners may share that come
and go under at most `2 ^ 32` subscriptions, and for items that are whole lines high over the
viewport of a terminal that is navigated in any way. The viewport and the margin may be of any size,
also zero. -/
theorem scrollToIndex_lands :
    (∀ {σ : Type} (E : Ensemble σ) (k : Nat) (res : Resident σ),
      E.Reachable .exact → E.windows k = some res → res.cb.Total →
      res.window.isDestroyed = false → res.window.items.size ≠ 0 →
      ∀ index now, (res.scene E.world).Lands res.cb index now) ∧
    ∀ {σ α ε : Type} (cb : Callbacks σ α ε) (s : Scene Screen.Viewport σ α ε) (lines : Nat),
      Reachable .exact cb Screen.Navigated Screen.Navigates s → cb.Total →
      s.window.isDestroyed = false → s.window.items.size ≠ 0 →
      1 ≤ lines → s.window.itemExtent = .rat lines →
      ∀ index now, s.Lands cb index now := by
  constructor
  · intro σ E k res hE hk hcb hlive hitems index now
    obtain ⟨hs, hwatching⟩ := hE.sound.watching k res hk hcb hlive
    obtain ⟨e, he, hextent⟩ := Scalar.isExtent_iff.1 hs.extent
    exact hwatching.lands (ScrollArea.faithful .exact) hs hcb hlive hitems he hextent
      (fun item _ => ScrollArea.nears he _ item _ _) index now
  · intro σ α ε cb s lines hreach hcb hlive hitems hlines hextent index now
    obtain ⟨hs, hwatching⟩ := (hreach.watches hcb).live hlive
    have hcontent : s.world.container.content = s.window.totalExtent .exact := by
      refine Option.some.inj (hreach.tells (Screen.Viewport.remembers .exact) ?_ hlive)
      exact fun w w' hw => congrArg some hw.content
    have htotal : s.world.container.content.toRat = s.window.items.size * lines := by
      rw [hcontent, Window.totalExtent, hextent]
      exact (Scalar.mul_exact (x := .rat _) (y := .rat _) rfl rfl).2
    exact hwatching.lands Screen.Viewport.faithful hs hcb hlive hitems
      (Nat.cast_pos.2 hlines) hextent
      (fun item _ => Screen.Viewport.nears hwatching.good hlines htotal item _) index now

/-- Asked for the sixth of three numbers, a window lands on the last one: over a plain scroll area
two lines high that has been moved since, and over the viewport of a terminal that shows all three.
-/
theorem scrollToIndex_lands_copying :
    (∃ (E : Ensemble Unit) (res : Resident Unit), E.Reachable .exact ∧
      E.windows 0 = some res ∧ (res.scene E.world).Lands res.cb 5 0) ∧
    ∃ s : Scene Screen.Viewport Unit Nat Nat,
      Reachable .exact .copying Screen.Navigated Screen.Navigates s ∧ s.Lands .copying 5 0 := by
  constructor
  · obtain ⟨E, window, ⟨w, hw, hrun⟩, hwindow, hlive, hitems⟩ :=
      Ensemble.reachable_copying .exact
        (w := { container := { extent := 2 }, channels := #[], caller := () }) rfl
    have hreach : Ensemble.Reachable .exact { E with world := _ } :=
      ⟨w, hw, hrun.tail (.act (.scroll 1))⟩
    have hsize : window.items.size ≠ 0 := by
      rw [hitems]
      decide
    exact ⟨_, _, hreach, hwindow,
      scrollToIndex_lands.1 _ 0 _ hreach hwindow Callbacks.copying_total hlive hsize 5 0⟩
  · have hthree : (Builder.copying #[4, 5, 6]).items.size ≤ maxIndex := by decide
    let w : World Screen.Viewport Unit :=
      { container := .ofTerminal 24 2, channels := #[], caller := () }
    obtain ⟨s, hs, _, hitems, hextent⟩ :=
      Builder.build_total .exact (Builder.copying_parts _) hthree Callbacks.copying_total w
    have hnavigated : Screen.Navigated w := ⟨w, 24, 2, by decide, rfl, .refl⟩
    have hbuilt : Built .exact .copying Screen.Navigated s :=
      ⟨_, w, hnavigated, hthree, ⟨_, Builder.copying_parts _⟩, hs⟩
    have hreach : Reachable .exact .copying Screen.Navigated Screen.Navigates s :=
      ⟨s, hbuilt, .refl⟩
    exact ⟨s, hreach, scrollToIndex_lands.2 .copying s 1 hreach Callbacks.copying_total hbuilt.live
      (by rw [hitems]; decide) le_rfl (hextent.trans (by decide +kernel)) 5 0⟩

end ListWindow
