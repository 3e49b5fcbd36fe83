import ListWindow.Proofs.Rows
import ListWindow.Proofs.UpToDate

/-!
Drawing the window is drawing everything. A range has every item in sight at any offset within the
margin of the one that it was worked out for (`neededRange_covers`). So a window over the viewport
of a terminal shows what a surface with a row for every item would show, as long as the viewport has
its height and its offset, up to the margin, from the last pass; which it has whenever nothing waits
(`drawing_complete`).
-/
namespace ListWindow

variable {κ σ α ε : Type}

namespace Screen

theorem Viewport.Proper.of_geometry {v v' : Viewport} (h : v.Proper) (h' : v'.Proper)
    (hsame : Container.geometry v' = Container.geometry v) :
    v'.offset.toRat = v.offset.toRat ∧ v'.height = v.height := by
  obtain ⟨hoffset, hheight⟩ := Geometry.mk.inj hsame
  have hread : ∀ {v : Viewport}, v.Proper → v.offset.nonNegative.toRat = v.offset.toRat :=
    fun h => (Scalar.nonNegative_finite h.offset).2.trans (max_eq_left h.nonneg)
  have hlines : ∀ n : Nat, (Scalar.rat n).nonNegative.toRat = n :=
    fun n => (Scalar.nonNegative_finite rfl).2.trans (max_eq_left (Nat.cast_nonneg n))
  constructor
  · rw [← hread h', ← hread h]
    exact congrArg Scalar.toRat hoffset
  · have hcast : (v'.height : Rat) = v.height := by
      rw [← hlines v'.height, ← hlines v.height]
      exact congrArg Scalar.toRat hheight
    exact Nat.cast_inj.1 hcast

end Screen

/-- The viewport shows exactly the rows in sight of the present items, with their lines, as it does
on a surface that has a row for every item. -/
def Scene.ShowsAll (h : Nat) (f : α → Nat → Screen.Row)
    (s : Scene Screen.Viewport σ α Screen.Row) : Prop :=
  let v := s.world.container
  Screen.visibleRows .exact v.offset v.height s.window.surface =
      Screen.rowsInSight v.offset.toRat v.height h s.window.items f ∧
    Screen.visibleRows .exact v.offset v.height s.window.surface =
      Screen.visibleRows .exact v.offset v.height (Screen.fullSurface s.window.items f)

section

variable {cb : Callbacks σ α Screen.Row} {h : Nat} {drawn s : Scene Screen.Viewport σ α Screen.Row}

/-- The range of a window has every item in sight while the viewport has the height of the last pass
and its offset up to the margin, and whenever nothing waits. -/
theorem SincePass.covers (hh : 1 ≤ h) (hcb : cb.Total)
    (hdrawn : JustDrawn .exact cb Screen.Navigated Screen.Navigates drawn)
    (hextent : drawn.window.itemExtent = .rat h)
    (hsince : SincePass .exact cb Screen.Navigates drawn s)
    (hnear : (s.world.container.height = drawn.world.container.height ∧
        |s.world.container.offset.toRat - drawn.world.container.offset.toRat|
          ≤ drawn.window.config.overscan * h) ∨ s.Settled)
    {i : Nat} (hi : i < s.window.items.size) (habove : s.world.container.offset.toRat ≤ i * h)
    (hbelow : (i * h : Rat) < s.world.container.offset.toRat + s.world.container.height) :
    s.window.range.contains i = true := by
  obtain ⟨hwatches, hcurrent⟩ := hdrawn.watches hcb
  obtain ⟨hwatches', hquiet⟩ := hsince.quiet hcb hwatches
  rcases hlive : s.window.isDestroyed with _ | _
  · obtain ⟨hdrawnlive, hsame⟩ := hquiet hlive
    -- where nothing waits the viewport is as the last pass left it
    obtain ⟨hlines, hmargin⟩ : s.world.container.height = drawn.world.container.height ∧
        |s.world.container.offset.toRat - drawn.world.container.offset.toRat|
          ≤ drawn.window.config.overscan * h := by
      rcases hnear with hnear | hsettled
      · exact hnear
      · obtain ⟨hoffset, hlines⟩ :=
          hwatches.proper.of_geometry hwatches'.proper (hsame.settled hsettled).2
        refine ⟨hlines, ?_⟩
        rw [hoffset, sub_self, abs_zero]
        exact mul_nonneg (Nat.cast_nonneg _) (Nat.cast_nonneg _)
    have hpos : (0 : Rat) < h := Nat.cast_pos.2 hh
    have hrange : visibleRange .exact (Container.geometry drawn.world.container)
        drawn.window.itemExtent drawn.window.items.size drawn.window.config.overscan =
        .ok drawn.window.range := (hcurrent hdrawnlive).2
    rw [hextent, Screen.Viewport.visibleRange_eq hwatches.proper hpos] at hrange
    rw [hsame.range, ← Except.ok.inj hrange]
    rw [hsame.size] at hi
    rw [hlines] at hbelow
    exact neededRange_covers hpos hwatches.proper.nonneg (Nat.cast_nonneg _)
      (hwatches.live hdrawnlive).1.bounded hi hmargin habove hbelow
  · -- a destroyed window has no items
    rw [hwatches'.dead hlive] at hi
    exact absurd hi (Nat.not_lt_zero i)

/-- While the viewport has the height of the last pass and its offset up to the margin, and whenever
nothing waits, a window whose functions make rows of one height shows everything. -/
theorem SincePass.showsAll {f : α → Nat → Screen.Row} (hh : 1 ≤ h) (hcb : cb.Total)
    (hshow : cb.Shows id f) (hheight : ∀ item i, (f item i).height = h)
    (hdrawn : JustDrawn .exact cb Screen.Navigated Screen.Navigates drawn)
    (hextent : drawn.window.itemExtent = .rat h)
    (hsince : SincePass .exact cb Screen.Navigates drawn s)
    (hnear : (s.world.container.height = drawn.world.container.height ∧
        |s.world.container.offset.toRat - drawn.world.container.offset.toRat|
          ≤ drawn.window.config.overscan * h) ∨ s.Settled) :
    s.ShowsAll h f := by
  have hproper := (hsince.quiet hcb (hdrawn.watches hcb).1).1.proper
  obtain ⟨hreach, hsame⟩ := hsince.extent hdrawn.reachable
  have hwindow := Screen.visibleRows_window hreach.consistent (hsame.trans hextent) hheight
    (hreach.fresh hshow) hproper.offset hproper.height
    fun i hi habove hbelow => hsince.covers hh hcb hdrawn hextent hnear hi habove hbelow
  have hfull := Screen.visibleRows_full hheight hproper.offset hproper.height s.window.items
  exact ⟨hwindow, hwindow.trans hfull.symm⟩

end

/-- Take a window over the viewport of a terminal whose items have a whole extent and whose
functions make rows of that height and never give up. It shows everything as long as the viewport
has the height of the last pass and its offset up to the margin, and in particular when nothing
waits. -/
theorem drawing_complete {cb : Callbacks σ α Screen.Row} {f : α → Nat → Screen.Row} {h : Nat}
    (hh : 1 ≤ h) (hcb : cb.Total) (hshow : cb.Shows id f)
    (hheight : ∀ item i, (f item i).height = h) :
    (∀ drawn s : Scene Screen.Viewport σ α Screen.Row,
      JustDrawn .exact cb Screen.Navigated Screen.Navigates drawn →
      drawn.window.itemExtent = .rat h → SincePass .exact cb Screen.Navigates drawn s →
      s.world.container.height = drawn.world.container.height →
      |s.world.container.offset.toRat - drawn.world.container.offset.toRat|
        ≤ drawn.window.config.overscan * h →
      s.ShowsAll h f) ∧
    ∀ s : Scene Screen.Viewport σ α Screen.Row,
      Reachable .exact cb Screen.Navigated Screen.Navigates s →
      s.window.itemExtent = .rat h → s.Settled → s.ShowsAll h f := by
  constructor
  · intro drawn s hdrawn hextent hsince hlines hmargin
    exact hsince.showsAll hh hcb hshow hheight hdrawn hextent (.inl ⟨hlines, hmargin⟩)
  · intro s hreach hextent hsettled
    -- there was a last pass, and the extent is the one that it was run with
    obtain ⟨drawn, hdrawn, hsince⟩ := hreach.since_pass
    have hsame := (hsince.extent hdrawn.reachable).2
    exact hsince.showsAll hh hcb hshow hheight hdrawn (hsame.symm.trans hextent) (.inr hsettled)

def Callbacks.printing : Callbacks Unit Nat Screen.Row where
  create := fun _ item _ => ((), some { text := toString item })
  update := some fun _ row item _ => ((), row.replace (toString item) .plain, true)

theorem Callbacks.printing_total : Callbacks.printing.Total where
  create := fun _ item _ => ⟨_, rfl⟩
  update := by
    rintro u ⟨rfl⟩ _ _ _ _
    rfl

theorem Callbacks.printing_shows :
    Callbacks.printing.Shows id fun item _ => { text := toString item } where
  create := by
    rintro _ item _ row ⟨rfl⟩
    rfl
  update := by
    rintro u ⟨rfl⟩ _ _ _ _ _ rfl _
    rfl

/-- A window of lines one high onto some numbers, with a margin of one. -/
def Builder.printing (items : Array Nat) : Builder Unit Nat Screen.Row where
  surface := some {}
  attached := true
  create := some Callbacks.printing.create
  update := Callbacks.printing.update
  items := items
  config := { itemExtent := 1, overscan := 1 }

theorem Builder.printing_parts (items : Array Nat) :
    (Builder.printing items).parts = .ok ({}, .printing) := by
  have hvalid : Config.validate { itemExtent := 1, overscan := 1 } = .ok () := by decide +kernel
  rw [parts, show (printing items).config.validate = .ok () from hvalid]
  rfl

/-- The lower two of three numbers are in sight when a terminal two lines high is scrolled by a line
after they have been drawn, without a pass. -/
theorem drawing_complete_printing :
    ∃ s : Scene Screen.Viewport Unit Nat Screen.Row, Built .exact .printing Screen.Navigated s ∧
      let v := (s.world.container.scrollBy .exact 1 s.world.channels).1
      Screen.visibleRows .exact v.offset v.height s.window.surface =
        [⟨0, 1, { text := "5" }⟩, ⟨1, 2, { text := "6" }⟩] := by
  have hthree : (Builder.printing #[4, 5, 6]).items.size ≤ maxIndex := by decide
  let w : World Screen.Viewport Unit :=
    { container := .ofTerminal 2 0, channels := #[], caller := () }
  obtain ⟨s, hs, _, _, hextent⟩ := Builder.build_total .exact (Builder.printing_parts _) hthree
    Callbacks.printing_total w
  have hnavigated : Screen.Navigated w := ⟨w, 2, 0, by decide, rfl, .refl⟩
  have hbuilt : Built .exact .printing Screen.Navigated s :=
    ⟨_, w, hnavigated, hthree, ⟨_, Builder.printing_parts _⟩, hs⟩
  have hscrolled : SincePass .exact .printing Screen.Navigates s { s with world := _ } :=
    .single (.outside (.scrollBy 1))
  -- the window moves by one line, which is the margin
  let v (w : World Screen.Viewport Unit) := (w.container.scrollBy .exact 1 w.channels).1
  have hworld : ((Builder.printing #[4, 5, 6]).build .exact w).2 = s.world := congrArg Prod.snd hs
  have hoffset : s.world.container.offset = .rat 0 ∧ s.world.container.height = 2 := by
    rw [← hworld]
    decide +kernel
  have hmoved : (v s.world).offset = .rat 1 ∧ (v s.world).height = 2 := by
    rw [← hworld]
    decide +kernel
  have hbuild : (((Builder.printing #[4, 5, 6]).build .exact w).1.toOption.bind
      Except.toOption).map (fun w => (w.items, w.config.overscan)) = some (#[4, 5, 6], 1) := by
    decide +kernel
  rw [hs] at hbuild
  obtain ⟨hitems, hmargin⟩ := Prod.mk.inj (Option.some.inj hbuild)
  have hrows := ((drawing_complete (h := 1) (le_refl 1) Callbacks.printing_total
    Callbacks.printing_shows fun _ _ => rfl).1 s _ (.inl hbuilt) hextent hscrolled ?_ ?_).1
  · refine ⟨s, hbuilt, hrows.trans ?_⟩
    show Screen.rowsInSight (v s.world).offset.toRat (v s.world).height 1 s.window.items _ = _
    rw [hmoved.1, hmoved.2, hitems]
    decide +kernel
  · exact hmoved.2.trans hoffset.2.symm
  · show |(v s.world).offset.toRat - s.world.container.offset.toRat| ≤ _
    rw [hmoved.1, hoffset.1, hmargin]
    decide +kernel

end ListWindow
