import ListWindow.Proofs.Layout
import ListWindow.Proofs.Simulation

/-!
What a window tells its scroll area. A request moves the area, tells it the extent of all items, or
leaves it as it is (`Scene.Effect.container_cases`). So an area that remembers what it was last told
remembers the extent of all items of a live window, whatever is asked of it (`Reachable.tells`).

`Noting` is a scroll area with a note of the content extent that it was last told. A window cannot
tell it from the area alone (`Noting.simulation`), so every run over an area is one over the area
with a note as well (`Reachable.noted`), and there the note is that extent (`Reachable.told`).
`Reachable.laid_out` puts this together with where the elements stand.
-/
namespace ListWindow

variable {κ σ α ε : Type}

section

variable [Container κ] {a : Arithmetic} {cb : Callbacks σ α ε} {start : World κ σ → Prop}
  {outside : World κ σ → World κ σ → Prop} {s s' : Scene κ σ α ε} {told : κ → Option Scalar}

/-- What a request does to the scroll area: nothing, and the items remain as many; or it tells the
area the extent of all items; or it scrolls to one of the items. -/
theorem Scene.Effect.container_cases {r : Request α} {answer : Answer}
    (h : Effect a cb s r answer s') (hlive : s'.window.isDestroyed = false) :
    (s'.world.container = s.world.container ∧ s'.window.items.size = s.window.items.size) ∨
      s'.world.container =
        Container.setContentExtent a (s'.window.totalExtent a) s.world.container ∨
      ∃ index, s'.window = s.window ∧ s'.world.container =
        (Container.setScrollOffset a (Scalar.mul a (.ofNat a (min index (s.window.items.size - 1)))
          s.window.itemExtent) s.world.container s.world.channels).1 := by
  cases h with
  | passes _ _ _ _ _ _ _ _ _ _ => exact .inr (.inl rfl)
  | waits _ now _ =>
    rw [collectEvents_eq]
    exact .inl ⟨rfl, rfl⟩
  | updates index item held left u caller _ _ _ _ => exact .inl ⟨rfl, by simp [Window.place]⟩
  | defers index item _ _ => exact .inl ⟨rfl, by simp⟩
  | refuses _ _ _ => exact .inl ⟨rfl, rfl⟩
  | scrolls index =>
    rw [scrollToIndex_window] at hlive
    rw [scrollToIndex, hlive]
    exact .inr (.inr ⟨index, rfl, rfl⟩)
  | destroys =>
    rw [destroy] at hlive ⊢
    split
    · exact .inl ⟨rfl, rfl⟩
    · rename_i hnot
      rw [if_neg hnot] at hlive
      cases hlive

theorem Scene.Effect.pump_cases {now : Instant} {answer : Answer}
    (h : Effect a cb s (.pump now) answer s') :
    (s'.world.container = s.world.container ∧ s'.window.geometry = s.window.geometry) ∨
      (s'.world.container =
          Container.setContentExtent a (s'.window.totalExtent a) s.world.container ∧
        s'.window.geometry = Container.geometry s.world.container) := by
  cases h with
  | passes _ _ _ _ _ _ _ _ _ _ => exact .inr ⟨rfl, rfl⟩
  | waits _ _ _ =>
    rw [collectEvents_eq]
    exact .inl ⟨rfl, rfl⟩

/-- An area keeps the content extent that it was last told. -/
structure Remembers (a : Arithmetic) (told : κ → Option Scalar) : Prop where
  content : ∀ extent c, told (Container.setContentExtent a extent c) = some extent
  scroll : ∀ offset c cs, told (Container.setScrollOffset a offset c cs).1 = told c

/-- The area was last told the extent of all items. -/
def Scene.Tells (a : Arithmetic) (told : κ → Option Scalar) (s : Scene κ σ α ε) : Prop :=
  told s.world.container = some (s.window.totalExtent a)

theorem Scene.Effect.tells {r : Request α} {answer : Answer} (h : Effect a cb s r answer s')
    (hkeeps : Remembers a told) (hlive : s'.window.isDestroyed = false) (hs : s.Tells a told) :
    s'.Tells a told := by
  rcases h.container_cases hlive with ⟨hsame, hsize⟩ | htold | ⟨index, hwindow, hmoved⟩
  · rw [Tells, hsame, Window.totalExtent, hsize, h.extent]
    exact hs
  · rw [Tells, htold]
    exact hkeeps.content _ _
  · rw [Tells, hmoved, hwindow, hkeeps.scroll]
    exact hs

theorem Reachable.tells (hkeeps : Remembers a told)
    (hout : ∀ w w', outside w w' → told w'.container = told w.container)
    (h : Reachable a cb start outside s) (hlive : s.window.isDestroyed = false) :
    s.Tells a told := by
  -- a window that is live now has been live before, and consistent
  refine (h.invariant (P := fun s => s.window.Consistent a ∧
    (s.window.isDestroyed = false → s.Tells a told)) ?_ ?_).2 hlive
  · intro s hs
    refine ⟨hs.consistent, fun _ => ?_⟩
    obtain ⟨w, channel, _, _, htold⟩ := hs.container
    rw [Scene.Tells, htold]
    exact hkeeps.content _ _
  · rintro ran s s' hstep ⟨hs, htells⟩
    cases hstep with
    | ask r hfits hok =>
      rcases hbefore : s.window.isDestroyed with _ | _
      · have heffect := Scene.perform_effect hbefore hs.pos hs.bounded r hfits (.inr hok)
        exact ⟨heffect.consistent hfits hs,
          fun hlive' => heffect.tells hkeeps hlive' (htells hbefore)⟩
      · rw [Scene.perform_destroyed hbefore]
        exact ⟨hs, htells⟩
    | @outside _ w hw =>
      refine ⟨hs, fun hlive' => ?_⟩
      rw [Scene.Tells, hout _ _ hw]
      exact htells hlive'

end

/-- A scroll area with a note of the content extent that it was last told. -/
structure Noting (κ : Type) where
  area : κ
  told : Option Scalar

instance [Container κ] : Container (Noting κ) where
  scrollOffset n := Container.scrollOffset n.area
  viewportExtent n := Container.viewportExtent n.area
  setScrollOffset a offset n cs :=
    let (area, cs) := Container.setScrollOffset a offset n.area cs
    ({ n with area }, cs)
  setContentExtent a extent n :=
    { area := Container.setContentExtent a extent n.area, told := some extent }
  subscribe channel n :=
    let (area, handle) := Container.subscribe channel n.area
    ({ n with area }, handle)
  unsubscribe handle n := { n with area := Container.unsubscribe handle n.area }

def World.noted (told : Option Scalar) (w : World κ σ) : World (Noting κ) σ :=
  { container := ⟨w.container, told⟩, channels := w.channels, caller := w.caller }

def World.plain (w : World (Noting κ) σ) : World κ σ :=
  { container := w.container.area, channels := w.channels, caller := w.caller }

def Scene.noted (told : Option Scalar) (s : Scene κ σ α ε) : Scene (Noting κ) σ α ε :=
  { window := s.window, world := s.world.noted told }

theorem Scene.Alike.eq_noted {s : Scene κ σ α ε} {t : Scene (Noting κ) σ α ε}
    (h : s.Alike (fun w w' => ∃ told, w' = w.noted told) t) : ∃ told, t = s.noted told := by
  obtain ⟨window, world⟩ := t
  obtain ⟨hwindow, told, hworld⟩ := h
  obtain rfl : window = s.window := hwindow
  obtain rfl : world = s.world.noted told := hworld
  exact ⟨told, rfl⟩

variable [Container κ] {a : Arithmetic} {cb : Callbacks σ α ε} {start : World κ σ → Prop}
  {outside : World κ σ → World κ σ → Prop} {s s' : Scene κ σ α ε}

/-! ## The note changes nothing -/

/-- A window cannot tell an area with a note from the area alone. -/
theorem Noting.simulation (cb : Callbacks σ α ε) :
    Simulation cb cb fun (w : World κ σ) w' => ∃ told, w' = w.noted told where
  channels := by
    intro w w' h
    obtain ⟨told, rfl⟩ := h
    rfl
  geometry := by
    intro w w' h
    obtain ⟨told, rfl⟩ := h
    rfl
  offset := by
    intro w w' h
    obtain ⟨told, rfl⟩ := h
    rfl
  drain := by
    intro w w' h cs
    obtain ⟨told, rfl⟩ := h
    exact ⟨told, rfl⟩
  scroll := by
    intro w w' h a offset
    obtain ⟨told, rfl⟩ := h
    exact ⟨told, rfl⟩
  content := by
    intro w w' h a extent
    obtain ⟨told, rfl⟩ := h
    exact ⟨some extent, rfl⟩
  unsubscribe := by
    intro w w' h handle
    obtain ⟨told, rfl⟩ := h
    exact ⟨told, rfl⟩
  reconcile := by
    intro w w' h items range registry
    obtain ⟨told, rfl⟩ := h
    exact ⟨rfl, rfl, told, rfl⟩
  updates := rfl
  update := by
    intro w w' h u u' hu hu' e item i
    obtain ⟨told, rfl⟩ := h
    obtain rfl : u = u' := Option.some.inj (hu.symm.trans hu')
    exact ⟨rfl, told, rfl⟩

theorem Scene.perform_noted (a : Arithmetic) (cb : Callbacks σ α ε) (r : Request α)
    (s : Scene κ σ α ε) (told : Option Scalar) :
    ∃ told', (s.noted told).perform a cb r =
      ((s.perform a cb r).1, (s.perform a cb r).2.noted told') := by
  obtain ⟨hanswer, hscene⟩ := perform_alike a (Noting.simulation cb) (t := s.noted told)
    ⟨rfl, told, rfl⟩ r
  obtain ⟨told', hscene⟩ := hscene.eq_noted
  exact ⟨told', Prod.ext hanswer hscene⟩

theorem Builder.build_noted (a : Arithmetic) (b : Builder σ α ε) (w : World κ σ)
    (told : Option Scalar) :
    ∃ told', b.build a (w.noted told) = ((b.build a w).1, (b.build a w).2.noted told') := by
  rw [build, build, carryOut, carryOut]
  rcases b.parts with e | ⟨surface, cb⟩
  · exact ⟨told, rfl⟩
  · dsimp only
    rcases ExtentEstimator.start b.config.itemExtent with fault | estimator
    · exact ⟨told, rfl⟩
    · dsimp only
      obtain ⟨hanswer, hscene⟩ := Scene.render_alike a (Noting.simulation cb)
        (s := b.subscribed surface (estimator.measure b.sample) w)
        (t := b.subscribed surface (estimator.measure b.sample) (w.noted told)) ⟨rfl, told, rfl⟩
      have hleft := hscene.unsubscribe (Noting.simulation cb)
      generalize (b.subscribed surface (estimator.measure b.sample) w).render a cb = x
        at hanswer hscene hleft ⊢
      generalize (b.subscribed surface (estimator.measure b.sample) (w.noted told)).render a cb = y
        at hanswer hscene hleft ⊢
      obtain ⟨answer, s⟩ := x
      obtain ⟨answer', t⟩ := y
      obtain rfl : answer' = answer := hanswer
      cases answer' with
      | error fault =>
        obtain ⟨told', hleft⟩ := hleft.eq_noted
        exact ⟨told', Prod.ext rfl (congrArg Scene.world hleft)⟩
      | ok stats =>
        obtain ⟨told', hscene⟩ := hscene.eq_noted
        obtain rfl : t = s.noted told' := hscene
        exact ⟨told', rfl⟩

/-- What others do to an area with a note is what they do to the area. -/
def Noting.lift (outside : World κ σ → World κ σ → Prop) (w w' : World (Noting κ) σ) : Prop :=
  outside w.plain w'.plain ∧ w'.container.told = w.container.told

/-- In a run that ends in this scene, the window has last told its area this content extent. -/
def Scene.LastTold (a : Arithmetic) (cb : Callbacks σ α ε) (start : World κ σ → Prop)
    (outside : World κ σ → World κ σ → Prop) (told : Option Scalar) (s : Scene κ σ α ε) : Prop :=
  Reachable a cb (fun w => start w.plain) (Noting.lift outside) (s.noted told)

theorem Reachable.noted (h : Reachable a cb start outside s) :
    ∃ told, s.LastTold a cb start outside told := by
  refine h.invariant (P := fun s => ∃ told, s.LastTold a cb start outside told) ?_ ?_
  · rintro s ⟨b, w, hw, hsize, hparts, hbuild⟩
    obtain ⟨told, hnoted⟩ := b.build_noted a w none
    rw [hbuild] at hnoted
    exact ⟨told, s.noted told, ⟨b, w.noted none, hw, hsize, hparts, hnoted⟩, .refl⟩
  · rintro ran s s' hstep ⟨told, htold⟩
    cases hstep with
    | ask r hfits hok =>
      obtain ⟨told', hperform⟩ := s.perform_noted a cb r told
      have hok' : (s.noted told).Unbroken a cb r := by
        rw [Scene.Unbroken, hperform]
        exact hok
      have hnext := htold.step (.ask r hfits hok')
      rw [hperform] at hnext
      exact ⟨told', hnext⟩
    | @outside _ w hout =>
      exact ⟨told, htold.step (.outside (w := w.noted told) ⟨hout, rfl⟩)⟩

/-! ## The note -/

namespace Scene

/-- The area was last told the extent of all items. -/
def Told (a : Arithmetic) (t : Scene (Noting κ) σ α ε) : Prop :=
  t.world.container.told = some (t.window.totalExtent a)

end Scene

/-- A live window has told its area the extent of all its items. -/
theorem Reachable.told {start : World (Noting κ) σ → Prop}
    {outside : World (Noting κ) σ → World (Noting κ) σ → Prop}
    (hout : ∀ w w', outside w w' → w'.container.told = w.container.told)
    {t : Scene (Noting κ) σ α ε} (h : Reachable a cb start outside t)
    (hlive : t.window.isDestroyed = false) : t.Told a := by
  have hkeeps : Remembers a fun n : Noting κ => n.told := ⟨fun _ _ => rfl, fun _ _ _ => rfl⟩
  exact h.tells hkeeps hout hlive

/-- A live window stands as all its items would.

Its elements begin and end where they would with all items drawn, the spacers around them fill what
is left out, and whatever has been asked of the window, the content extent that it has last told its
area is the extent of all its items. -/
theorem Reachable.laid_out {cb : Callbacks σ α ε} {s : Scene κ σ α ε}
    (h : Reachable .exact cb start outside s) (hlive : s.window.isDestroyed = false) :
    ∃ e : Rat, 0 < e ∧ s.window.itemExtent = .rat e ∧ s.window.LaidOut e ∧
      (∃ told, s.LastTold .exact cb start outside told) ∧
      ∀ told, s.LastTold .exact cb start outside told →
        told = some (s.window.totalExtent .exact) := by
  have hs := h.consistent
  obtain ⟨e, he, hextent⟩ := Scalar.isExtent_iff.1 hs.extent
  exact ⟨e, he, hextent, hs.laidOut hextent he, h.noted,
    fun told htold => Reachable.told (fun _ _ hw => hw.2) htold hlive⟩

/-- After two numbers have been put in place of three, lines of height one take up two, and the area
has been told so. -/
theorem laid_out_copying :
    ∃ s : Scene ScrollArea Unit Nat Nat, Reachable .exact .copying anywhere anything s ∧
      s.window.isDestroyed = false ∧ s.window.LaidOut 1 ∧
      Region.sizes 1 s.window.surface.regions = 2 ∧
      ∃ extent, s.LastTold .exact .copying anywhere anything (some extent) ∧ extent.toRat = 2 := by
  obtain ⟨s₀, hs₀, _, _, hextent⟩ := Builder.build_total .exact (Builder.copying_parts #[4, 5, 6])
    (by decide) Callbacks.copying_total
    { container := ({ extent := 2 } : ScrollArea), channels := #[], caller := () }
  have hbuilt : Built .exact .copying anywhere s₀ :=
    ⟨_, _, trivial, by decide, ⟨_, Builder.copying_parts _⟩, hs₀⟩
  have hfits : (Request.setItems 0 #[7, 8]).Fits := by
    show 2 ≤ maxIndex
    decide
  have hok : s₀.Unbroken .exact .copying (.setItems 0 #[7, 8]) :=
    Scene.unbroken_of_total Callbacks.copying_total hbuilt.live hbuilt.consistent.pos
      hbuilt.consistent.bounded hfits
  have heffect := Scene.perform_effect hbuilt.live hbuilt.consistent.pos hbuilt.consistent.bounded
    (.setItems 0 #[7, 8]) hfits (.inr hok)
  have hlive := heffect.live hbuilt.live (by simp)
  have hreach : Reachable .exact .copying anywhere anything _ :=
    Reachable.step ⟨s₀, hbuilt, .refl⟩ (.ask _ hfits hok)
  have hsize : (s₀.perform .exact .copying (.setItems 0 #[7, 8])).2.window.items.size = 2 := by
    obtain ⟨_, _, _, _, _, _, _, hscene⟩ := heffect.of_ranPass (heffect.alwaysPasses rfl)
    rw [hscene]
    rfl
  obtain ⟨e, _, he, hlaid, ⟨told, htold⟩, hlast⟩ := hreach.laid_out hlive
  obtain rfl : e = 1 := Scalar.rat.inj (he.symm.trans (heffect.extent.trans hextent))
  obtain rfl := hlast told htold
  refine ⟨_, hreach, hlive, hlaid, ?_, _, htold, ?_⟩
  · rw [hlaid.whole, hsize]
    norm_num
  · rw [hlaid.total.2, hsize]
    norm_num

end ListWindow
