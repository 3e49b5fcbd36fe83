import ListWindow.Proofs.Channel
import ListWindow.Proofs.Invariant

/-!
A window follows the scroll area that it watches. `Heeds` says that what happens to an area and the
channels does not pass a subscription by: where nothing waits afterwards, nothing has waited before
and the geometry is the same. `Faithful` lists what is needed of an area for that. Over a faithful
area a window that is told of every change is up to date whenever nothing waits for it
(`Scene.Watching`): this holds of a window just built (`Built.watching`) and is kept by everything
that is asked of the window (`Scene.Effect.watching`) and by everything others do that heeds its
subscription (`Scene.Watching.outside`).
-/
namespace ListWindow

variable {κ σ α ε : Type}

/-- A subscription that is on the list of the area, to a channel that is open. -/
def Heard (subs : κ → Subscribers) (mine : Subscription) (c : κ) (cs : Channels) : Prop :=
  mine ∈ (subs c).entries ∧ cs.Open mine.channel

section

variable [Container κ]

/-- What happens to an area and the channels does not pass a subscription by. -/
def Heeds (subs : κ → Subscribers) (mine : Subscription) (c : κ) (cs : Channels) (c' : κ)
    (cs' : Channels) : Prop :=
  Heard subs mine c cs → Heard subs mine c' cs' ∧
    (cs'.waiting mine.channel = [] →
      cs.waiting mine.channel = [] ∧ Container.geometry c' = Container.geometry c)

theorem Heeds.refl (subs : κ → Subscribers) (mine : Subscription) (c : κ) (cs : Channels) :
    Heeds subs mine c cs c cs :=
  fun h => ⟨h, fun hempty => ⟨hempty, rfl⟩⟩

theorem Heeds.trans {subs : κ → Subscribers} {mine : Subscription} {c c' c'' : κ}
    {cs cs' cs'' : Channels} (h : Heeds subs mine c cs c' cs')
    (h' : Heeds subs mine c' cs' c'' cs'') :
    Heeds subs mine c cs c'' cs'' := by
  intro hheard
  obtain ⟨hheard', hquiet⟩ := h hheard
  obtain ⟨hheard'', hquiet'⟩ := h' hheard'
  refine ⟨hheard'', fun hempty => ?_⟩
  obtain ⟨hempty', hgeometry'⟩ := hquiet' hempty
  obtain ⟨hempty'', hgeometry⟩ := hquiet hempty'
  exact ⟨hempty'', hgeometry'.trans hgeometry⟩

theorem heeds_broadcast (subs : κ → Subscribers) (event : ViewportEvent) {c c' : κ} {cs : Channels}
    (hsubs : (subs c').entries = ((subs c).broadcast event cs).1.entries) (mine : Subscription) :
    Heeds subs mine c cs c' ((subs c).broadcast event cs).2 := by
  rintro ⟨hlisted, hopen⟩
  obtain ⟨hopen', hreached⟩ := Subscribers.announce_reaches event (subs c).entries hopen
  obtain ⟨hkept, hwait⟩ := hreached mine hlisted rfl
  refine ⟨⟨?_, hopen'⟩, fun hempty => absurd hempty hwait⟩
  rw [hsubs]
  exact hkept

/-- A scroll area in a good state remains in one, tells its subscribers whenever it is moved, and
does not show other items when it learns how large the content is. -/
structure Faithful (a : Arithmetic) (subs : κ → Subscribers) (Good : κ → Prop) : Prop where
  subscribe : ∀ channel c, Good c →
    Good (Container.subscribe channel c).1 ∧
      subs (Container.subscribe channel c).1 = ((subs c).add channel).1 ∧
      (Container.subscribe channel c).2 = ((subs c).add channel).2
  scroll : ∀ offset c cs, Good c →
    Good (Container.setScrollOffset a offset c cs).1 ∧
      ∀ mine, Heeds subs mine c cs (Container.setScrollOffset a offset c cs).1
        (Container.setScrollOffset a offset c cs).2
  content : ∀ c count (extent : Scalar), Good c → extent.isExtent = true →
    Good (Container.setContentExtent a (Scalar.mul a (.ofNat a count) extent) c) ∧
      subs (Container.setContentExtent a (Scalar.mul a (.ofNat a count) extent) c) = subs c ∧
      ∀ overscan,
        visibleRange a (Container.geometry
          (Container.setContentExtent a (Scalar.mul a (.ofNat a count) extent) c)) extent count
          overscan =
        visibleRange a (Container.geometry c) extent count overscan

end

namespace Scene

theorem waiting_eq {s : Scene κ σ α ε} {mine : Subscription}
    (hmine : s.window.subscription = some mine) :
    s.waiting = s.world.channels.waiting mine.channel := by
  rw [waiting, hmine]
  rfl

theorem drained_eq {s : Scene κ σ α ε} {mine : Subscription}
    (hmine : s.window.subscription = some mine) :
    s.drained = (s.world.channels.drain mine.channel).1 := by
  rw [drained, hmine]

theorem collectEvents_waiting (s : Scene κ σ α ε) : s.collectEvents.waiting = [] := by
  rw [collectEvents_eq]
  exact waiting_drained (s := s) rfl rfl

theorem released_idle (r : Request α) (s : Scene κ σ α ε) : (r.released s).hasPending = false := by
  cases r <;> rfl

variable [Container κ]

/-- Nothing waits for the window, neither an event nor a reason for a pass. -/
def Settled (s : Scene κ σ α ε) : Prop :=
  s.waiting = [] ∧ s.window.throttle.hasPending = false

/-- The range is the one that the present geometry asks for. -/
def UpToDate (a : Arithmetic) (s : Scene κ σ α ε) : Prop :=
  visibleRange a (Container.geometry s.world.container) s.window.itemExtent s.window.items.size
    s.window.config.overscan = .ok s.window.range

/-- The window hears of every change, and is up to date unless something waits for it. -/
structure Watching (a : Arithmetic) (subs : κ → Subscribers) (Good : κ → Prop)
    (s : Scene κ σ α ε) : Prop where
  good : Good s.world.container
  heard : ∃ mine, s.window.subscription = some mine ∧
    Heard subs mine s.world.container s.world.channels
  abreast : s.Settled → s.UpToDate a

variable {a : Arithmetic} {subs : κ → Subscribers} {Good : κ → Prop} {cb : Callbacks σ α ε}
  {s : Scene κ σ α ε}

/-- What happens without a pass: the range and all that decides on it but the geometry remain, and
where nothing waits afterwards, nothing has waited before and the geometry is the same. -/
structure Quiet (s s' : Scene κ σ α ε) : Prop where
  range : s'.window.range = s.window.range
  size : s'.window.items.size = s.window.items.size
  extent : s'.window.itemExtent = s.window.itemExtent
  config : s'.window.config = s.window.config
  settled : s'.Settled →
    s.Settled ∧ Container.geometry s'.world.container = Container.geometry s.world.container

theorem Quiet.refl (s : Scene κ σ α ε) : s.Quiet s :=
  ⟨rfl, rfl, rfl, rfl, fun hsettled => ⟨hsettled, rfl⟩⟩

theorem Quiet.trans {s' s'' : Scene κ σ α ε} (h : s.Quiet s') (h' : s'.Quiet s'') :
    s.Quiet s'' := by
  refine ⟨h'.range.trans h.range, h'.size.trans h.size, h'.extent.trans h.extent,
    h'.config.trans h.config, fun hsettled => ?_⟩
  obtain ⟨hsettled', hgeometry'⟩ := h'.settled hsettled
  obtain ⟨hsettled'', hgeometry⟩ := h.settled hsettled'
  exact ⟨hsettled'', hgeometry'.trans hgeometry⟩

/-- A window that is up to date unless something waits remains so. -/
theorem Quiet.abreast {s' : Scene κ σ α ε} (h : s.Quiet s') (hs : s.Settled → s.UpToDate a)
    (hsettled : s'.Settled) : s'.UpToDate a := by
  obtain ⟨hsettled', hgeometry⟩ := h.settled hsettled
  have hcurrent := hs hsettled'
  rwa [UpToDate, ← hgeometry, ← h.extent, ← h.size, ← h.config, ← h.range] at hcurrent

theorem Watching.outside (h : s.Watching a subs Good) {w : World κ σ} (hgood : Good w.container)
    (hheeds : ∀ mine, s.window.subscription = some mine →
      Heeds subs mine s.world.container s.world.channels w.container w.channels) :
    Quiet s { s with world := w } ∧ Watching a subs Good { s with world := w } := by
  obtain ⟨mine, hmine, hheard⟩ := h.heard
  obtain ⟨hheard', hquiet⟩ := hheeds mine hmine hheard
  have hsame : Quiet s { s with world := w } := by
    refine ⟨rfl, rfl, rfl, rfl, ?_⟩
    rintro ⟨hempty, hidle⟩
    rw [waiting_eq (s := { s with world := w }) hmine] at hempty
    obtain ⟨hempty', hgeometry⟩ := hquiet hempty
    exact ⟨⟨by rw [waiting_eq hmine]; exact hempty', hidle⟩, hgeometry⟩
  exact ⟨hsame, hgood, ⟨mine, hmine, hheard'⟩, hsame.abreast h.abreast⟩

theorem passed_watching (hfaithful : Faithful a subs Good) (hgood : Good s.world.container)
    {mine : Subscription} (hmine : s.window.subscription = some mine)
    (hheard : Heard subs mine s.world.container s.world.channels)
    (hextent : s.window.itemExtent.isExtent = true) {range : IndexRange}
    (hrange : visibleRange a (Container.geometry s.world.container) s.window.itemExtent
      s.window.items.size s.window.config.overscan = .ok range)
    {th : Throttle} (hidle : th.hasPending = false) (p : Progress σ ε) (extra : Nat) :
    (s.passed a th range p extra).Watching a subs Good ∧
      (s.passed a th range p extra).Settled ∧ (s.passed a th range p extra).UpToDate a := by
  obtain ⟨hgood', hsubs, hsame⟩ := hfaithful.content s.world.container s.window.items.size
    s.window.itemExtent hgood hextent
  obtain ⟨hlisted, hopen⟩ := hheard
  have hopen' := hopen.drain mine.channel
  have htotal : (s.passed a th range p extra).world.container =
      Container.setContentExtent a (Scalar.mul a (.ofNat a s.window.items.size) s.window.itemExtent)
        s.world.container := by
    show Container.setContentExtent a (Scalar.mul a (.ofNat a s.window.items.size)
      s.window.estimator.markReady.extent) s.world.container = _
    rw [markReady_extent]
    rfl
  have hchannels : (s.passed a th range p extra).world.channels =
      (s.world.channels.drain mine.channel).1 := drained_eq hmine
  have hsettled : (s.passed a th range p extra).Settled :=
    ⟨waiting_drained (s := s) rfl rfl, hidle⟩
  -- the area has been told how large the content is, and may have scrolled back since
  have hcurrent : (s.passed a th range p extra).UpToDate a := by
    rw [UpToDate, htotal]
    show visibleRange a _ s.window.estimator.markReady.extent s.window.items.size
      s.window.config.overscan = .ok range
    rw [markReady_extent]
    exact (hsame _).trans hrange
  refine ⟨⟨?_, ⟨mine, hmine, ?_, ?_⟩, fun _ => hcurrent⟩, hsettled, hcurrent⟩
  · rw [htotal]
    exact hgood'
  · rw [htotal, hsubs]
    exact hlisted
  · rw [hchannels]
    exact hopen'

@[simp] theorem staged_subscription (r : Request α) (w : Window α ε) :
    (r.staged w).subscription = w.subscription := by
  cases r <;> rfl

/-- Whatever is asked of a window that stays live, it hears of every change afterwards and is up to
date unless something waits. A complete pass leaves nothing waiting, all else is quiet. -/
theorem Effect.watching {r : Request α} {answer : Answer} {s' : Scene κ σ α ε}
    (h : Effect a cb s r answer s') (hfaithful : Faithful a subs Good)
    (hs : s.window.Consistent a) (hlive : s'.window.isDestroyed = false)
    (hwatching : s.Watching a subs Good) :
    s'.Watching a subs Good ∧
      (answer.ranPass = true → s'.Settled ∧ s'.UpToDate a) ∧
      (answer.ranPass = false → s.Quiet s') := by
  obtain ⟨mine, hmine, hheard⟩ := hwatching.heard
  -- it is enough to see that what is not a pass is quiet and heard
  have hquiet : ∀ {t : Scene κ σ α ε}, answer.ranPass = false → s.Quiet t → Good t.world.container →
      (∃ mine, t.window.subscription = some mine ∧
        Heard subs mine t.world.container t.world.channels) →
      t.Watching a subs Good ∧ (answer.ranPass = true → t.Settled ∧ t.UpToDate a) ∧
        (answer.ranPass = false → s.Quiet t) := by
    intro t hran hsame hgood hheard
    refine ⟨⟨hgood, hheard, hsame.abreast hwatching.abreast⟩, ?_, fun _ => hsame⟩
    rw [hran]
    intro hfalse
    cases hfalse
  cases h with
  | passes _ _ range p hran _ hrange _ _ _ =>
    have hall := passed_watching (s := { s with window := r.staged s.window }) hfaithful
      hwatching.good ((staged_subscription r s.window).trans hmine) hheard
      (by rw [staged_extent]; exact hs.extent)
      (by rw [staged_extent, staged_config]; exact hrange) (released_idle r s) p (r.cut s.window)
    refine ⟨hall.1, fun _ => hall.2, ?_⟩
    rw [hran]
    intro hfalse
    cases hfalse
  | waits _ now _ =>
    obtain ⟨hlisted, hopen⟩ := hheard
    rw [collectEvents_eq]
    refine hquiet rfl ⟨rfl, rfl, rfl, rfl, ?_⟩ hwatching.good ⟨mine, hmine, hlisted, ?_⟩
    · rintro ⟨_, hidle⟩
      -- the events that waited are among the reasons now, so nothing has waited at all
      have hidle' : s.collected.hasPending = false := hidle
      rw [hasPending_collected, Bool.or_eq_false_iff, Bool.not_eq_false',
        List.isEmpty_iff] at hidle'
      exact ⟨⟨hidle'.2, hidle'.1⟩, rfl⟩
    · show s.drained.Open mine.channel
      rw [drained_eq hmine]
      exact hopen.drain mine.channel
  | updates index item held left u caller _ _ _ _ =>
    refine hquiet rfl ⟨rfl, ?_, rfl, rfl, fun hsettled => ⟨hsettled, rfl⟩⟩ hwatching.good
      ⟨mine, hmine, hheard⟩
    simp [Window.place]
  | defers index item _ _ =>
    refine hquiet rfl ⟨rfl, ?_, rfl, rfl, fun hsettled => ⟨hsettled, rfl⟩⟩ hwatching.good
      ⟨mine, hmine, hheard⟩
    simp
  | refuses _ _ _ => exact hquiet rfl (.refl s) hwatching.good hwatching.heard
  | scrolls index =>
    unfold scrollToIndex
    split
    · exact hquiet rfl (.refl s) hwatching.good hwatching.heard
    · obtain ⟨hgood, hheeds⟩ := hfaithful.scroll
        (Scalar.mul a (.ofNat a (min index (s.window.items.size - 1))) s.window.itemExtent)
        s.world.container s.world.channels hwatching.good
      obtain ⟨hsame, hwatching'⟩ := hwatching.outside
        (w := { s.world with container := _, channels := _ }) hgood fun mine _ => hheeds mine
      exact hquiet rfl hsame hwatching'.good hwatching'.heard
  | destroys =>
    exfalso
    rw [destroy] at hlive
    split at hlive
    · rename_i hdead
      rw [hdead] at hlive
      cases hlive
    · cases hlive

theorem perform_watching (hfaithful : Faithful a subs Good) (hcb : cb.Total) {r : Request α}
    (hfits : r.Fits)
    (h : s.window.isDestroyed = false → s.window.Consistent a ∧ s.Watching a subs Good)
    (hlive : (s.perform a cb r).2.window.isDestroyed = false) :
    (s.perform a cb r).2.window.Consistent a ∧
      (s.perform a cb r).2.Watching a subs Good ∧
      ((s.perform a cb r).1.ranPass = true →
        (s.perform a cb r).2.Settled ∧ (s.perform a cb r).2.UpToDate a) ∧
      ((s.perform a cb r).1.ranPass = false → s.Quiet (s.perform a cb r).2) := by
  rcases hbefore : s.window.isDestroyed with _ | _
  · obtain ⟨hs, hwatching⟩ := h hbefore
    have heffect := perform_effect (a := a) hbefore hs.pos hs.bounded r hfits (.inl hcb)
    exact ⟨heffect.consistent hfits hs, heffect.watching hfaithful hs hlive hwatching⟩
  · rw [perform_destroyed hbefore, hbefore] at hlive
    cases hlive

/-- After a flush nothing waits and the window is up to date, whether or not a pass was due. -/
theorem Effect.flush_settles {now : Instant} {answer : Answer} {s' : Scene κ σ α ε}
    (h : Effect a cb s (.flush now) answer s') (hfaithful : Faithful a subs Good)
    (hs : s.window.Consistent a) (hlive : s.window.isDestroyed = false)
    (hwatching : s.Watching a subs Good) : s'.Settled ∧ s'.UpToDate a := by
  have hboth := h.watching hfaithful hs (h.live hlive (by simp)) hwatching
  cases h with
  | passes _ _ range p hran _ _ _ _ _ => exact hboth.2.1 hran
  | waits _ now hwhen =>
    have hsettled : s.collectEvents.Settled := by
      obtain ⟨hpump, _⟩ | ⟨_, hidle⟩ := hwhen
      · cases hpump
      · refine ⟨s.collectEvents_waiting, ?_⟩
        rw [collectEvents_eq]
        exact hidle
    exact ⟨hsettled, hboth.1.abreast hsettled⟩

end Scene

theorem Built.watching [Container κ] {a : Arithmetic} {subs : κ → Subscribers} {Good : κ → Prop}
    (hfaithful : Faithful a subs Good) {cb : Callbacks σ α ε} {start : World κ σ → Prop}
    {s : Scene κ σ α ε} (h : Built a cb start s) (hgood : ∀ w, start w → Good w.container) :
    s.Watching a subs Good ∧ s.Settled ∧ s.UpToDate a := by
  obtain ⟨b, w, surface, e, range, hw, _, hextent, _, hrange, _, _, rfl⟩ := h.passed
  obtain ⟨hgood', hsubs, hhandle⟩ := hfaithful.subscribe
    (w.channels.openWith b.config.eventCapacity).2 w.container (hgood w hw)
  refine Scene.passed_watching (s := b.subscribed surface e w) hfaithful hgood' rfl ?_ hextent
    hrange rfl _ _
  refine ⟨?_, Channels.openWith_open _ _⟩
  show (⟨(Container.subscribe (w.channels.openWith b.config.eventCapacity).2 w.container).2,
      (w.channels.openWith b.config.eventCapacity).2⟩ : Subscription) ∈
    (subs (Container.subscribe (w.channels.openWith b.config.eventCapacity).2
      w.container).1).entries
  rw [hsubs, hhandle]
  simp [Subscribers.add]

end ListWindow
