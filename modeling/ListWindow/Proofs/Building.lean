import ListWindow.Proofs.Bounds
import ListWindow.Proofs.Departure

/-!
A window is built wholly or not at all. What it needs is looked for in a fixed order
(`Builder.conditions`), and without it nothing is done (`Builder.Refused`). Otherwise the window is
in the world and its first pass has run (`Builder.Entered`), or that pass has given up on an item
and the subscription is gone again (`Builder.TakenBack`). There is nothing else that building can do
to a world that the window would share with others (`Commons.Reachable.builds`).
-/
namespace ListWindow

variable {κ σ α ε : Type}

namespace Builder

variable {b : Builder σ α ε} {e : Error}

/-! ## What a window needs -/

/-- Nothing that a window needs is missing or wrong. -/
structure Complete (b : Builder σ α ε) : Prop where
  surface : b.surface.isSome = true
  attached : b.attached = true
  create : b.create.isSome = true
  finite : b.config.itemExtent.isFinite = true
  positive : (0 : Scalar) < b.config.itemExtent
  rate : b.config.targetFps ≠ 0

/-- What a window needs, in the order in which it is looked for, and what is answered without it. -/
def conditions (b : Builder σ α ε) : List (Bool × Error) :=
  [(b.surface.isSome, .missingTarget),
   (b.attached, .missingContainer),
   (b.create.isSome, .missingCreate),
   (b.config.itemExtent.isExtent, .invalidItemExtent b.config.itemExtent),
   (b.config.targetFps != 0, .invalidFrameRate)]

/-- What is answered where something is missing or wrong. -/
def objection? (b : Builder σ α ε) : Option Error := (b.conditions.find? (!·.1)).map (·.2)

theorem objection?_eq_none_iff : b.objection? = none ↔ b.Complete := by
  have hall : b.objection? = none ↔ b.surface.isSome = true ∧ b.attached = true ∧
      b.create.isSome = true ∧ b.config.itemExtent.isExtent = true ∧ b.config.targetFps ≠ 0 := by
    simp [objection?, conditions]
  rw [hall]
  constructor
  · rintro ⟨hsurface, hattached, hcreate, hextent, hrate⟩
    obtain ⟨hfinite, _⟩ := Bool.and_eq_true_iff.1 hextent
    exact ⟨hsurface, hattached, hcreate, hfinite, Window.isExtent_pos hextent, hrate⟩
  · rintro ⟨hsurface, hattached, hcreate, hfinite, hpositive, hrate⟩
    exact ⟨hsurface, hattached, hcreate, Bool.and_eq_true_iff.2 ⟨hfinite, hpositive⟩, hrate⟩

theorem parts_cases (b : Builder σ α ε) :
    (∃ e, b.objection? = some e ∧ b.parts = .error e) ∨
    b.objection? = none ∧ ∃ surface cb, b.surface = some surface ∧ b.create = some cb.create ∧
      b.parts = .ok (surface, cb) := by
  unfold objection? conditions parts Config.validate
  rcases b.surface with _ | surface
  · exact .inl ⟨_, rfl, rfl⟩
  rcases b.attached with _ | _
  · exact .inl ⟨_, rfl, rfl⟩
  rcases b.create with _ | create
  · exact .inl ⟨_, rfl, rfl⟩
  rcases b.config.itemExtent.isExtent with _ | _
  · exact .inl ⟨_, rfl, rfl⟩
  rcases b.config.targetFps with _ | fps
  · exact .inl ⟨_, rfl, rfl⟩
  · exact .inr ⟨rfl, surface, { create, update := b.update }, rfl, rfl, rfl⟩

end Builder

/-! ## Which functions are called -/

def World.logged (log : List (Call α ε)) (w : World κ σ) : World κ (σ × List (Call α ε)) :=
  { container := w.container, channels := w.channels, caller := (w.caller, log) }

namespace Builder

def recording (b : Builder σ α ε) : Builder (σ × List (Call α ε)) α ε where
  surface := b.surface
  sample := b.sample
  attached := b.attached
  create := b.create.map fun create => (Callbacks.recording { create, update := b.update }).create
  update := (Callbacks.recording { create := fun c _ _ => (c, none), update := b.update }).update
  items := b.items
  config := b.config

theorem recording_parts (b : Builder σ α ε) :
    b.recording.parts = b.parts.map fun p => (p.1, p.2.recording) := by
  unfold parts recording
  rcases b.surface with _ | surface
  · rfl
  rcases b.attached with _ | _
  · rfl
  rcases b.create with _ | create
  · rfl
  dsimp only
  rcases b.config.validate with _ | _ <;> rfl

/-- These calls are made in building. The record of them changes nothing else. -/
def Calls [Container κ] (a : Arithmetic) (b : Builder σ α ε) (w : World κ σ)
    (calls : List (Call α ε)) : Prop :=
  b.recording.carryOut a (w.logged []) =
    ((b.carryOut a w).1, (b.carryOut a w).2.1, (b.carryOut a w).2.2.logged calls)

end Builder

/-! ## The first pass -/

/-- The call that has made the element of an index. -/
def Call.Made (items : Array α) (registry : Registry ε) (i : Nat) (call : Call α ε) : Prop :=
  ∃ item made, items[i]? = some item ∧ registry.element? i = some made ∧
    call = .create i item (some made)

/-- The calls over some indices, up to one on which the create function gives up. -/
def Call.StopAt (create : σ → α → Nat → σ × Option ε) (items : Array α) (registry : Registry ε)
    (is : List Nat) (k : Nat) (calls : List (Call α ε)) : Prop :=
  ∃ before after made item c, is = before ++ k :: after ∧ items[k]? = some item ∧
    (create c item k).2 = none ∧ calls = made ++ [.create k item none] ∧
    List.Forall₂ (Call.Made items registry) before made

theorem Call.Due.made {cb : Callbacks σ α ε} {kept : Nat → Bool} {items : Array α}
    {held after : Registry ε} {i : Nat} {call : Call α ε}
    (h : Call.Due cb kept items held after i call) (hkept : kept i = false) :
    Call.Made items after i call := by
  cases h with
  | @create item made c hitem _ _ hafter => exact ⟨item, made, hitem, hafter, rfl⟩
  | update _ hheld => exact absurd (hheld.symm.trans hkept) (by decide)

theorem Call.isCreate_of_made {items : Array α} {registry : Registry ε} {is : List Nat}
    {calls : List (Call α ε)} (h : List.Forall₂ (Call.Made items registry) is calls) :
    ∀ call ∈ calls, call.isCreate = true := by
  induction h with
  | nil => exact fun _ hcall => nomatch hcall
  | cons hfirst _ ih =>
    obtain ⟨item, made, _, _, rfl⟩ := hfirst
    exact List.forall_mem_cons.2 ⟨rfl, ih⟩

/-- A pass that has begun with no elements is complete, and has made those of its range in order, or
the create function has given up on one of them. -/
theorem Progress.run_first (cb : Callbacks σ α ε) {items : Array α} {is : List Nat}
    (hin : ∀ i ∈ is, i < items.size) (hnd : is.Nodup) (caller : σ) :
    ∃ calls, run cb.recording items is {} (caller, []) =
        (let p := run cb items is {} caller
         ⟨p.made, p.left, (p.caller, calls), p.created, p.reused, p.fault⟩) ∧
      let p := run cb items is {} caller
      (p.fault = none ∧ p.created = is.length ∧ p.reused = 0 ∧ p.left.size = 0 ∧
        List.Forall₂ (Call.Made items ⟨p.made⟩) is calls) ∨
      ∃ k, p.fault = some (.createFailed k) ∧
        Call.StopAt cb.create items ⟨p.made⟩ is k calls := by
  have hkept : ∀ i, (cb.update.isSome && (({} : Registry ε).element? i).isSome) = false :=
    fun _ => Bool.and_false _
  cases hfault : (run cb items is {} caller).fault with
  | none =>
    obtain ⟨calls, hrun, hcalls⟩ := run_recording cb hin hnd {} caller []
    obtain ⟨hdue, hcreated, hreused⟩ := hcalls hfault
    have hmade := hdue.imp fun i call h => h.made (hkept i)
    have hcreates := Call.isCreate_of_made hmade
    refine ⟨calls, hrun, .inl ⟨hfault, ?_, ?_, ?_, hmade⟩⟩
    · rw [hcreated, List.countP_eq_length.2 hcreates, hmade.length_eq]
    · rw [hreused, List.countP_eq_zero]
      exact fun call hcall => by simp [hcreates call hcall]
    · rw [Registry.size_eq_length_indices, run_left_indices hin hfault]
      rfl
  | some fault =>
    obtain ⟨before, k, after, made, call, his, _, _, hrun, hdue, hgives⟩ :=
      run_broken_recording cb hin hnd {} caller [] hfault
    have hmade := hdue.imp fun i call h => h.made (hkept i)
    refine ⟨made ++ [call], hrun, .inr ?_⟩
    cases hgives with
    | @create item c hitem _ hgaveup =>
      exact ⟨k, hfault, before, after, made, item, c, his, hitem, hgaveup, rfl, hmade⟩
    | update _ _ hheld => cases hheld

theorem Scene.render_first [Container κ] (a : Arithmetic) (cb : Callbacks σ α ε)
    {s : Scene κ σ α ε} (hlive : s.window.isDestroyed = false)
    (he : (0 : Scalar) < s.window.itemExtent) (hc : s.window.items.size ≤ maxIndex)
    (hempty : s.window.registry = {}) :
    ∃ range calls, visibleRange a (Container.geometry s.world.container) s.window.itemExtent
        s.window.items.size s.window.config.overscan = .ok range ∧
      range.Within s.window.items.size ∧
      (s.logged []).render a cb.recording =
        ((s.render a cb).1, (s.render a cb).2.logged calls) ∧
      let p := Progress.run cb s.window.items range.indices {} s.world.caller
      let t := s.passed a s.window.throttle.discard.1 range p 0
      (p.fault = none ∧ s.render a cb = (.ok t.window.stats, t) ∧
        t.window.stats = ⟨range, range.indices.length, 0, 0⟩ ∧
        List.Forall₂ (Call.Made s.window.items ⟨p.made⟩) range.indices calls) ∨
      ∃ k, s.render a cb = (.error (.createFailed k), s.broken range p) ∧
        Call.StopAt cb.create s.window.items ⟨p.made⟩ range.indices k calls := by
  obtain ⟨range, hrange, hwithin, hrender⟩ := render_eq a cb hlive he hc
  obtain ⟨range', hrange', _, hrecorded⟩ :=
    render_eq a cb.recording (s := s.logged []) hlive he hc
  obtain rfl : range' = range := Except.ok.inj (hrange'.symm.trans hrange)
  obtain ⟨calls, hrun, hcases⟩ :=
    Progress.run_first cb hwithin.lt_of_mem range'.nodup_indices s.world.caller
  have hpass : Progress.run cb.recording (s.logged []).window.items range'.indices
      (s.logged []).window.registry (s.logged []).world.caller =
        (let p := Progress.run cb s.window.items range'.indices {} s.world.caller
         ⟨p.made, p.left, (p.caller, calls), p.created, p.reused, p.fault⟩) := by
    rw [← hrun, ← hempty]
    rfl
  rw [hpass] at hrecorded
  rw [hempty] at hrender
  refine ⟨range', calls, hrange, hwithin, ?_⟩
  generalize Progress.run cb s.window.items range'.indices {} s.world.caller = p
    at hrender hrecorded hcases ⊢
  obtain ⟨hfault, hcreated, hreused, hleft, hmade⟩ |
    ⟨k, hfault, hstop⟩ := hcases
  · simp only [hfault] at hrender hrecorded
    rw [hrender, hrecorded]
    refine ⟨rfl, .inl ⟨hfault, rfl, ?_, hmade⟩⟩
    show (⟨range', p.created, p.reused, p.left.size⟩ : Stats) = _
    rw [hcreated, hreused, hleft]
  · simp only [hfault] at hrender hrecorded
    rw [hrender, hrecorded]
    exact ⟨rfl, .inr ⟨k, rfl, hstop⟩⟩

/-! ## A handle that comes and goes -/

/-- A new entry can be taken off the list again without any other, where its handle is a new one. -/
theorem Subscribers.remove_add {s : Subscribers}
    (hfresh : ∀ entry ∈ s.entries, entry.handle ≠ s.nextHandle) (channel : Nat) :
    ((s.add channel).1.remove s.nextHandle).1 = { s with nextHandle := s.nextHandle + 1 } := by
  have hkept : s.entries.filter (·.handle != s.nextHandle) = s.entries := by
    refine List.filter_eq_self.2 fun entry hentry => ?_
    simpa using hfresh entry hentry
  simp [remove, add, List.filter_append, hkept]

theorem Commons.Sound.handle_new {subs : κ → Subscribers} {E : Commons κ σ} (h : E.Sound subs)
    (hroom : E.registered.length < UInt32.size) :
    ∀ entry ∈ (subs E.world.container).entries,
      entry.handle ≠ (subs E.world.container).nextHandle := by
  have hnodup := (h.numbered.add 0).nodup hroom
  rw [Subscribers.add, List.map_append, List.nodup_append] at hnodup
  intro entry hentry
  exact hnodup.2.2 entry.handle (List.mem_map_of_mem (h.order.subset hentry)) _ (by simp [roll])

/-- What can be told of an area apart from its list of subscribers. -/
structure Container.Aside {β : Type} [Container κ] (rest : κ → β) : Prop where
  subscribe : ∀ channel c, rest (Container.subscribe channel c).1 = rest c
  unsubscribe : ∀ handle c, rest (Container.unsubscribe handle c) = rest c

theorem ScrollArea.aside : Container.Aside fun s : ScrollArea => (s.offset, s.extent, s.content) :=
  ⟨fun _ _ => rfl, fun _ _ => rfl⟩

theorem Screen.Viewport.aside :
    Container.Aside fun v : Screen.Viewport => (v.offset, v.height, v.reserved, v.content) :=
  ⟨fun _ _ => rfl, fun _ _ => rfl⟩

/-! ## What building can do -/

namespace Builder

variable [Container κ]

def firstRange (a : Arithmetic) (b : Builder σ α ε) (w : World κ σ) : Except Fault IndexRange :=
  visibleRange a (Container.geometry (w.enter b.config.eventCapacity).1.container) b.chosenExtent
    b.items.size b.config.overscan

/-- Nothing at all is done. -/
structure Refused (a : Arithmetic) (b : Builder σ α ε) (w : World κ σ) (e : Error) : Prop where
  answer : b.build a w = (.ok (.error e), w)
  surface : (b.carryOut a w).2.1 = b.surface
  calls : b.Calls a w []

/-- The create function has given up on an item of the first pass. The list of the area is as it
was, but that a handle has been given out; nothing else has changed about the area, nor the
surface. -/
structure TakenBack {β : Type} (a : Arithmetic) (subs : κ → Subscribers) (rest : κ → β)
    (b : Builder σ α ε) (w : World κ σ) (k : Nat) (w' : World κ σ) : Prop where
  answer : b.build a w = (.error (.createFailed k), w')
  surface : (b.carryOut a w).2.1 = b.surface
  list : subs w'.container =
    { subs w.container with nextHandle := (subs w.container).nextHandle + 1 }
  rest : rest w'.container = rest w.container
  /-- The channel of the window has closed, and all others are as they were. -/
  channels : w'.channels.listens w.channels.size = false ∧
    ∀ id < w.channels.size, w'.channels[id]? = w.channels[id]?
  /-- The elements before the item have been made, and nothing more has been called. -/
  calls : ∃ create range registry calls, b.create = some create ∧ b.firstRange a w = .ok range ∧
    b.Calls a w calls ∧ Call.StopAt create b.items registry range.indices k calls

/-- The window is in the world. -/
structure Entered (a : Arithmetic) (subs : κ → Subscribers) (b : Builder σ α ε) (w : World κ σ)
    (window : Window α ε) (w' : World κ σ) : Prop where
  answer : b.build a w = (.ok (.ok window), w')
  /-- It has subscribed once. -/
  list : subs w'.container = ((subs w.container).add w.channels.size).1
  mine : window.subscription = some ⟨(subs w.container).nextHandle, w.channels.size⟩
  channels : w'.channels.Open w.channels.size ∧
    ∀ id < w.channels.size, w'.channels[id]? = w.channels[id]?
  /-- Its first pass has run, and has made every element of the range. -/
  range : b.firstRange a w = .ok window.range
  consistent : window.Consistent a
  passes : ∃ surface, b.surface = some surface ∧ window.surface.passes = surface.passes + 1
  stats : window.stats = ⟨window.range, window.range.indices.length, 0, 0⟩
  calls : ∃ calls, b.Calls a w calls ∧
    List.Forall₂ (Call.Made b.items window.registry) window.range.indices calls
  /-- The area has been told how large the content is, and nothing else. -/
  content : w'.container = Container.setContentExtent a (window.totalExtent a)
    (Container.subscribe w.channels.size w.container).1

variable {a : Arithmetic} {b : Builder σ α ε} {subs : κ → Subscribers} {w : World κ σ}

theorem refused {e : Error} (h : b.objection? = some e) : b.Refused a w e := by
  have hparts : b.parts = .error e := by
    obtain ⟨e', he', hparts⟩ | ⟨hnone, _⟩ := b.parts_cases
    · rw [hparts, Option.some.inj (h.symm.trans he')]
    · cases h.symm.trans hnone
  have hcarry : b.carryOut a w = (.ok (.error e), b.surface, w) := by
    rw [carryOut, hparts]
  have hrecorded : b.recording.carryOut a (w.logged ([] : List (Call α ε))) =
      (.ok (.error e), b.surface, w.logged []) := by
    rw [carryOut, recording_parts, hparts]
    rfl
  refine ⟨?_, ?_, ?_⟩
  · rw [build, hcarry]
  · rw [hcarry]
  · rw [Calls, hrecorded, hcarry]

variable {surface : Surface ε} {cb : Callbacks σ α ε} {calls : List (Call α ε)}

theorem calls_of_render (hparts : b.parts = .ok (surface, cb))
    (h : ((b.opened surface w).logged []).render a cb.recording =
      (((b.opened surface w).render a cb).1, ((b.opened surface w).render a cb).2.logged calls)) :
    b.Calls a w calls := by
  have hrecorded : b.recording.parts = .ok (surface, cb.recording) := by
    rw [recording_parts, hparts]
    rfl
  rw [Calls, carryOut_of_parts a hparts, carryOut_of_parts a hrecorded]
  have hopened : b.recording.opened surface (w.logged ([] : List (Call α ε))) =
      (b.opened surface w).logged [] := rfl
  rw [hopened, h]
  rcases (b.opened surface w).render a cb with ⟨fault | stats, s⟩
  · dsimp only
    rw [Scene.unsubscribe, Scene.unsubscribe, Scene.logged]
    rcases s.window.subscription with _ | mine
    · rfl
    · rfl
  · rfl

theorem opened_mine (hreg : Registers a subs) (b : Builder σ α ε) (surface : Surface ε)
    (w : World κ σ) :
    (b.opened surface w).window.subscription =
      some ⟨(subs w.container).nextHandle, w.channels.size⟩ := by
  show some (⟨(Container.subscribe w.channels.size w.container).2, _⟩ : Subscription) = _
  rw [(hreg.subscribe w.channels.size w.container).2]
  rfl

theorem opened_drained (b : Builder σ α ε) (surface : Surface ε) (w : World κ σ) :
    (b.opened surface w).drained.Open w.channels.size ∧
      ∀ id < w.channels.size, (b.opened surface w).drained[id]? = w.channels[id]? := by
  have hdrained : (b.opened surface w).drained =
      ((w.channels.openWith b.config.eventCapacity).1.drain w.channels.size).1 := rfl
  rw [hdrained]
  refine ⟨(Channels.openWith_open _ _).drain _, fun id hid => ?_⟩
  rw [Channels.drain_getElem?_of_ne (Nat.ne_of_gt hid), Channels.openWith_getElem?_of_lt _ hid]

section

variable {range : IndexRange}

theorem entered_of_passed (hreg : Registers a subs) (hsize : b.items.size ≤ maxIndex)
    (hsurface : b.surface = some surface) (hparts : b.parts = .ok (surface, cb))
    (hfirst : b.firstRange a w = .ok range) (hwithin : range.Within b.items.size)
    (hcalls : b.Calls a w calls) :
    let t := b.opened surface w
    let p := Progress.run cb b.items range.indices {} w.caller
    let s := t.passed a t.window.throttle.discard.1 range p 0
    p.fault = none → t.render a cb = (.ok s.window.stats, s) →
      s.window.stats = ⟨range, range.indices.length, 0, 0⟩ →
      List.Forall₂ (Call.Made b.items ⟨p.made⟩) range.indices calls →
      b.Entered a subs w s.window s.world := by
  intro t p s hp hrender hstats hmade
  have hcarry : b.carryOut a w = (.ok (.ok s.window), some s.window.surface, s.world) := by
    rw [carryOut_of_parts a hparts, hrender]
  have hmeasured : t.window.itemExtent.isExtent = true := (b.opened_ready hparts w).2
  exact
    { answer := by rw [build, hcarry]
      list := (hreg.content _ _).trans (hreg.subscribe w.channels.size w.container).1
      mine := opened_mine hreg b surface w
      channels := b.opened_drained surface w
      range := hfirst
      consistent := Scene.passed_consistent hmeasured hsize hwithin hp _ _
      passes := ⟨surface, hsurface, rfl⟩
      stats := hstats
      calls := ⟨calls, hcalls, hmade⟩
      content := rfl }

theorem takenBack_of_broken {β : Type} {rest : κ → β} (hreg : Registers a subs)
    (hrest : Container.Aside rest)
    (hfresh : ∀ entry ∈ (subs w.container).entries, entry.handle ≠ (subs w.container).nextHandle)
    (hsurface : b.surface = some surface) (hcreate : b.create = some cb.create)
    (hparts : b.parts = .ok (surface, cb)) (hfirst : b.firstRange a w = .ok range)
    (hcalls : b.Calls a w calls) {k : Nat} {registry : Registry ε} {p : Progress σ ε}
    (hrender : (b.opened surface w).render a cb =
      (.error (.createFailed k), (b.opened surface w).broken range p))
    (hstop : Call.StopAt cb.create b.items registry range.indices k calls) :
    b.TakenBack a subs rest w k (((b.opened surface w).broken range p).world.without
      ⟨(subs w.container).nextHandle, w.channels.size⟩) := by
  have hleft := Scene.unsubscribe_eq (s := (b.opened surface w).broken range p)
    (opened_mine hreg b surface w)
  have hcarry : b.carryOut a w = (.error (.createFailed k), some surface,
      ((b.opened surface w).broken range p).world.without
        ⟨(subs w.container).nextHandle, w.channels.size⟩) := by
    rw [carryOut_of_parts a hparts, hrender]
    dsimp only
    rw [hleft]
    rfl
  obtain ⟨hlist, _⟩ := hreg.subscribe w.channels.size w.container
  refine ⟨?_, ?_, ?_, ?_, ⟨?_, ?_⟩, ⟨_, range, registry, calls, hcreate, hfirst, hcalls, hstop⟩⟩
  · rw [build, hcarry]
  · rw [hcarry, hsurface]
  · show subs (Container.unsubscribe (subs w.container).nextHandle
      (Container.subscribe w.channels.size w.container).1) = _
    rw [hreg.unsubscribe, hlist, Subscribers.remove_add hfresh]
  · exact (hrest.unsubscribe _ _).trans (hrest.subscribe _ _)
  · exact Channels.close_listens _ _
  · intro id hid
    exact (Channels.close_getElem?_of_ne (Nat.ne_of_gt hid)).trans
      ((b.opened_drained surface w).2 id hid)

end

/-- Once nothing is missing, the window is in the world, or its first pass has given up on an item
and it has gone again. -/
theorem Complete.entered_or_takenBack {β : Type} {rest : κ → β} (h : b.Complete)
    (hreg : Registers a subs) (hrest : Container.Aside rest)
    (hfresh : ∀ entry ∈ (subs w.container).entries, entry.handle ≠ (subs w.container).nextHandle)
    (hsize : b.items.size ≤ maxIndex) :
    (∃ window w', b.Entered a subs w window w') ∨ ∃ k w', b.TakenBack a subs rest w k w' := by
  obtain ⟨surface, cb, hsurface, hcreate, hparts⟩ : ∃ surface cb, b.surface = some surface ∧
      b.create = some cb.create ∧ b.parts = .ok (surface, cb) := by
    obtain ⟨e, he, _⟩ | ⟨_, hparts⟩ := b.parts_cases
    · rw [objection?_eq_none_iff.2 h] at he
      cases he
    · exact hparts
  obtain ⟨hlive, hmeasured⟩ := b.opened_ready hparts w
  obtain ⟨range, calls, hrange, hwithin, hlogged, hcases⟩ := Scene.render_first a cb hlive
    (Window.isExtent_pos hmeasured) hsize rfl
  have hcalls := calls_of_render hparts hlogged
  have hfirst : b.firstRange a w = .ok range := by
    rw [firstRange, ← b.measured_extent]
    exact hrange
  obtain ⟨hp, hrender, hstats, hmade⟩ | ⟨k, hrender, hstop⟩ := hcases
  · exact .inl ⟨_, _, entered_of_passed hreg hsize hsurface hparts hfirst hwithin hcalls hp hrender
      hstats hmade⟩
  · exact .inr ⟨k, _, takenBack_of_broken hreg hrest hfresh hsurface hcreate hparts hfirst hcalls
      hrender hstop⟩

end Builder

namespace Commons

variable [Container κ] {a : Arithmetic} {subs : κ → Subscribers} {E : Commons κ σ}

/-- Building in a world that is shared with others.

The answer is an error exactly if something is missing or wrong, and then the first such error; and
it is a window exactly if nothing is and the first pass does not break off. With an error nothing at
all has been done. Otherwise the window has entered the world, with one subscription more and its
first pass run, or its create function has given up on an item, and then the list and all else about
the area and the surface are as they were. -/
theorem Reachable.builds {β : Type} {rest : κ → β} (hreg : Registers a subs)
    (hrest : Container.Aside rest) (h : E.Reachable a subs)
    (hroom : E.registered.length < UInt32.size) (b : Builder σ α ε)
    (hsize : b.items.size ≤ maxIndex) :
    (b.objection? = none ↔ b.Complete) ∧
    (∀ e, (b.build a E.world).1 = .ok (.error e) ↔ b.objection? = some e) ∧
    ((∃ window, (b.build a E.world).1 = .ok (.ok window)) ↔
      b.Complete ∧ ∀ fault, (b.build a E.world).1 ≠ .error fault) ∧
    (∀ e, b.objection? = some e → b.Refused a E.world e) ∧
    (b.Complete → (∃ window w', b.Entered a subs E.world window w') ∨
      ∃ k w', b.TakenBack a subs rest E.world k w') := by
  have hcomplete (hb : b.Complete) := hb.entered_or_takenBack hreg hrest
    ((h.sound hreg).handle_new hroom) hsize
  have hanswers : (∃ e, b.objection? = some e ∧ (b.build a E.world).1 = .ok (.error e)) ∨
      b.Complete ∧ ((∃ window, (b.build a E.world).1 = .ok (.ok window)) ∨
        ∃ fault, (b.build a E.world).1 = .error fault) := by
    cases he : b.objection? with
    | some e => exact .inl ⟨e, rfl, congrArg Prod.fst (Builder.refused he).answer⟩
    | none =>
      have hb := Builder.objection?_eq_none_iff.1 he
      refine .inr ⟨hb, ?_⟩
      obtain ⟨window, w', hentered⟩ | ⟨k, w', htaken⟩ := hcomplete hb
      · exact .inl ⟨window, congrArg Prod.fst hentered.answer⟩
      · exact .inr ⟨_, congrArg Prod.fst htaken.answer⟩
  refine ⟨Builder.objection?_eq_none_iff, fun e => ⟨fun hbuild => ?_, fun he => ?_⟩, ⟨?_, ?_⟩,
    fun e he => Builder.refused he, hcomplete⟩
  · obtain ⟨e', he', hanswer⟩ | ⟨_, ⟨window, hanswer⟩ | ⟨fault, hanswer⟩⟩ := hanswers
    · cases hbuild.symm.trans hanswer
      exact he'
    · cases hbuild.symm.trans hanswer
    · cases hbuild.symm.trans hanswer
  · rw [(Builder.refused he).answer]
  · rintro ⟨window, hbuild⟩
    obtain ⟨e', _, hanswer⟩ | ⟨hb, _⟩ := hanswers
    · cases hbuild.symm.trans hanswer
    · exact ⟨hb, fun fault hfault => by cases hbuild.symm.trans hfault⟩
  · rintro ⟨hb, hquiet⟩
    obtain ⟨e', he', _⟩ | ⟨_, hwindow | ⟨fault, hfault⟩⟩ := hanswers
    · cases he'.symm.trans (Builder.objection?_eq_none_iff.2 hb)
    · exact hwindow
    · exact absurd hfault (hquiet fault)

/-- A window and a guest share the viewport of a terminal, and three windows are built there: one
without a create function and at no frame rate, one whose create function gives up on the second
item, and one that nothing is wrong with. -/
theorem builds_shared :
    ∃ E : Commons Screen.Viewport Unit,
      E.Reachable .binary64 Screen.Viewport.subscribers ∧ E.registered.length = 2 ∧
      E.world.container.subscribers.entries = [⟨0, 0⟩, ⟨1, 1⟩] ∧
      ({ Builder.copying #[7, 8] with create := none, config := { targetFps := 0 } } :
        Builder Unit Nat Nat).Refused .binary64 E.world .missingCreate ∧
      (∃ w', (Builder.stumbling #[7, 0]).TakenBack .binary64 Screen.Viewport.subscribers
        (fun v => (v.offset, v.height, v.reserved, v.content)) E.world 1 w' ∧
        w'.container.subscribers.entries = [⟨0, 0⟩, ⟨1, 1⟩]) ∧
      ∃ window w', (Builder.copying #[7, 8]).Entered .binary64 Screen.Viewport.subscribers E.world
        window w' ∧ w'.container.subscribers.entries = [⟨0, 0⟩, ⟨1, 1⟩, ⟨2, 2⟩] := by
  have hroom (n : Nat) (hn : n < 3) : n < UInt32.size := by
    have hsize : UInt32.size = 4294967296 := rfl
    omega
  obtain ⟨E, hE, htwo, hentries, hnext, hsize, hstumbled⟩ : ∃ E : Commons Screen.Viewport Unit,
      E.Reachable .binary64 Screen.Viewport.subscribers ∧ E.registered.length = 2 ∧
      E.world.container.subscribers.entries = [⟨0, 0⟩, ⟨1, 1⟩] ∧
      E.world.container.subscribers.nextHandle = 2 ∧ E.world.channels.size = 2 ∧
      ((Builder.stumbling #[7, 0]).build .binary64 E.world).2.container.subscribers.entries =
        [⟨0, 0⟩, ⟨1, 1⟩] := by
    let w₀ : World Screen.Viewport Unit :=
      { container := .ofTerminal 24 2, channels := #[], caller := () }
    obtain ⟨s, hs, _⟩ := Builder.build_total .binary64 (Builder.copying_parts #[4, 5, 6])
      (by decide) Callbacks.copying_total w₀
    have hrun : let w₁ := ((Builder.copying #[4, 5, 6]).build .binary64 w₀).2
        let w := (World.register 1 { w₁ with channels := (w₁.channels.openWith 4).1 }).1
        w.container.subscribers.entries = [⟨0, 0⟩, ⟨1, 1⟩] ∧
          w.container.subscribers.nextHandle = 2 ∧ w.channels.size = 2 ∧
          ((Builder.stumbling #[7, 0]).build .binary64 w).2.container.subscribers.entries =
            [⟨0, 0⟩, ⟨1, 1⟩] := by decide +kernel
    rw [hs] at hrun
    have hempty : Reachable .binary64 Screen.Viewport.subscribers
        ({ world := w₀ } : Commons Screen.Viewport Unit) := ⟨w₀, rfl, .refl⟩
    have hwindow := hempty.step
      (.build (k := 0) rfl (hroom 0 (by omega)) (Builder.copying_parts _) hs)
    exact ⟨_, (hwindow.step (.openWith 4)).step (.list 1 (hroom 1 (by omega))), rfl, hrun⟩
  have hall (b : Builder Unit Nat Nat) (hb : b.items.size ≤ maxIndex) :=
    hE.builds (Screen.Viewport.registers .binary64) Screen.Viewport.aside
      (htwo ▸ hroom 2 (by omega)) b hb
  refine ⟨E, hE, htwo, hentries, ?_, ?_, ?_⟩
  · obtain ⟨_, _, _, hrefused, _⟩ := hall
      { Builder.copying #[7, 8] with create := none, config := { targetFps := 0 } } (by decide)
    exact hrefused _ rfl
  · obtain ⟨hiff, _, _, _, hcases⟩ := hall (Builder.stumbling #[7, 0]) (by decide)
    obtain ⟨window, w', hentered⟩ | ⟨k, w', htaken⟩ := hcases (hiff.1 (by decide +kernel))
    · rw [hentered.answer] at hstumbled
      have hlonger : w'.container.subscribers.entries = _ := congrArg (·.entries) hentered.list
      rw [hlonger] at hstumbled
      simp [Subscribers.add, hentries] at hstumbled
    · obtain ⟨_, _, _, _, hcreate, _, _, _, _, _, item, c, _, hitem, hgaveup, _⟩ := htaken.calls
      obtain rfl : k = 1 := by
        rcases k with _ | _ | k
        · cases hcreate
          cases hitem
          cases hgaveup
        · rfl
        · cases hitem
      refine ⟨w', htaken, ?_⟩
      rw [htaken.list]
      exact hentries
  · obtain ⟨hiff, _, _, _, hcases⟩ := hall (Builder.copying #[7, 8]) (by decide)
    obtain ⟨window, w', hentered⟩ | ⟨k, w', htaken⟩ := hcases (hiff.1 (by decide +kernel))
    · refine ⟨window, w', hentered, ?_⟩
      rw [hentered.list]
      exact congrArg₂ (· ++ ·) hentries (by rw [hnext, hsize])
    · obtain ⟨_, hbuilds, _⟩ := Builder.build_total (κ := Screen.Viewport) .binary64
        (Builder.copying_parts #[7, 8]) (by decide) Callbacks.copying_total E.world
      cases hbuilds.symm.trans htaken.answer

end Commons

end ListWindow
