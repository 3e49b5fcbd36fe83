import ListWindow.Proofs.Delivery
import ListWindow.Proofs.Ensemble
import ListWindow.Proofs.Viewport

/-!
A scroll area of whatever kind that any number of windows and others share, in every way they can:
windows are built, asked, broken off, destroyed and dropped, and others move the area, open, list,
fill, empty and close channels and take entries off the list, also those of windows.

`Registers` lists what is needed of the area: it changes its list of subscribers as it is told, and
otherwise only by broadcasting. Then while no more than `2 ^ 32` subscriptions are made, every live
window has a subscription that no other window has in common with it, its channel stays open, and
its entry stays on the list unless somebody else takes it off by its handle
(`Commons.Reachable.sound`).
-/
namespace ListWindow

open List (Sublist)
open scoped List

variable {κ σ α ε : Type}

/-! ## What is told to a list -/

namespace Subscribers

def broadcastAll : List ViewportEvent → Subscribers → Channels → Subscribers × Channels
  | [], s, cs => (s, cs)
  | event :: rest, s, cs => broadcastAll rest (s.broadcast event cs).1 (s.broadcast event cs).2

theorem broadcastAll_next (events : List ViewportEvent) (s : Subscribers) (cs : Channels) :
    (broadcastAll events s cs).1.nextHandle = s.nextHandle := by
  induction events generalizing s cs with
  | nil => rfl
  | cons event rest ih => exact ih _ _

theorem broadcastAll_sublist (events : List ViewportEvent) (s : Subscribers) (cs : Channels) :
    (broadcastAll events s cs).1.entries <+ s.entries := by
  induction events generalizing s cs with
  | nil => exact Sublist.refl _
  | cons event rest ih =>
    have hfirst : (s.broadcast event cs).1.entries <+ s.entries := by
      rw [broadcast_entries]
      exact List.filter_sublist
    exact (ih _ _).trans hfirst

theorem broadcastAll_kept (events : List ViewportEvent) {s : Subscribers} {cs : Channels} {id : Nat}
    (h : cs.Open id) :
    (broadcastAll events s cs).2.Open id ∧
      ∀ entry ∈ s.entries, entry.channel = id → entry ∈ (broadcastAll events s cs).1.entries := by
  induction events generalizing s cs with
  | nil => exact ⟨h, fun _ hentry _ => hentry⟩
  | cons event rest ih =>
    obtain ⟨hopen, hkept⟩ := announce_reaches event s.entries h
    obtain ⟨hopen', hkept'⟩ := ih (s := (s.broadcast event cs).1) hopen
    refine ⟨hopen', ?_⟩
    intro entry hentry hid
    exact hkept' entry (hkept entry hentry hid).1 hid

end Subscribers

/-- Whatever has become of an area, its list has changed by broadcasts only. -/
def Relayed (subs : κ → Subscribers) (c : κ) (cs : Channels) (c' : κ) (cs' : Channels) : Prop :=
  ∃ events, (subs c', cs') = Subscribers.broadcastAll events (subs c) cs

/-- A scroll area keeps its list of subscribers as it is told. -/
structure Registers [Container κ] (a : Arithmetic) (subs : κ → Subscribers) : Prop where
  subscribe : ∀ channel c,
    subs (Container.subscribe channel c).1 = ((subs c).add channel).1 ∧
      (Container.subscribe channel c).2 = ((subs c).add channel).2
  unsubscribe : ∀ handle c, subs (Container.unsubscribe handle c) = ((subs c).remove handle).1
  scroll : ∀ offset c cs, Relayed subs c cs (Container.setScrollOffset a offset c cs).1
    (Container.setScrollOffset a offset c cs).2
  content : ∀ extent c, subs (Container.setContentExtent a extent c) = subs c

theorem Registers.relayed_content [Container κ] {a : Arithmetic} {subs : κ → Subscribers}
    (hreg : Registers a subs) (extent : Scalar) (c : κ) (cs : Channels) :
    Relayed subs c cs (Container.setContentExtent a extent c) cs :=
  ⟨[], by rw [hreg.content]; rfl⟩

theorem ScrollArea.registers (a : Arithmetic) : Registers a ScrollArea.subscribers where
  subscribe _ _ := ⟨rfl, rfl⟩
  unsubscribe _ _ := rfl
  scroll offset _ _ := ⟨[.scroll offset], rfl⟩
  content _ _ := rfl

theorem Screen.Viewport.registers (a : Arithmetic) : Registers a Screen.Viewport.subscribers where
  subscribe _ _ := ⟨rfl, rfl⟩
  unsubscribe _ _ := rfl
  scroll offset v cs := by
    show Relayed Screen.Viewport.subscribers v cs (v.scrollTo a offset cs).1
      (v.scrollTo a offset cs).2
    rw [Screen.Viewport.scrollTo]
    dsimp only
    split
    · exact ⟨[], rfl⟩
    · exact ⟨[.scroll (v.clampOffset a offset)], rfl⟩
  content extent v := (Screen.Viewport.setContent_frame a extent v).1

/-! ## What a touch leaves of the list -/

/-- A subscription is good: its channel is open, and it is listed unless its handle is among those
that somebody else has withdrawn. -/
structure Stands (subs : κ → Subscribers) (withdrawn : List UInt32) (mine : Subscription)
    (w : World κ σ) : Prop where
  channel : w.channels.Open mine.channel
  listed : mine.handle ∉ withdrawn → mine ∈ (subs w.container).entries

namespace Stands

variable {subs : κ → Subscribers} {withdrawn : List UInt32} {mine : Subscription}
  {w w' : World κ σ}

theorem of_open (h : Stands subs withdrawn mine w) (hopen : w'.channels.Open mine.channel)
    (hlist : subs w'.container = subs w.container) : Stands subs withdrawn mine w' where
  channel := hopen
  listed hkept := hlist ▸ h.listed hkept

end Stands

/-- Entries have gone at most, and no handle has been given out. -/
structure Subscribers.Shrinks (s s' : Subscribers) : Prop where
  entries : s'.entries <+ s.entries
  next : s'.nextHandle = s.nextHandle

theorem Subscribers.Shrinks.refl (s : Subscribers) : s.Shrinks s := ⟨Sublist.refl _, rfl⟩

theorem Subscribers.Shrinks.trans {s s' s'' : Subscribers} (h : s.Shrinks s')
    (h' : s'.Shrinks s'') : s.Shrinks s'' :=
  ⟨h'.entries.trans h.entries, h'.next.trans h.next⟩

theorem Subscribers.remove_shrinks (handle : UInt32) (s : Subscribers) :
    s.Shrinks (s.remove handle).1 := ⟨List.filter_sublist, rfl⟩

namespace World

variable [Container κ] {a : Arithmetic} {subs : κ → Subscribers} {withdrawn : List UInt32}
  {reads ends : Subscription → Prop} {mine : Subscription} {w w' : World κ σ}

theorem Touch.shrinks (hreg : Registers a subs) (h : Touch (Relayed subs) reads ends w w') :
    (subs w.container).Shrinks (subs w'.container) := by
  cases h with
  | @move c cs hmoves =>
    obtain ⟨events, htold⟩ := hmoves
    have hsubs : subs c = _ := congrArg Prod.fst htold
    show (subs w.container).Shrinks (subs c)
    rw [hsubs]
    exact ⟨Subscribers.broadcastAll_sublist _ _ _, Subscribers.broadcastAll_next _ _ _⟩
  | caller c => exact .refl _
  | receive _ => exact .refl _
  | take _ => exact .refl _
  | @unlist sub _ =>
    show (subs w.container).Shrinks (subs (Container.unsubscribe sub.handle w.container))
    rw [hreg.unsubscribe]
    exact Subscribers.remove_shrinks _ _
  | close _ => exact .refl _

theorem Touch.stands (hreg : Registers a subs) (h : Touch (Relayed subs) reads ends w w')
    (hends : ∀ sub, ends sub → sub.Apart mine) (hmine : Stands subs withdrawn mine w) :
    Stands subs withdrawn mine w' := by
  cases h with
  | @move c cs hmoves =>
    obtain ⟨events, htold⟩ := hmoves
    obtain ⟨hsubs, hcs⟩ := Prod.mk.inj htold
    obtain ⟨hopen, hkept⟩ := Subscribers.broadcastAll_kept events (s := subs w.container)
      hmine.channel
    refine ⟨?_, fun hlisted => ?_⟩
    · show cs.Open mine.channel
      rw [hcs]
      exact hopen
    · show mine ∈ (subs c).entries
      rw [hsubs]
      exact hkept mine (hmine.listed hlisted) rfl
  | caller c => exact hmine.of_open hmine.channel rfl
  | receive _ => exact hmine.of_open (hmine.channel.receive _) rfl
  | take _ => exact hmine.of_open (hmine.channel.drain _) rfl
  | @unlist sub hsub =>
    refine ⟨hmine.channel, fun hlisted => ?_⟩
    show mine ∈ (subs (Container.unsubscribe sub.handle w.container)).entries
    rw [hreg.unsubscribe]
    refine List.mem_filter.2 ⟨hmine.listed hlisted, ?_⟩
    simpa using (hends sub hsub).1.symm
  | close hsub =>
    exact hmine.of_open
      (Channels.open_of_same (Channels.close_getElem?_of_ne (hends _ hsub).2) hmine.channel).1 rfl

theorem Touches.shrinks (hreg : Registers a subs) (h : Touches (Relayed subs) reads ends w w') :
    (subs w.container).Shrinks (subs w'.container) := by
  induction h with
  | refl => exact .refl _
  | tail _ hlast ih => exact ih.trans (hlast.shrinks hreg)

theorem Touches.stands (hreg : Registers a subs) (h : Touches (Relayed subs) reads ends w w')
    (hends : ∀ sub, ends sub → sub.Apart mine) (hmine : Stands subs withdrawn mine w) :
    Stands subs withdrawn mine w' := by
  induction h with
  | refl => exact hmine
  | tail _ hlast ih => exact hlast.stands hreg hends ih

end World

/-! ## What a window leaves of the list -/

namespace Scene

variable [Container κ] {a : Arithmetic} {subs : κ → Subscribers} {s : Scene κ σ α ε}

/-- Whatever is asked of a window, it moves the area and takes its own events only, and keeps its
subscription, unless it is destroyed. -/
theorem perform_shared (hreg : Registers a subs) (cb : Callbacks σ α ε) (r : Request α)
    (s : Scene κ σ α ε) :
    s.Treads (Relayed subs) (s.perform a cb r).2 ∨
      s.window.isDestroyed = false ∧ (s.perform a cb r).2 = s.destroy := by
  by_cases hr : r = .destroy
  · subst hr
    cases hlive : s.window.isDestroyed with
    | true =>
      rw [perform_destroyed hlive]
      exact .inl (.refl s)
    | false => exact .inr ⟨rfl, rfl⟩
  · exact .inl (perform_treads hreg.relayed_content hreg.scroll cb r hr s)

theorem perform_live {cb : Callbacks σ α ε} {r : Request α}
    (h : (s.perform a cb r).2.window.isDestroyed = false) : s.window.isDestroyed = false := by
  cases hlive : s.window.isDestroyed with
  | false => rfl
  | true =>
    rw [perform_destroyed hlive, hlive] at h
    cases h

theorem destroy_window (hlive : s.window.isDestroyed = false) :
    s.destroy.window = { s.window with
      registry := {}
      items := #[]
      surface := s.window.surface.clear
      throttle := s.window.throttle.reset
      range := .empty
      spacers := {}
      subscription := none
      estimator := s.window.estimator.markDestroyed } := by
  simp [destroy, hlive, unsubscribe_window]

end Scene

/-! ## Windows and others in one world -/

def Resident.inWorld (res : Resident σ) (w : World κ σ) : Scene κ σ res.α res.ε :=
  { window := res.window, world := w }

/-- A shared world and the windows in it, every subscription ever made, and the handles whose
entries somebody else than their holder has taken off the list. -/
structure Commons (κ σ : Type) where
  world : World κ σ
  windows : Nat → Option (Resident σ) := fun _ => none
  registered : List Subscription := []
  withdrawn : List UInt32 := []

namespace Commons

/-- The subscription is that of a window. -/
def Holds (E : Commons κ σ) (k : Nat) (mine : Subscription) : Prop :=
  ∃ res, E.windows k = some res ∧ res.window.subscription = some mine

/-- The subscription has nothing in common with that of any window. -/
def Foreign (E : Commons κ σ) (sub : Subscription) : Prop :=
  ∀ k mine, E.Holds k mine → sub.Apart mine

/-- The list as it would be if no entry had ever been taken off. -/
def roll (subs : κ → Subscribers) (E : Commons κ σ) : Subscribers :=
  { subs E.world.container with entries := E.registered }

/-- The handles are accounted for, and every live window has a good subscription that has nothing in
common with those of the others. -/
structure Sound (subs : κ → Subscribers) (E : Commons κ σ) : Prop where
  bounded : E.registered.length ≤ UInt32.size
  numbered : (E.roll subs).Numbered E.registered.length
  order : (subs E.world.container).entries <+ E.registered
  holds : ∀ k mine, E.Holds k mine → mine ∈ E.registered ∧ Stands subs E.withdrawn mine E.world
  apart : ∀ k l mine other, k ≠ l → E.Holds k mine → E.Holds l other → mine.Apart other
  live : ∀ k res, E.windows k = some res → res.window.isDestroyed = false →
    ∃ mine, res.window.subscription = some mine

variable {subs : κ → Subscribers} {E E' : Commons κ σ}

theorem Sound.nodup (h : E.Sound subs) : (E.registered.map (·.handle)).Nodup :=
  h.numbered.nodup h.bounded

/-- Nothing is registered, and the subscriptions that the windows still have are good. -/
theorem Sound.keep (h : E.Sound subs) (hregistered : E'.registered = E.registered)
    (hlist : (subs E.world.container).Shrinks (subs E'.world.container))
    (hholds : ∀ k mine, E'.Holds k mine →
      E.Holds k mine ∧ Stands subs E'.withdrawn mine E'.world)
    (hlive : ∀ k res, E'.windows k = some res → res.window.isDestroyed = false →
      ∃ mine, res.window.subscription = some mine) : E'.Sound subs where
  bounded := hregistered ▸ h.bounded
  numbered := by
    have hroll : E'.roll subs = E.roll subs := by
      rw [roll, roll, hregistered, hlist.next]
    rw [hroll, hregistered]
    exact h.numbered
  order := hregistered ▸ hlist.entries.trans h.order
  holds := by
    intro k mine hk
    obtain ⟨hold, hstands⟩ := hholds k mine hk
    exact ⟨hregistered ▸ (h.holds k mine hold).1, hstands⟩
  apart := fun k l mine other hne hk hl =>
    h.apart k l mine other hne (hholds k mine hk).1 (hholds l other hl).1
  live := hlive

theorem Sound.outside (h : E.Sound subs) {w : World κ σ} {withdrawn : List UInt32}
    (hlist : (subs E.world.container).Shrinks (subs w.container))
    (hstands : ∀ k mine, E.Holds k mine → Stands subs E.withdrawn mine E.world →
      Stands subs withdrawn mine w) :
    ({ E with world := w, withdrawn := withdrawn } : Commons κ σ).Sound subs :=
  h.keep rfl hlist (fun k mine hk => ⟨hk, hstands k mine hk (h.holds k mine hk).2⟩) h.live

theorem Sound.openWith (h : E.Sound subs) (capacity : Nat) :
    ({ E with world := { E.world with channels := (E.world.channels.openWith capacity).1 } } :
      Commons κ σ).Sound subs := by
  refine h.outside (.refl _) ?_
  intro k mine _ hstands
  exact hstands.of_open (Channels.open_of_same
    (Channels.openWith_getElem?_of_lt capacity hstands.channel.lt_size) hstands.channel).1 rfl

/-- A window is put in with a good subscription that has nothing to do with those of the others. -/
theorem Sound.settle (h : E.Sound subs) {k : Nat} {new : Resident σ} {mine : Subscription}
    (hmine : new.window.subscription = some mine) (hmem : mine ∈ E.registered)
    (hstands : Stands subs E.withdrawn mine E.world) (hforeign : E.Foreign mine) :
    ({ E with windows := Function.update E.windows k (some new) } : Commons κ σ).Sound subs := by
  have hcases : ∀ l sub, Holds { E with windows := Function.update E.windows k (some new) } l sub →
      (l = k ∧ sub = mine) ∨ (l ≠ k ∧ E.Holds l sub) := by
    intro l sub hl
    obtain ⟨res, hl, hsub⟩ := hl
    obtain ⟨hlk, hput⟩ | ⟨hne, hl⟩ := Resident.update_cases hl
    · obtain rfl := Option.some.inj hput
      exact .inl ⟨hlk, Option.some.inj (hsub.symm.trans hmine)⟩
    · exact .inr ⟨hne, res, hl, hsub⟩
  refine ⟨h.bounded, h.numbered, h.order, ?_, ?_, ?_⟩
  · intro l sub hl
    obtain ⟨_, rfl⟩ | ⟨_, hl⟩ := hcases l sub hl
    · exact ⟨hmem, hstands⟩
    · exact h.holds l sub hl
  · intro l l' sub other hne hl hl'
    obtain ⟨rfl, rfl⟩ | ⟨_, hl⟩ := hcases l sub hl
    · obtain ⟨rfl, _⟩ | ⟨_, hl'⟩ := hcases l' other hl'
      · exact absurd rfl hne
      · exact hforeign l' other hl'
    · obtain ⟨_, rfl⟩ | ⟨_, hl'⟩ := hcases l' other hl'
      · exact (hforeign l sub hl).symm
      · exact h.apart l l' sub other hne hl hl'
  · intro l res hl hlive
    obtain ⟨_, hput⟩ | ⟨_, hl⟩ := Resident.update_cases hl
    · obtain rfl := Option.some.inj hput
      exact ⟨mine, hmine⟩
    · exact h.live l res hl hlive

/-! ## Steps -/

variable [Container κ]

def entered (E : Commons κ σ) (capacity : Nat) : Commons κ σ :=
  { E with
    world := (E.world.enter capacity).1
    registered := E.registered ++ [(E.world.enter capacity).2] }

/-- What happens in a shared world. -/
inductive Step (a : Arithmetic) (subs : κ → Subscribers) (E : Commons κ σ) :
    Commons κ σ → Prop where
  /-- Somebody moves the area, uses the caller's state, or uses or gives up a subscription that has
  nothing to do with those of the windows. -/
  | act {w : World κ σ} : World.Touch (Relayed subs) E.Foreign E.Foreign E.world w →
      Step a subs E { E with world := w }
  /-- Somebody sends an event to one channel. -/
  | emit (channel : Nat) (event : ViewportEvent) :
      Step a subs E
        { E with world := { E.world with channels := (E.world.channels.send channel event).1 } }
  /-- Somebody opens a channel. -/
  | openWith (capacity : Nat) :
      Step a subs E
        { E with world := { E.world with channels := (E.world.channels.openWith capacity).1 } }
  /-- Somebody lists a channel. -/
  | list (channel : Nat) : E.registered.length < UInt32.size →
      Step a subs E
        { E with
          world := (E.world.register channel).1
          registered := E.registered ++ [(E.world.register channel).2] }
  /-- Somebody takes an entry off the list by its handle, whosever it is. -/
  | withdraw (handle : UInt32) :
      Step a subs E
        { E with
          world := { E.world with container := Container.unsubscribe handle E.world.container }
          withdrawn := handle :: E.withdrawn }
  /-- Something is asked of a window, and may break off. -/
  | ask {k : Nat} {res : Resident σ} (r : Request res.α) : E.windows k = some res →
      Step a subs E
        { E with
          world := ((res.inWorld E.world).perform a res.cb r).2.world
          windows := Function.update E.windows k
            (some { res with window := ((res.inWorld E.world).perform a res.cb r).2.window }) }
  /-- A window is built. -/
  | build {α ε : Type} {k : Nat} {b : Builder σ α ε} {surface : Surface ε} {cb : Callbacks σ α ε}
      {window : Window α ε} {w : World κ σ} :
      E.windows k = none → E.registered.length < UInt32.size → b.parts = .ok (surface, cb) →
      b.build a E.world = (.ok (.ok window), w) →
      Step a subs E
        { E.entered b.config.eventCapacity with
          world := w
          windows := Function.update E.windows k (some { cb, window }) }
  /-- The first pass of a window breaks off. -/
  | fail {α ε : Type} {b : Builder σ α ε} {surface : Surface ε} {cb : Callbacks σ α ε}
      {fault : Fault} {w : World κ σ} :
      E.registered.length < UInt32.size → b.parts = .ok (surface, cb) →
      b.build a E.world = (.error fault, w) →
      Step a subs E { E.entered b.config.eventCapacity with world := w }
  /-- A window is dropped. -/
  | drop {k : Nat} {res : Resident σ} : E.windows k = some res →
      Step a subs E
        { E with
          world := (res.inWorld E.world).unsubscribe.world
          windows := Function.update E.windows k none }

/-- What comes of all runs that start from an area nobody has subscribed to. -/
def Reachable (a : Arithmetic) (subs : κ → Subscribers) (E : Commons κ σ) : Prop :=
  ∃ w : World κ σ, subs w.container = {} ∧ Relation.ReflTransGen (Step a subs) { world := w } E

variable {a : Arithmetic}

theorem Sound.depart (hreg : Registers a subs) (h : E.Sound subs) {k : Nat} {res : Resident σ}
    (hk : E.windows k = some res) {new : Option (Resident σ)}
    (hnew : ∀ left, new = some left →
      left.window.subscription = none ∧ left.window.isDestroyed = true) :
    ({ E with
        world := (res.inWorld E.world).unsubscribe.world
        windows := Function.update E.windows k new } : Commons κ σ).Sound subs := by
  have htouches : World.Touches (Relayed subs) Subscription.none (res.inWorld E.world).Mine
      E.world (res.inWorld E.world).unsubscribe.world := (res.inWorld E.world).unsubscribe_touches
  refine h.keep rfl (htouches.shrinks hreg) ?_ ?_
  · intro l mine hl
    obtain ⟨other, hl, hmine⟩ := hl
    obtain ⟨_, hleft⟩ | ⟨hne, hl⟩ := Resident.update_cases hl
    · rw [(hnew other hleft).1] at hmine
      cases hmine
    · have hother : E.Holds l mine := ⟨other, hl, hmine⟩
      refine ⟨hother, htouches.stands hreg ?_ (h.holds l mine hother).2⟩
      intro sub hsub
      exact h.apart k l sub mine hne.symm ⟨res, hk, hsub⟩ hother
  · intro l other hl hlive
    obtain ⟨_, hleft⟩ | ⟨_, hl⟩ := Resident.update_cases hl
    · rw [(hnew other hleft).2] at hlive
      cases hlive
    · exact h.live l other hl hlive

theorem Sound.ask (hreg : Registers a subs) (h : E.Sound subs) {k : Nat} {res : Resident σ}
    (hk : E.windows k = some res) (r : Request res.α) :
    ({ E with
        world := ((res.inWorld E.world).perform a res.cb r).2.world
        windows := Function.update E.windows k
          (some { res with window := ((res.inWorld E.world).perform a res.cb r).2.window }) } :
      Commons κ σ).Sound subs := by
  obtain htreads | ⟨hlive, hdestroy⟩ :=
    Scene.perform_shared hreg res.cb r (res.inWorld E.world)
  · have htouches : World.Touches (Relayed subs) (res.inWorld E.world).Mine Subscription.none
        E.world ((res.inWorld E.world).perform a res.cb r).2.world := htreads.touches
    refine h.keep rfl (htouches.shrinks hreg) ?_ ?_
    · intro l mine hl
      have hold : E.Holds l mine := by
        obtain ⟨other, hl, hmine⟩ := hl
        obtain ⟨rfl, hput⟩ | ⟨_, hl⟩ := Resident.update_cases hl
        · obtain rfl := Option.some.inj hput
          exact ⟨res, hk, htreads.keeps.symm.trans hmine⟩
        · exact ⟨other, hl, hmine⟩
      exact ⟨hold, htouches.stands hreg (fun _ => False.elim) (h.holds l mine hold).2⟩
    · intro l other hl hlive
      obtain ⟨rfl, hput⟩ | ⟨_, hl⟩ := Resident.update_cases hl
      · obtain rfl := Option.some.inj hput
        obtain ⟨mine, hmine⟩ := h.live l res hk (Scene.perform_live hlive)
        exact ⟨mine, htreads.keeps.trans hmine⟩
      · exact h.live l other hl hlive
  · rw [hdestroy, Scene.destroy_world hlive]
    apply h.depart hreg hk
    rintro left ⟨rfl⟩
    rw [Scene.destroy_window hlive]
    exact ⟨rfl, rfl⟩

/-! ## Newcomers -/

theorem register_eq (hreg : Registers a subs) (channel : Nat) (w : World κ σ) :
    subs (w.register channel).1.container = ((subs w.container).add channel).1 ∧
      (w.register channel).2 = ⟨(subs w.container).nextHandle, channel⟩ := by
  obtain ⟨hlist, hhandle⟩ := hreg.subscribe channel w.container
  refine ⟨hlist, ?_⟩
  rw [World.register, hhandle]
  rfl

theorem Sound.list (hreg : Registers a subs) (h : E.Sound subs)
    (hroom : E.registered.length < UInt32.size) (channel : Nat) :
    ({ E with
        world := (E.world.register channel).1
        registered := E.registered ++ [(E.world.register channel).2] } :
      Commons κ σ).Sound subs := by
  obtain ⟨hlist, hnew⟩ := register_eq hreg channel E.world
  refine ⟨?_, ?_, ?_, ?_, h.apart, h.live⟩
  · rw [List.length_append]
    exact hroom
  · have hroll : roll subs { E with
          world := (E.world.register channel).1
          registered := E.registered ++ [(E.world.register channel).2] } =
        ((E.roll subs).add channel).1 := by
      rw [roll, hlist, hnew]
      rfl
    rw [hroll, List.length_append]
    exact h.numbered.add channel
  · rw [hlist, hnew]
    exact h.order.append (Sublist.refl _)
  · intro k mine hk
    obtain ⟨hmem, hstands⟩ := h.holds k mine hk
    refine ⟨List.mem_append_left _ hmem, hstands.channel, fun hlisted => ?_⟩
    rw [hlist]
    exact List.mem_append_left _ (hstands.listed hlisted)

/-- The new subscription is good and has nothing in common with those of the windows. -/
theorem Sound.enter (hreg : Registers a subs) (h : E.Sound subs)
    (hroom : E.registered.length < UInt32.size) (capacity : Nat) :
    (E.entered capacity).Sound subs ∧
      Stands subs E.withdrawn (E.world.enter capacity).2 (E.entered capacity).world ∧
      (E.entered capacity).Foreign (E.world.enter capacity).2 := by
  have hsound : (E.entered capacity).Sound subs := (h.openWith capacity).list hreg hroom _
  obtain ⟨hlist, hnew⟩ := register_eq hreg (E.world.channels.openWith capacity).2
    { E.world with channels := (E.world.channels.openWith capacity).1 }
  refine ⟨hsound, ⟨Channels.openWith_open capacity E.world.channels, fun _ => ?_⟩, ?_⟩
  · show (E.world.enter capacity).2 ∈ (subs (E.world.enter capacity).1.container).entries
    rw [World.enter, hlist, hnew]
    exact List.mem_append_right _ List.mem_cons_self
  · intro k mine hk
    obtain ⟨hmem, hstands⟩ := h.holds k mine hk
    refine ⟨?_, (Nat.ne_of_lt hstands.channel.lt_size).symm⟩
    have hnodup := hsound.nodup
    rw [entered, List.map_append, List.nodup_append] at hnodup
    exact (hnodup.2.2 mine.handle (List.mem_map_of_mem hmem) _ (by simp)).symm

theorem Step.sound (hreg : Registers a subs) (hstep : Step a subs E E') (h : E.Sound subs) :
    E'.Sound subs := by
  cases hstep with
  | @act w htouch =>
    refine h.outside (htouch.shrinks hreg) ?_
    intro k mine hk hstands
    exact htouch.stands hreg (fun sub hsub => hsub k mine hk) hstands
  | emit channel event =>
    refine h.outside (.refl _) ?_
    intro k mine _ hstands
    exact hstands.of_open (hstands.channel.send event channel) rfl
  | openWith capacity => exact h.openWith capacity
  | list channel hroom => exact h.list hreg hroom channel
  | withdraw handle =>
    refine h.outside ?_ ?_
    · show (subs E.world.container).Shrinks (subs (Container.unsubscribe handle E.world.container))
      rw [hreg.unsubscribe]
      exact Subscribers.remove_shrinks _ _
    · intro k mine _ hstands
      refine ⟨hstands.channel, fun hlisted => ?_⟩
      obtain ⟨hne, hlisted⟩ := not_or.1 (mt List.mem_cons.2 hlisted)
      show mine ∈ (subs (Container.unsubscribe handle E.world.container)).entries
      rw [hreg.unsubscribe]
      exact List.mem_filter.2 ⟨hstands.listed hlisted, by simpa using hne⟩
  | ask r hk => exact h.ask hreg hk r
  | @build α ε k b surface cb window w hfree hroom hparts hbuild =>
    obtain ⟨hsound, hstands, hforeign⟩ := h.enter hreg hroom b.config.eventCapacity
    obtain ⟨w', htouches, ⟨window', hbuilt, hmine⟩ | ⟨fault, hbroken⟩⟩ :=
      b.build_touches hreg.relayed_content hparts E.world
    · cases hbuild.symm.trans hbuilt
      have hkept : Sound subs { E.entered b.config.eventCapacity with world := w } :=
        hsound.outside (htouches.shrinks hreg) fun k mine _ =>
          htouches.stands hreg fun _ => False.elim
      have hsettled : Sound subs { E.entered b.config.eventCapacity with
          world := w
          windows := Function.update E.windows k (some { cb, window }) } :=
        hkept.settle hmine (List.mem_append_right _ List.mem_cons_self)
          (htouches.stands hreg (fun _ => False.elim) hstands) hforeign
      exact hsettled
    · cases hbuild.symm.trans hbroken
  | @fail α ε b surface cb fault w hroom hparts hbuild =>
    -- the subscription has been made and given up again, and its handle is not given out twice
    obtain ⟨hsound, _, hforeign⟩ := h.enter hreg hroom b.config.eventCapacity
    obtain ⟨w', htouches, ⟨window, hbuilt, _⟩ | ⟨fault', hbroken⟩⟩ :=
      b.build_touches hreg.relayed_content hparts E.world
    · cases hbuild.symm.trans hbuilt
    · cases hbuild.symm.trans hbroken
      have hleft : World.Touches (Relayed subs) (· = (E.world.enter b.config.eventCapacity).2)
          (· = (E.world.enter b.config.eventCapacity).2) w'
          (w'.without (E.world.enter b.config.eventCapacity).2) := World.without_touches _ w'
      refine hsound.outside ((htouches.shrinks hreg).trans (hleft.shrinks hreg)) ?_
      intro k mine hk hstands
      refine hleft.stands hreg ?_ (htouches.stands hreg (fun _ => False.elim) hstands)
      rintro sub rfl
      exact hforeign k mine hk
  | drop hk => exact h.depart hreg hk fun _ hnone => by cases hnone

theorem Reachable.step (h : E.Reachable a subs) (hstep : Step a subs E E') :
    E'.Reachable a subs := by
  obtain ⟨w, hw, hrun⟩ := h
  exact ⟨w, hw, hrun.tail hstep⟩

/-- In every run the windows have good subscriptions that have nothing in common. -/
theorem Reachable.sound (hreg : Registers a subs) (h : E.Reachable a subs) : E.Sound subs := by
  obtain ⟨w, hw, hrun⟩ := h
  induction hrun with
  | refl =>
    refine ⟨Nat.zero_le _, ⟨?_, Sublist.refl _⟩, ?_, ?_, ?_, ?_⟩
    · show (subs w.container).nextHandle = _
      rw [hw]
      rfl
    · show (subs w.container).entries <+ []
      rw [hw]
    · rintro k mine ⟨res, hk, _⟩
      cases hk
    · rintro k l mine other _ ⟨res, hk, _⟩
      cases hk
    · intro k res hk
      cases hk
  | tail _ hlast ih => exact hlast.sound hreg ih

end Commons

end ListWindow
