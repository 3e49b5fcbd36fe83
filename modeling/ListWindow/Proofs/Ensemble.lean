import ListWindow.Proofs.Footprint
import Mathlib.Logic.Function.Basic

/-!
One scroll area that any number of windows and listeners share. They come and go in any order, and
at most `2 ^ 32` subscriptions are made. `Ledger` keeps account of the handles and channels that
have been given out: no two holders have one in common, so nothing that one of them does passes
another by. It follows that every live window whose functions never give up hears of every change,
and is up to date unless something waits for it (`Ensemble.Reachable.sound`).
-/
namespace ListWindow

variable {σ : Type}

/-- A window with the functions that its caller gave it. -/
structure Resident (σ : Type) where
  {α : Type}
  {ε : Type}
  cb : Callbacks σ α ε
  window : Window α ε

def Resident.scene (res : Resident σ) (w : World ScrollArea σ) : Scene ScrollArea σ res.α res.ε :=
  { window := res.window, world := w }

theorem Resident.update_cases {windows : Nat → Option (Resident σ)} {k l : Nat}
    {new : Option (Resident σ)} {res : Resident σ}
    (h : Function.update windows k new l = some res) :
    (l = k ∧ new = some res) ∨ (l ≠ k ∧ windows l = some res) := by
  by_cases hlk : l = k
  · subst hlk
    rw [Function.update_self] at h
    exact .inl ⟨rfl, h⟩
  · rw [Function.update_of_ne hlk] at h
    exact .inr ⟨hlk, h⟩

/-- A shared world, the windows that were built in it, the subscriptions of all other listeners,
and how many subscriptions have been made. -/
structure Ensemble (σ : Type) where
  world : World ScrollArea σ
  windows : Nat → Option (Resident σ) := fun _ => none
  listeners : List Subscription := []
  made : Nat := 0

def Ensemble.held (E : Ensemble σ) (k : Nat) : Option Subscription :=
  (E.windows k).bind fun res => res.window.subscription

def World.next (w : World ScrollArea σ) (channel : Nat) : Subscription :=
  ⟨w.container.subscribers.nextHandle, channel⟩

def World.listed (w : World ScrollArea σ) (channel : Nat) : World ScrollArea σ :=
  { w with container.subscribers := (w.container.subscribers.add channel).1 }

/-- The world once a channel is opened and listed. -/
def World.joined (w : World ScrollArea σ) (capacity : Nat) : World ScrollArea σ :=
  { w.listed w.channels.size with channels := (w.channels.openWith capacity).1 }

namespace Ensemble

/-- What happens in a shared world. -/
inductive Step (a : Arithmetic) (E : Ensemble σ) : Ensemble σ → Prop where
  /-- Somebody scrolls or sizes the area, or a listener uses what it has. -/
  | act {w : World ScrollArea σ} : World.Act (· ∈ E.listeners) E.world w →
      Step a E { E with world := w }
  /-- Something is asked of a window, and may break off. -/
  | ask {k : Nat} {res : Resident σ} (r : Request res.α) : E.windows k = some res → r.Fits →
      Step a E
        { E with
          world := ((res.scene E.world).perform a res.cb r).2.world
          windows := Function.update E.windows k
            (some { res with window := ((res.scene E.world).perform a res.cb r).2.window }) }
  /-- A window is built. -/
  | build {α ε : Type} {k : Nat} {b : Builder σ α ε} {surface : Surface ε} {cb : Callbacks σ α ε}
      {window : Window α ε} {w : World ScrollArea σ} :
      E.windows k = none → E.made < UInt32.size → b.parts = .ok (surface, cb) →
      b.items.size ≤ maxIndex → b.build a E.world = (.ok (.ok window), w) →
      Step a E
        { E with
          world := w
          windows := Function.update E.windows k (some { cb, window })
          made := E.made + 1 }
  /-- The first pass of a window breaks off. -/
  | fail {α ε : Type} {b : Builder σ α ε} {surface : Surface ε} {cb : Callbacks σ α ε}
      {fault : Fault} {w : World ScrollArea σ} :
      E.made < UInt32.size → b.parts = .ok (surface, cb) → b.build a E.world = (.error fault, w) →
      Step a E { E with world := w, made := E.made + 1 }
  /-- A listener comes with a new channel. -/
  | join (capacity : Nat) : E.made < UInt32.size →
      Step a E
        { E with
          world := E.world.joined capacity
          listeners := E.world.next E.world.channels.size :: E.listeners
          made := E.made + 1 }
  /-- A listener lists a channel of its own once more. -/
  | relist {sub : Subscription} : sub ∈ E.listeners → E.made < UInt32.size →
      Step a E
        { E with
          world := E.world.listed sub.channel
          listeners := E.world.next sub.channel :: E.listeners
          made := E.made + 1 }

/-- The ensembles of all runs that start from a scroll area nobody has subscribed to. -/
def Reachable (a : Arithmetic) (E : Ensemble σ) : Prop :=
  ∃ w : World ScrollArea σ, w.container.subscribers = {} ∧
    Relation.ReflTransGen (Step a) { world := w } E

end Ensemble

/-! ## Handles and channels -/

/-- The handles given out are those below the next one, and no holder has a handle or a channel in
common with another. -/
structure Ledger (next : UInt32) (size : Nat) (held : Nat → Option Subscription)
    (listeners : List Subscription) (made : Nat) : Prop where
  next : next = UInt32.ofNat made
  known : ∀ sub, (sub ∈ listeners ∨ ∃ k, held k = some sub) →
    (∃ m < made, sub.handle = UInt32.ofNat m) ∧ sub.channel < size
  windows : ∀ k l sub sub', k ≠ l → held k = some sub → held l = some sub' → sub.Apart sub'
  listeners : ∀ k sub, held k = some sub → ∀ sub' ∈ listeners, sub'.Apart sub

namespace Ledger

variable {next : UInt32} {size made : Nat} {held : Nat → Option Subscription}
  {listeners : List Subscription}

theorem handle_ne {m : Nat} (hm : m < made) (hmade : made < UInt32.size) :
    UInt32.ofNat m ≠ UInt32.ofNat made := by
  intro heq
  have hnat := congrArg UInt32.toNat heq
  rw [UInt32.toNat_ofNat_of_lt' (by omega), UInt32.toNat_ofNat_of_lt' (by omega)] at hnat
  omega

theorem next_succ (h : Ledger next size held listeners made) :
    next + 1 = UInt32.ofNat (made + 1) := by
  rw [h.next, UInt32.ofNat_add]
  rfl

theorem next_new (h : Ledger next size held listeners made) (hmade : made < UInt32.size)
    {sub : Subscription} (hsub : sub ∈ listeners ∨ ∃ k, held k = some sub) : sub.handle ≠ next := by
  obtain ⟨⟨m, hm, hhandle⟩, _⟩ := h.known sub hsub
  rw [hhandle, h.next]
  exact handle_ne hm hmade

theorem newcomer_apart (h : Ledger next size held listeners made) (hmade : made < UInt32.size)
    {sub : Subscription} (hsub : sub ∈ listeners ∨ ∃ k, held k = some sub) :
    Subscription.Apart ⟨next, size⟩ sub :=
  ⟨(h.next_new hmade hsub).symm, (Nat.ne_of_lt (h.known sub hsub).2).symm⟩

theorem grow (h : Ledger next size held listeners made) {size' : Nat} (hsize : size ≤ size') :
    Ledger next size' held listeners made where
  next := h.next
  known := fun sub hsub => ⟨(h.known sub hsub).1, Nat.lt_of_lt_of_le (h.known sub hsub).2 hsize⟩
  windows := h.windows
  listeners := h.listeners

theorem shrink (h : Ledger next size held listeners made) {held' : Nat → Option Subscription}
    (hheld : ∀ k sub, held' k = some sub → held k = some sub) :
    Ledger next size held' listeners made where
  next := h.next
  known := by
    rintro sub (hsub | ⟨k, hk⟩)
    · exact h.known sub (.inl hsub)
    · exact h.known sub (.inr ⟨k, hheld k sub hk⟩)
  windows := fun k l sub sub' hne hk hl =>
    h.windows k l sub sub' hne (hheld k sub hk) (hheld l sub' hl)
  listeners := fun k sub hk => h.listeners k sub (hheld k sub hk)

theorem count (h : Ledger next size held listeners made) :
    Ledger (next + 1) size held listeners (made + 1) where
  next := h.next_succ
  known := by
    intro sub hsub
    obtain ⟨⟨m, hm, hhandle⟩, hchannel⟩ := h.known sub hsub
    exact ⟨⟨m, Nat.lt_succ_of_lt hm, hhandle⟩, hchannel⟩
  windows := h.windows
  listeners := h.listeners

/-- A subscription to a channel of no window is made, and a listener keeps it. -/
theorem listen (h : Ledger next size held listeners made) (hmade : made < UInt32.size)
    {channel : Nat} (hchannel : channel < size)
    (hother : ∀ k sub, held k = some sub → channel ≠ sub.channel) :
    Ledger (next + 1) size held (⟨next, channel⟩ :: listeners) (made + 1) where
  next := h.next_succ
  known := by
    rintro sub (hsub | hk)
    · rcases List.mem_cons.1 hsub with rfl | hsub
      · exact ⟨⟨made, Nat.lt_succ_self made, h.next⟩, hchannel⟩
      · exact h.count.known sub (.inl hsub)
    · exact h.count.known sub (.inr hk)
  windows := h.windows
  listeners := by
    intro k sub hk sub' hsub'
    rcases List.mem_cons.1 hsub' with rfl | hsub'
    · exact ⟨(h.next_new hmade (.inr ⟨k, hk⟩)).symm, hother k sub hk⟩
    · exact h.listeners k sub hk sub' hsub'

/-- A subscription to a new channel is made, and a window keeps it. -/
theorem watch (h : Ledger next size held listeners made) (hmade : made < UInt32.size) {k : Nat}
    (hfree : held k = none) :
    Ledger (next + 1) (size + 1) (Function.update held k (some ⟨next, size⟩)) listeners
      (made + 1) := by
  have hnew : ∀ sub, (sub ∈ listeners ∨ ∃ k, held k = some sub) → sub.Apart ⟨next, size⟩ :=
    fun sub hsub => (h.newcomer_apart hmade hsub).symm
  have hcases : ∀ l sub, Function.update held k (some ⟨next, size⟩) l = some sub →
      (l = k ∧ sub = ⟨next, size⟩) ∨ (l ≠ k ∧ held l = some sub) := by
    intro l sub hl
    by_cases hlk : l = k
    · subst hlk
      rw [Function.update_self] at hl
      exact .inl ⟨rfl, (Option.some.inj hl).symm⟩
    · rw [Function.update_of_ne hlk] at hl
      exact .inr ⟨hlk, hl⟩
  have hold := h.count.grow (Nat.le_succ size)
  refine ⟨h.next_succ, ?_, ?_, ?_⟩
  · rintro sub (hsub | ⟨l, hl⟩)
    · exact hold.known sub (.inl hsub)
    · rcases hcases l sub hl with ⟨_, rfl⟩ | ⟨_, hl⟩
      · exact ⟨⟨made, Nat.lt_succ_self made, h.next⟩, Nat.lt_succ_self size⟩
      · exact hold.known sub (.inr ⟨l, hl⟩)
  · intro l l' sub sub' hne hl hl'
    rcases hcases l sub hl with ⟨rfl, rfl⟩ | ⟨_, hl⟩
    · rcases hcases l' sub' hl' with ⟨rfl, _⟩ | ⟨_, hl'⟩
      · exact absurd rfl hne
      · exact (hnew sub' (.inr ⟨l', hl'⟩)).symm
    · rcases hcases l' sub' hl' with ⟨_, rfl⟩ | ⟨_, hl'⟩
      · exact hnew sub (.inr ⟨l, hl⟩)
      · exact h.windows l l' sub sub' hne hl hl'
  · intro l sub hl sub' hsub'
    rcases hcases l sub hl with ⟨_, rfl⟩ | ⟨_, hl⟩
    · exact hnew sub' (.inl hsub')
    · exact h.listeners l sub hl sub' hsub'

end Ledger

/-! ## Newcomers -/

namespace World

theorem listed_heeds (w : World ScrollArea σ) (channel : Nat) (mine : Subscription) :
    Heeds ScrollArea.subscribers mine w.container w.channels (w.listed channel).container
      (w.listed channel).channels := by
  rintro ⟨hlisted, hopen⟩
  exact ⟨⟨List.mem_append_left _ hlisted, hopen⟩, fun hempty => ⟨hempty, rfl⟩⟩

theorem joined_heeds (w : World ScrollArea σ) (capacity : Nat) (mine : Subscription) :
    Heeds ScrollArea.subscribers mine w.container w.channels (w.joined capacity).container
      (w.joined capacity).channels := by
  refine (w.listed_heeds w.channels.size mine).trans ?_
  rintro ⟨hlisted, hopen⟩
  exact heeds_of_same (Channels.openWith_getElem?_of_lt capacity hopen.lt_size) ⟨hlisted, hopen⟩

theorem joined_size (w : World ScrollArea σ) (capacity : Nat) :
    (w.joined capacity).channels.size = w.channels.size + 1 :=
  Array.size_push ..

end World

/-- A window that is built joins the others and acts with its own subscription only. -/
theorem Builder.build_footprint {α ε : Type} (a : Arithmetic) {b : Builder σ α ε}
    {surface : Surface ε} {cb : Callbacks σ α ε} (hparts : b.parts = .ok (surface, cb))
    (w : World ScrollArea σ) :
    World.Acts (· = w.next w.channels.size) (w.joined b.config.eventCapacity) (b.build a w).2 ∧
      ∀ window, (b.build a w).1 = .ok (.ok window) →
        ∀ sub, window.subscription = some sub → sub = w.next w.channels.size := by
  have hcontent : ∀ extent c cs,
      ScrollArea.Moves c cs (Container.setContentExtent a extent c) cs :=
    fun extent _ _ => .inr ⟨extent, rfl⟩
  obtain ⟨w', htouches, hend⟩ := build_touches hcontent hparts w
  have hacts : World.Acts (· = w.next w.channels.size) (w.joined b.config.eventCapacity) w' :=
    htouches.acts (fun _ hsub => hsub) fun _ => False.elim
  obtain ⟨window, hbuild, hmine⟩ | ⟨fault, hbuild⟩ := hend
  · rw [hbuild]
    refine ⟨hacts, ?_⟩
    rintro window' ⟨rfl⟩ sub hsub
    exact Option.some.inj (hsub.symm.trans hmine)
  · rw [hbuild]
    refine ⟨Relation.ReflTransGen.trans hacts ?_, by simp⟩
    have hleft : World.Touches ScrollArea.Moves Subscription.none (· = w.next w.channels.size) w'
        (w'.without (w.next w.channels.size)) := World.without_touches _ w'
    exact hleft.acts (fun _ => False.elim) fun _ hsub => hsub

/-! ## Every window is told of every change -/

namespace Ensemble

/-- The handles and channels are accounted for, and every live window whose functions never give up
hears of every change and is up to date unless something waits for it. -/
structure Sound (a : Arithmetic) (E : Ensemble σ) : Prop where
  ledger : Ledger E.world.container.subscribers.nextHandle E.world.channels.size E.held E.listeners
    E.made
  watching : ∀ k res, E.windows k = some res → res.cb.Total → res.window.isDestroyed = false →
    res.window.Consistent a ∧
      (res.scene E.world).Watching a ScrollArea.subscribers fun _ => True

variable {a : Arithmetic} {E : Ensemble σ}

theorem held_eq {k : Nat} {res : Resident σ} (h : E.windows k = some res) :
    E.held k = res.window.subscription := by
  rw [held, h]
  rfl

theorem held_update {E' : Ensemble σ} {k : Nat} {new : Resident σ} {mine : Option Subscription}
    (hE' : E'.windows = Function.update E.windows k (some new))
    (hnew : ∀ sub, new.window.subscription = some sub → mine = some sub) :
    ∀ l sub, E'.held l = some sub → Function.update E.held k mine l = some sub := by
  intro l sub hl
  rw [held, hE'] at hl
  by_cases hlk : l = k
  · subst hlk
    rw [Function.update_self] at hl ⊢
    exact hnew sub hl
  · rw [Function.update_of_ne hlk] at hl ⊢
    exact hl

/-- What heeds the subscriptions of the windows leaves them watching. -/
theorem Sound.outside (h : E.Sound a) {w : World ScrollArea σ} {k : Nat} {res : Resident σ}
    (hk : E.windows k = some res) (hcb : res.cb.Total) (hlive : res.window.isDestroyed = false)
    (hheeds : ∀ mine, E.held k = some mine →
      Heeds ScrollArea.subscribers mine E.world.container E.world.channels w.container w.channels) :
    res.window.Consistent a ∧ (res.scene w).Watching a ScrollArea.subscribers fun _ => True := by
  obtain ⟨hconsistent, hwatching⟩ := h.watching k res hk hcb hlive
  have hother := hwatching.outside trivial fun mine hmine => hheeds mine ((held_eq hk).trans hmine)
  exact ⟨hconsistent, hother.2⟩

/-- A window that joins, and what it does then, passes no other window by. -/
theorem Sound.newcomer (h : E.Sound a) (hmade : E.made < UInt32.size) {capacity : Nat}
    {w : World ScrollArea σ}
    (hacts : World.Acts (· = E.world.next E.world.channels.size) (E.world.joined capacity) w)
    {k : Nat} {mine : Subscription} (hmine : E.held k = some mine) :
    Heeds ScrollArea.subscribers mine E.world.container E.world.channels w.container
      w.channels := by
  refine (E.world.joined_heeds capacity mine).trans (hacts.heeds ?_)
  rintro sub rfl
  exact h.ledger.newcomer_apart hmade (.inr ⟨k, hmine⟩)

theorem Step.sound {E' : Ensemble σ} (hstep : Step a E E') (h : E.Sound a) : E'.Sound a := by
  cases hstep with
  | @act w hact =>
    obtain ⟨hsize, hnext⟩ := hact.frame
    refine ⟨?_, ?_⟩
    · show Ledger w.container.subscribers.nextHandle w.channels.size E.held E.listeners E.made
      rw [hsize, hnext]
      exact h.ledger
    · intro k res hk hcb hlive
      exact h.outside hk hcb hlive fun mine hmine => hact.heeds fun sub hsub =>
        h.ledger.listeners k mine hmine sub hsub
  | @ask k res r hk hfits =>
    -- the window acts with its own subscription, which no other one has
    have hfoot := Scene.perform_footprint a res.cb r (res.scene E.world)
    have hacts : World.Acts (fun sub => res.window.subscription = some sub) E.world
      ((res.scene E.world).perform a res.cb r).2.world := hfoot.acts
    obtain ⟨hsize, hnext⟩ := hacts.frame
    refine ⟨?_, ?_⟩
    · dsimp only
      rw [hsize, hnext]
      refine h.ledger.shrink fun l sub hl => ?_
      have hl' := held_update rfl (fun sub hsub => (held_eq hk).trans (hfoot.own sub hsub)) l sub hl
      rwa [Function.update_eq_self] at hl'
    · intro l res' hl hcb hlive
      rcases Resident.update_cases hl with ⟨rfl, ⟨rfl⟩⟩ | ⟨hne, hl⟩
      · obtain ⟨hconsistent, hwatching, _⟩ := Scene.perform_watching (s := res.scene E.world)
          (ScrollArea.faithful a) hcb hfits (h.watching l res hk hcb) hlive
        exact ⟨hconsistent, hwatching⟩
      · exact h.outside hl hcb hlive fun mine hmine => hacts.heeds fun sub hsub =>
          h.ledger.windows k l sub mine hne.symm ((held_eq hk).trans hsub) hmine
  | @build α ε k b surface cb window w hfree hmade hparts hsize hbuild =>
    obtain ⟨hacts, hown⟩ := b.build_footprint a hparts E.world
    rw [hbuild] at hacts hown
    obtain ⟨hchannels, hnext⟩ := hacts.frame
    have hfree' : E.held k = none := by rw [held, hfree]; rfl
    refine ⟨?_, ?_⟩
    · dsimp only
      rw [hchannels, hnext, World.joined_size]
      refine (h.ledger.watch hmade hfree').shrink ?_
      exact held_update rfl fun sub hsub => congrArg some (hown window rfl sub hsub).symm
    · intro l res hl hcb hlive
      rcases Resident.update_cases hl with ⟨rfl, ⟨rfl⟩⟩ | ⟨_, hl⟩
      · have hbuilt : Built a cb anywhere ({ window, world := w } : Scene ScrollArea σ α ε) :=
          ⟨b, E.world, trivial, hsize, ⟨surface, hparts⟩, hbuild⟩
        exact ⟨hbuilt.consistent, (hbuilt.watching (ScrollArea.faithful a) fun _ _ => trivial).1⟩
      · exact h.outside hl hcb hlive fun mine hmine => h.newcomer hmade hacts hmine
  | @fail α ε b surface cb fault w hmade hparts hbuild =>
    -- the subscription has been made and given up again, and its handle is not given out twice
    obtain ⟨hacts, _⟩ := b.build_footprint a hparts E.world
    rw [hbuild] at hacts
    obtain ⟨hchannels, hnext⟩ := hacts.frame
    refine ⟨?_, ?_⟩
    · dsimp only
      rw [hchannels, hnext, World.joined_size]
      exact h.ledger.count.grow (Nat.le_succ _)
    · intro l res hl hcb hlive
      exact h.outside hl hcb hlive fun mine hmine => h.newcomer hmade hacts hmine
  | join capacity hmade =>
    refine ⟨?_, ?_⟩
    · dsimp only
      rw [World.joined_size]
      refine (h.ledger.grow (Nat.le_succ _)).listen hmade (Nat.lt_succ_self _) fun k sub hk => ?_
      exact (Nat.ne_of_lt (h.ledger.known sub (.inr ⟨k, hk⟩)).2).symm
    · intro l res hl hcb hlive
      exact h.outside hl hcb hlive fun mine _ => World.joined_heeds _ _ mine
  | @relist sub hsub hmade =>
    refine ⟨?_, ?_⟩
    · refine h.ledger.listen hmade (h.ledger.known sub (.inl hsub)).2 fun k mine hk => ?_
      exact (h.ledger.listeners k mine hk sub hsub).2
    · intro l res hl hcb hlive
      exact h.outside hl hcb hlive fun mine _ => World.listed_heeds _ _ mine

/-- In every run the handles and channels are accounted for and the windows watch the area. -/
theorem Reachable.sound (h : E.Reachable a) : E.Sound a := by
  obtain ⟨w, hw, hrun⟩ := h
  induction hrun with
  | refl =>
    refine ⟨⟨?_, ?_, ?_, ?_⟩, ?_⟩
    · show w.container.subscribers.nextHandle = _
      rw [hw]
      rfl
    · rintro sub (hsub | ⟨k, hk⟩)
      · cases hsub
      · cases hk
    · intro k l sub sub' _ hk
      cases hk
    · intro k sub hk
      cases hk
    · intro k res hk
      cases hk
  | tail _ hlast ih => exact hlast.sound ih

theorem reachable_copying (a : Arithmetic) {w : World ScrollArea Unit}
    (hw : w.container.subscribers = {}) :
    ∃ (E : Ensemble Unit) (window : Window Nat Nat), E.Reachable a ∧
      E.windows 0 = some { cb := .copying, window } ∧ window.isDestroyed = false ∧
      window.items = #[4, 5, 6] := by
  have hthree : (Builder.copying #[4, 5, 6]).items.size ≤ maxIndex := by decide
  obtain ⟨s, hs, _, hitems, _⟩ := Builder.build_total a (Builder.copying_parts _) hthree
    Callbacks.copying_total w
  have hbuilt : Built a .copying anywhere s :=
    ⟨_, w, trivial, hthree, ⟨_, Builder.copying_parts _⟩, hs⟩
  have hfirst : 0 < UInt32.size := by decide
  have hbuild : Step a { world := w } _ :=
    .build (k := 0) rfl hfirst (Builder.copying_parts _) hthree hs
  exact ⟨_, s.window, ⟨w, hw, .single hbuild⟩, rfl, hbuilt.live, hitems⟩

end Ensemble

end ListWindow
