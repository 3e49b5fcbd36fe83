import ListWindow.Proofs.Channel
import Mathlib.Data.List.Nodup
import Mathlib.Data.List.Range

/-!
What a list of subscribers delivers. An `Exchange` is such a list with its channels and a record of
what was sent and taken; an `Op` is one thing that a producer, a listener or the holder of the list
does. Operations come in any order.

1. Handles count up, so those that are given out differ while there are no more than `2 ^ 32`
   (`Subscribers.Numbered`), and the list keeps the order of registration.
2. An operation adds nothing to what has come to a channel but what it sends there, in order
   (`Exchange.step_delivered`). So what was taken from a channel and what waits there is a
   subsequence of what was sent to it, and while a channel is not listed nothing comes to it but
   what is emitted to it directly (`Exchange.run_unlisted`).
3. `Exchange.run_delivers` says so of all runs, together with what an announcement and a removal do
   to the list and the channels.
-/
namespace ListWindow

open List (Sublist)
open scoped List

namespace Subscribers

/-- So many subscriptions have been made: their handles count up from zero, and those still listed
are in that order. -/
structure Numbered (made : Nat) (s : Subscribers) : Prop where
  next : s.nextHandle = UInt32.ofNat made
  handles : s.entries.map (·.handle) <+ (List.range made).map UInt32.ofNat

/-- How often a channel is listed. -/
def times (id : Nat) (s : Subscribers) : Nat := s.entries.countP (·.channel == id)

variable {made : Nat} {s : Subscribers}

theorem Numbered.add (h : s.Numbered made) (channel : Nat) :
    (s.add channel).1.Numbered (made + 1) := by
  refine ⟨?_, ?_⟩
  · show s.nextHandle + 1 = UInt32.ofNat (made + 1)
    rw [h.next]
    simp
  · rw [Subscribers.add, List.range_succ, List.map_append, List.map_append, h.next]
    exact h.handles.append (Sublist.refl _)

theorem Numbered.of_sublist (h : s.Numbered made) {s' : Subscribers}
    (hnext : s'.nextHandle = s.nextHandle) (hsub : s'.entries <+ s.entries) :
    s'.Numbered made :=
  ⟨hnext.trans h.next, (hsub.map _).trans h.handles⟩

theorem nodup_ofNat (h : made ≤ UInt32.size) : ((List.range made).map UInt32.ofNat).Nodup := by
  apply List.Nodup.map_on
  · intro m hm n hn heq
    have hm' := List.mem_range.1 hm
    have hn' := List.mem_range.1 hn
    have hvalue := congrArg UInt32.toNat heq
    rwa [UInt32.toNat_ofNat_of_lt' (by omega), UInt32.toNat_ofNat_of_lt' (by omega)] at hvalue
  · exact List.nodup_range

theorem Numbered.nodup (h : s.Numbered made) (hmade : made ≤ UInt32.size) :
    (s.entries.map (·.handle)).Nodup :=
  (nodup_ofNat hmade).sublist h.handles

theorem broadcast_entries (event : ViewportEvent) (s : Subscribers) (cs : Channels) :
    (s.broadcast event cs).1.entries = s.entries.filter fun entry => cs.listens entry.channel :=
  announce_kept event s.entries cs

theorem broadcast_getElem? (event : ViewportEvent) (s : Subscribers) (cs : Channels) (id : Nat) :
    (s.broadcast event cs).2[id]? = cs[id]?.map (·.offered event (s.times id)) :=
  announce_getElem? event s.entries cs id

/-- What is taken off the list is the one entry with the handle. -/
theorem remove_split (hnodup : (s.entries.map (·.handle)).Nodup) {before after : List Subscription}
    {mine : Subscription} (hsplit : s.entries = before ++ mine :: after) :
    s.remove mine.handle = ({ s with entries := before ++ after }, true) := by
  rw [hsplit, List.map_append, List.map_cons, List.nodup_append] at hnodup
  obtain ⟨_, hafter, hbefore⟩ := hnodup
  have hkept : s.entries.filter (·.handle != mine.handle) = before ++ after := by
    rw [hsplit, List.filter_append, List.filter_cons_of_neg (by simp)]
    congr 1
    · apply List.filter_eq_self.2
      intro entry hentry
      simpa using hbefore entry.handle (List.mem_map_of_mem hentry) mine.handle (by simp)
    · apply List.filter_eq_self.2
      intro entry hentry
      have hne : entry.handle ≠ mine.handle := by
        intro heq
        exact (List.nodup_cons.1 hafter).1 (heq ▸ List.mem_map_of_mem hentry)
      simpa using hne
  rw [remove]
  simp only [hkept]
  rw [hsplit]
  simp

theorem remove_absent {handle : UInt32} (h : ∀ entry ∈ s.entries, entry.handle ≠ handle) :
    s.remove handle = (s, false) := by
  have hkept : s.entries.filter (·.handle != handle) = s.entries := by
    apply List.filter_eq_self.2
    intro entry hentry
    simpa using h entry hentry
  rw [remove]
  simp [hkept]

end Subscribers

/-- A list of subscribers and its channels, with a record of what was done: every subscription ever
made, and for each channel the events sent to it and those taken from it. -/
structure Exchange where
  subscribers : Subscribers := {}
  channels : Channels := #[]
  registered : List Subscription := []
  sent : Nat → List ViewportEvent := fun _ => []
  taken : Nat → List ViewportEvent := fun _ => []

namespace Exchange

/-- What can be done, by whomever. -/
inductive Op where
  | openWith (capacity : Nat)
  | add (channel : Nat)
  | remove (handle : UInt32)
  | broadcast (event : ViewportEvent)
  | emit (channel : Nat) (event : ViewportEvent)
  | receive (channel : Nat)
  | drain (channel : Nat)
  | close (channel : Nat)

namespace Op

/-- Registrations are counted, since handles start again after the last one. -/
def isAdd : Op → Bool
  | add _ => true
  | _ => false

/-- The event that an operation emits to a channel directly. -/
def emits (id : Nat) : Op → List ViewportEvent
  | emit channel event => if channel = id then [event] else []
  | _ => []

end Op

/-- What an operation sends to a channel: an emitted event, or a broadcast one as often as the
channel is listed. -/
def sends (E : Exchange) (id : Nat) : Op → List ViewportEvent
  | .broadcast event => List.replicate (E.subscribers.times id) event
  | op => op.emits id

def takes (E : Exchange) (id : Nat) : Op → List ViewportEvent
  | .receive channel => if channel = id then (E.channels.receive id).2.toList else []
  | .drain channel => if channel = id then (E.channels.drain id).2 else []
  | _ => []

def subscribersAfter (E : Exchange) : Op → Subscribers
  | .add channel => (E.subscribers.add channel).1
  | .remove handle => (E.subscribers.remove handle).1
  | .broadcast event => (E.subscribers.broadcast event E.channels).1
  | _ => E.subscribers

def channelsAfter (E : Exchange) : Op → Channels
  | .openWith capacity => (E.channels.openWith capacity).1
  | .broadcast event => (E.subscribers.broadcast event E.channels).2
  | .emit channel event => (E.channels.send channel event).1
  | .receive channel => (E.channels.receive channel).1
  | .drain channel => (E.channels.drain channel).1
  | .close channel => E.channels.close channel
  | _ => E.channels

def registeredAfter (E : Exchange) : Op → List Subscription
  | .add channel => E.registered ++ [⟨E.subscribers.nextHandle, channel⟩]
  | _ => E.registered

def step (E : Exchange) (op : Op) : Exchange where
  subscribers := E.subscribersAfter op
  channels := E.channelsAfter op
  registered := E.registeredAfter op
  sent id := E.sent id ++ E.sends id op
  taken id := E.taken id ++ E.takes id op

def run (E : Exchange) (ops : List Op) : Exchange := ops.foldl step E

/-- What has come to a channel: the events taken from it and those that wait there. -/
def delivered (E : Exchange) (id : Nat) : List ViewportEvent :=
  E.taken id ++ E.channels.waiting id

/-- No entry of the list names the channel. -/
def Unlisted (E : Exchange) (id : Nat) : Prop := ∀ entry ∈ E.subscribers.entries, entry.channel ≠ id

variable {E : Exchange}

/-! ## What comes to a channel -/

/-- An event sent to a channel some times comes to it at most as often, behind what has come. -/
theorem offered_delivered {channels : Channels} {id times : Nat} {event : ViewportEvent}
    (hoffered : channels[id]? = E.channels[id]?.map (·.offered event times)) :
    E.taken id ++ channels.waiting id <+ E.delivered id ++ List.replicate times event := by
  rw [delivered, List.append_assoc]
  apply Sublist.append (Sublist.refl _)
  rcases h : E.channels[id]? with _ | c
  · rw [h] at hoffered
    rw [Channels.waiting_none hoffered]
    exact List.nil_sublist _
  · rw [h, Option.map_some] at hoffered
    rw [Channels.waiting_eq hoffered, Channels.waiting_eq h]
    cases hlistening : c.listening with
    | false =>
      rw [Channel.offered_unheard event c times hlistening]
      exact List.sublist_append_left _ _
    | true =>
      rw [Channel.offered_queue event c times hlistening]
      apply Sublist.append (Sublist.refl _)
      exact (List.replicate_sublist_replicate _).2 (Nat.min_le_left _ _)

/-- An operation brings nothing to a channel but what it sends there, behind what has come. -/
theorem step_delivered (E : Exchange) (op : Op) (id : Nat) :
    (E.step op).delivered id <+ E.delivered id ++ E.sends id op := by
  -- where nothing is sent, what is taken and what waits afterwards has waited before
  have htaken : ∀ {channels : Channels} {events : List ViewportEvent},
      events ++ channels.waiting id <+ E.channels.waiting id →
      E.taken id ++ events ++ channels.waiting id <+ E.delivered id ++ [] := by
    intro channels events h
    rw [List.append_assoc, List.append_nil]
    exact (Sublist.refl _).append h
  have hsame : ∀ {channels : Channels}, channels[id]? = E.channels[id]? →
      E.taken id ++ [] ++ channels.waiting id <+ E.delivered id ++ [] := by
    intro channels h
    apply htaken
    rw [Channels.waiting_of_same h]
    exact Sublist.refl _
  show E.taken id ++ E.takes id op ++ (E.channelsAfter op).waiting id <+ _
  cases op with
  | openWith capacity =>
    apply htaken
    rw [channelsAfter, Channels.openWith_waiting]
    exact Sublist.refl _
  | add channel => exact hsame rfl
  | remove handle => exact hsame rfl
  | broadcast event =>
    show E.taken id ++ [] ++ (E.subscribers.broadcast event E.channels).2.waiting id <+ _
    rw [List.append_nil]
    exact offered_delivered (E.subscribers.broadcast_getElem? event E.channels id)
  | emit channel event =>
    have hdelivered := offered_delivered (Channels.send_getElem? event id channel E.channels)
    show E.taken id ++ [] ++ (E.channels.send channel event).1.waiting id <+
      E.delivered id ++ (if channel = id then [event] else [])
    rw [List.append_nil]
    by_cases hid : channel = id
    · rw [if_pos hid] at hdelivered ⊢
      exact hdelivered
    · rw [if_neg hid] at hdelivered ⊢
      exact hdelivered
  | receive channel =>
    by_cases hid : channel = id
    · subst hid
      apply htaken
      rw [takes, if_pos rfl, channelsAfter, Channels.receive_waiting]
    · rw [takes, if_neg hid]
      exact hsame (Channels.receive_getElem?_of_ne hid)
  | drain channel =>
    by_cases hid : channel = id
    · subst hid
      apply htaken
      rw [takes, if_pos rfl, channelsAfter, Channels.drain_waiting]
    · rw [takes, if_neg hid]
      exact hsame (Channels.drain_getElem?_of_ne hid)
  | close channel =>
    by_cases hid : channel = id
    · subst hid
      apply htaken
      rw [channelsAfter, Channels.close_waiting]
      exact List.nil_sublist _
    · exact hsame (Channels.close_getElem?_of_ne hid)

theorem sends_unlisted {id : Nat} (h : E.Unlisted id) (op : Op) : E.sends id op = op.emits id := by
  cases op with
  | broadcast event =>
    have hnone : E.subscribers.times id = 0 := by
      apply List.countP_eq_zero.2
      intro entry hentry
      simpa using h entry hentry
    show List.replicate (E.subscribers.times id) event = []
    rw [hnone, List.replicate_zero]
  | _ => rfl

/-! ## One operation -/

theorem step_entries (E : Exchange) (op : Op) :
    (∃ channel, op = .add channel) ∨
      (E.step op).subscribers.entries <+ E.subscribers.entries ∧
        (E.step op).subscribers.nextHandle = E.subscribers.nextHandle ∧
        (E.step op).registered = E.registered := by
  cases op with
  | add channel => exact .inl ⟨channel, rfl⟩
  | remove handle => exact .inr ⟨List.filter_sublist, rfl, rfl⟩
  | broadcast event =>
    refine .inr ⟨?_, rfl, rfl⟩
    show (E.subscribers.broadcast event E.channels).1.entries <+ E.subscribers.entries
    rw [Subscribers.broadcast_entries]
    exact List.filter_sublist
  | _ => exact .inr ⟨Sublist.refl _, rfl, rfl⟩

theorem step_unlisted {id : Nat} {op : Op} (h : E.Unlisted id) (hop : op ≠ .add id) :
    (E.step op).Unlisted id := by
  intro entry hentry
  obtain ⟨channel, rfl⟩ | ⟨hsub, _, _⟩ := E.step_entries op
  · have hentry' : entry ∈ E.subscribers.entries ++ [⟨E.subscribers.nextHandle, channel⟩] := hentry
    obtain hold | hnew := List.mem_append.1 hentry'
    · exact h entry hold
    · rw [List.mem_singleton.1 hnew]
      intro heq
      exact hop (congrArg Op.add heq)
  · exact h entry (hsub.subset hentry)

/-- The list is numbered and keeps the order of registration, every channel has room for one event
at least, and nothing has come to a channel but what was sent to it. -/
structure Sound (E : Exchange) : Prop where
  numbered : E.subscribers.Numbered E.registered.length
  order : E.subscribers.entries <+ E.registered
  roomy : E.channels.Roomy
  record : ∀ id, E.delivered id <+ E.sent id

theorem step_roomy (op : Op) (h : E.channels.Roomy) : (E.step op).channels.Roomy := by
  cases op with
  | openWith capacity => exact h.openWith capacity
  | broadcast event => exact Subscribers.roomy_announce event E.subscribers.entries h
  | emit channel event => exact h.send event channel
  | receive channel => exact h.receive channel
  | drain channel => exact h.drain channel
  | close channel => exact h.close channel
  | _ => exact h

theorem Sound.step (h : E.Sound) (op : Op) : (E.step op).Sound where
  numbered := by
    obtain ⟨channel, rfl⟩ | ⟨hsub, hnext, hregistered⟩ := E.step_entries op
    · have hlength : (E.step (.add channel)).registered.length = E.registered.length + 1 := by
        simp [Exchange.step, registeredAfter]
      rw [hlength]
      exact h.numbered.add channel
    · rw [hregistered]
      exact h.numbered.of_sublist hnext hsub
  order := by
    obtain ⟨channel, rfl⟩ | ⟨hsub, _, hregistered⟩ := E.step_entries op
    · exact h.order.append (Sublist.refl _)
    · rw [hregistered]
      exact hsub.trans h.order
  roomy := step_roomy op h.roomy
  record id := (E.step_delivered op id).trans ((h.record id).append (Sublist.refl _))

/-! ## Any number of operations -/

theorem run_cons (E : Exchange) (op : Op) (ops : List Op) :
    E.run (op :: ops) = (E.step op).run ops := rfl

theorem Sound.run (h : E.Sound) (ops : List Op) : (E.run ops).Sound := by
  induction ops generalizing E with
  | nil => exact h
  | cons op rest ih =>
    rw [run_cons]
    exact ih (h.step op)

theorem run_registered (E : Exchange) (ops : List Op) :
    (E.run ops).registered.length = E.registered.length + ops.countP Op.isAdd := by
  induction ops generalizing E with
  | nil => rfl
  | cons op rest ih =>
    rw [run_cons, ih, List.countP_cons]
    cases op with
    | add channel =>
      simp only [step, registeredAfter, Op.isAdd, List.length_append, List.length_singleton,
        if_true]
      omega
    | _ => rfl

/-- While a channel is not listed, nothing comes to it but what is emitted to it directly. -/
theorem run_unlisted {id : Nat} (ops : List Op) (h : E.Unlisted id) (hops : .add id ∉ ops) :
    (E.run ops).delivered id <+ E.delivered id ++ ops.flatMap (Op.emits id) := by
  induction ops generalizing E with
  | nil =>
    rw [List.flatMap_nil, List.append_nil]
    exact Sublist.refl _
  | cons op rest ih =>
    have hop : op ≠ .add id := by
      intro heq
      exact hops (heq ▸ List.mem_cons_self)
    have hfirst := E.step_delivered op id
    rw [sends_unlisted h op] at hfirst
    have hrest := ih (step_unlisted h hop) fun hmem => hops (List.mem_cons_of_mem _ hmem)
    rw [run_cons, List.flatMap_cons, ← List.append_assoc]
    exact hrest.trans (hfirst.append (Sublist.refl _))

/-! ## What is delivered -/

/-- What can be relied on in a state of the list and its channels. -/
structure Delivers (E : Exchange) : Prop where
  /-- No two entries have a handle in common. -/
  distinct : (E.subscribers.entries.map (·.handle)).Nodup
  /-- The entries are in the order in which they were registered. -/
  order : E.subscribers.entries <+ E.registered
  /-- The entry with a handle is taken off the list, and no other one. -/
  removed : ∀ before mine after, E.subscribers.entries = before ++ mine :: after →
    E.subscribers.remove mine.handle = ({ E.subscribers with entries := before ++ after }, true)
  /-- A handle that is not listed is not taken off, and the answer says so. -/
  absent : ∀ handle, (∀ entry ∈ E.subscribers.entries, entry.handle ≠ handle) →
    E.subscribers.remove handle = (E.subscribers, false)
  /-- A broadcast event is put behind what waits, once for each time the channel is listed, while
  there is room. -/
  announced : ∀ (event : ViewportEvent) (id : Nat),
    (E.subscribers.broadcast event E.channels).2[id]? =
      E.channels[id]?.map (·.offered event (E.subscribers.times id))
  /-- The entries that are heard stay. -/
  kept : ∀ event, (E.subscribers.broadcast event E.channels).1.entries =
    E.subscribers.entries.filter fun entry => E.channels.listens entry.channel
  /-- Something waits in every channel that is still listed. -/
  reached : ∀ event, ∀ entry ∈ (E.subscribers.broadcast event E.channels).1.entries,
    (E.subscribers.broadcast event E.channels).2.waiting entry.channel ≠ []
  /-- What has come to a channel was sent to it, in that order. -/
  record : ∀ id, E.taken id ++ E.channels.waiting id <+ E.sent id
  /-- While a channel is not listed, no broadcast brings anything to it. -/
  unlisted : ∀ id later, E.Unlisted id → .add id ∉ later →
    (E.run later).taken id ++ (E.run later).channels.waiting id <+
      E.taken id ++ E.channels.waiting id ++ later.flatMap (Op.emits id)

/-- A broadcast leaves something in every channel that is listed and listened to. -/
theorem Sound.reached (h : E.Sound) (event : ViewportEvent) {entry : Subscription}
    (hentry : entry ∈ (E.subscribers.broadcast event E.channels).1.entries) :
    (E.subscribers.broadcast event E.channels).2.waiting entry.channel ≠ [] := by
  rw [Subscribers.broadcast_entries, List.mem_filter] at hentry
  obtain ⟨hlisted, hheard⟩ := hentry
  obtain ⟨c, hc, hlistening⟩ := (Option.any_eq_true _ _).1 hheard
  have hopen : E.channels.Open entry.channel :=
    ⟨c, hc, hlistening, h.roomy c (Array.mem_of_getElem? hc)⟩
  exact ((Subscribers.announce_reaches event _ hopen).2 entry hlisted rfl).2

/-- Whatever is done in whatever order, with no more registrations than there are handles: the list
and the channels deliver. -/
theorem run_delivers (ops : List Op) (hadds : ops.countP Op.isAdd ≤ UInt32.size) :
    (({} : Exchange).run ops).Delivers := by
  have hstart : ({} : Exchange).Sound := by
    refine ⟨⟨rfl, Sublist.refl _⟩, Sublist.refl _, ?_, fun _ => Sublist.refl _⟩
    intro c hc
    exact absurd hc (Array.not_mem_empty c)
  have hsound := hstart.run ops
  have hmade : (({} : Exchange).run ops).registered.length ≤ UInt32.size := by
    rw [run_registered]
    simpa using hadds
  have hnodup := hsound.numbered.nodup hmade
  exact
    { distinct := hnodup
      order := hsound.order
      removed := fun _ _ _ => Subscribers.remove_split hnodup
      absent := fun _ => Subscribers.remove_absent
      announced := fun event id => Subscribers.broadcast_getElem? event _ _ id
      kept := fun event => Subscribers.broadcast_entries event _ _
      reached := fun event _ => hsound.reached event
      record := hsound.record
      unlisted := fun _ later => run_unlisted later }

/-- One channel that is listed twice and one that closes while it is listed. -/
def doubled : List Op :=
  [.openWith 0, .openWith 2, .add 1, .add 0, .add 1, .broadcast (.scroll 1), .receive 1, .close 0,
    .broadcast (.resize 2), .remove 0, .emit 1 (.scroll 3)]

/-- The second broadcast finds room for one event only in the channel that is listed twice, and
nobody who listens to the other one. -/
theorem run_delivers_doubled :
    doubled.countP Op.isAdd ≤ UInt32.size ∧ (({} : Exchange).run doubled).Delivers ∧
      (({} : Exchange).run doubled).subscribers.entries = [⟨2, 1⟩] ∧
      (({} : Exchange).run doubled).taken 1 = [.scroll 1] ∧
      (({} : Exchange).run doubled).channels.waiting 1 = [.scroll 1, .resize 2] := by
  have hadds : doubled.countP Op.isAdd ≤ UInt32.size := by decide
  exact ⟨hadds, run_delivers doubled hadds, by decide, by decide, by decide⟩

end Exchange

end ListWindow
