import ListWindow.Event.Subscribers
import Mathlib.Data.List.Basic

/-!
What reaches a listener. What is announced to a list of subscriptions is put behind what waits in a
channel, as often as the channel is listed and while there is room (`Subscribers.announce_getElem?`,
by `Channel.offered`), and the subscriptions of channels that are listened to stay on the list
(`Subscribers.announce_kept`).

`Channels.Open` says that a channel is listened to and has room for one event at least. An open
channel stays open whatever is sent to it and whatever is done with other channels
(`open_of_same`). Something waits afterwards in every open channel that an event is announced to,
the event itself or an earlier one (`announce_reaches`).
-/
namespace ListWindow

namespace Channel

/-- The channel once an event has been sent to it some times: the event waits as often behind the
others, or as often as there is room. -/
def offered (event : ViewportEvent) (times : Nat) (c : Channel) : Channel :=
  if c.listening then
    { c with queue := c.queue ++ List.replicate (min times (c.capacity - c.queue.length)) event }
  else c

variable (event : ViewportEvent) (c : Channel)

@[simp] theorem offered_zero : c.offered event 0 = c := by
  simp [offered]

@[simp] theorem offered_listening (times : Nat) :
    (c.offered event times).listening = c.listening := by
  unfold offered
  split <;> rfl

@[simp] theorem offered_capacity (times : Nat) :
    (c.offered event times).capacity = c.capacity := by
  unfold offered
  split <;> rfl

theorem offered_queue (times : Nat) (h : c.listening = true) :
    (c.offered event times).queue =
      c.queue ++ List.replicate (min times (c.capacity - c.queue.length)) event := by
  rw [offered, if_pos h]

theorem offered_unheard (times : Nat) (h : c.listening = false) : c.offered event times = c := by
  rw [offered, h]
  rfl

theorem offered_add (m n : Nat) :
    (c.offered event m).offered event n = c.offered event (m + n) := by
  unfold offered
  by_cases h : c.listening = true
  · -- what the first sends leave of the room is there for the others
    have hcount : min m (c.capacity - c.queue.length) + min n (c.capacity -
          (c.queue.length + min m (c.capacity - c.queue.length))) =
        min (m + n) (c.capacity - c.queue.length) := by
      omega
    simp [h, hcount]
  · simp [h]

theorem send_eq : c.send event = (c.offered event 1, c.listening) := by
  unfold send offered
  by_cases h : c.listening = true
  · by_cases hroom : c.queue.length < c.capacity
    · have hone : min 1 (c.capacity - c.queue.length) = 1 := by omega
      simp [h, hroom, hone]
    · have hnone : min 1 (c.capacity - c.queue.length) = 0 := by omega
      rw [if_pos h, if_neg hroom, if_pos h, hnone, List.replicate_zero, List.append_nil]
      exact Prod.ext rfl h.symm
  · simp [h]

theorem offered_ne_nil {c : Channel} {times : Nat} (hlistening : c.listening = true)
    (hroom : 0 < c.capacity) (htimes : 0 < times) : (c.offered event times).queue ≠ [] := by
  rw [offered_queue event c times hlistening]
  intro hempty
  obtain ⟨hqueue, hnone⟩ := List.append_eq_nil_iff.1 hempty
  rw [List.replicate_eq_nil_iff, hqueue, List.length_nil] at hnone
  omega

end Channel

namespace Channels

/-- Somebody listens to the channel, and it has room for an event. -/
def Open (id : Nat) (cs : Channels) : Prop :=
  ∃ c, cs[id]? = some c ∧ c.listening = true ∧ 0 < c.capacity

def waiting (id : Nat) (cs : Channels) : List ViewportEvent := (cs.drain id).2

def listens (id : Nat) (cs : Channels) : Bool := cs[id]?.any (·.listening)

variable {cs : Channels} {id id' : Nat}

theorem waiting_eq {c : Channel} (h : cs[id]? = some c) : cs.waiting id = c.queue := by
  rw [waiting, drain, h]
  rfl

theorem waiting_of_same {cs' : Channels} (hsame : cs'[id]? = cs[id]?) :
    cs'.waiting id = cs.waiting id := by
  unfold waiting drain
  rw [hsame]
  split <;> rfl

theorem waiting_none (h : cs[id]? = none) : cs.waiting id = [] := by
  rw [waiting, drain, h]

theorem Open.lt_size (h : cs.Open id) : id < cs.size := by
  obtain ⟨c, hc, _⟩ := h
  exact (Array.getElem?_eq_some_iff.1 hc).1

/-- Every channel has room for one event at least. -/
def Roomy (cs : Channels) : Prop := ∀ c ∈ cs, 0 < c.capacity

/-! ## What is done with other channels -/

theorem open_of_same {cs' : Channels} (hsame : cs'[id]? = cs[id]?) (h : cs.Open id) :
    cs'.Open id ∧ cs'.waiting id = cs.waiting id := by
  obtain ⟨c, hc, hlistening, hroom⟩ := h
  rw [hc] at hsame
  exact ⟨⟨c, hsame, hlistening, hroom⟩, by rw [waiting_eq hsame, waiting_eq hc]⟩

theorem send_getElem?_of_ne (event : ViewportEvent) (hne : id' ≠ id) :
    (cs.send id' event).1[id]? = cs[id]? := by
  unfold send
  split
  · rfl
  · exact Array.getElem?_setIfInBounds_ne hne

theorem receive_getElem?_of_ne (hne : id' ≠ id) : (cs.receive id').1[id]? = cs[id]? := by
  unfold receive
  split
  · rfl
  · exact Array.getElem?_setIfInBounds_ne hne

theorem drain_getElem?_of_ne (hne : id' ≠ id) : (cs.drain id').1[id]? = cs[id]? := by
  unfold drain
  split
  · rfl
  · exact Array.getElem?_setIfInBounds_ne hne

theorem close_getElem?_of_ne (hne : id' ≠ id) : (cs.close id')[id]? = cs[id]? := by
  unfold close
  split
  · rfl
  · exact Array.getElem?_setIfInBounds_ne hne

theorem openWith_getElem?_of_lt (capacity : Nat) (hid : id < cs.size) :
    (cs.openWith capacity).1[id]? = cs[id]? := by
  rw [openWith, Array.getElem?_push]
  rw [if_neg (by omega)]

theorem openWith_open (capacity : Nat) (cs : Channels) :
    (cs.openWith capacity).1.Open (cs.openWith capacity).2 := by
  refine ⟨.ofCapacity capacity, ?_, rfl, ?_⟩
  · rw [openWith, Array.getElem?_push]
    simp
  · show 0 < max capacity 1
    omega

theorem openWith_waiting (capacity id : Nat) (cs : Channels) :
    (cs.openWith capacity).1.waiting id = cs.waiting id := by
  by_cases hid : id < cs.size
  · exact waiting_of_same (openWith_getElem?_of_lt capacity hid)
  · rw [waiting_none (Array.getElem?_eq_none (Nat.not_lt.1 hid))]
    by_cases hnew : id = cs.size
    · subst hnew
      apply waiting_eq (c := .ofCapacity capacity)
      simp [openWith]
    · apply waiting_none
      apply Array.getElem?_eq_none
      simp only [openWith, Array.size_push]
      omega

/-! ## What is taken and sent -/

theorem receive_waiting (id : Nat) (cs : Channels) :
    (cs.receive id).2.toList ++ (cs.receive id).1.waiting id = cs.waiting id := by
  rcases h : cs[id]? with _ | c
  · simp [receive, h]
  · have hid := (Array.getElem?_eq_some_iff.1 h).1
    have hreceived : (cs.receive id).1[id]? = some c.receive.1 := by
      rw [receive, h]
      simp [hid]
    rw [waiting_eq hreceived, waiting_eq h, receive, h]
    rcases hqueue : c.queue with _ | ⟨event, rest⟩
    · simp [Channel.receive, hqueue]
    · simp [Channel.receive, hqueue]

theorem drain_waiting (id : Nat) (cs : Channels) :
    (cs.drain id).2 ++ (cs.drain id).1.waiting id = cs.waiting id := by
  rcases h : cs[id]? with _ | c
  · simp [drain, h, waiting]
  · have hid := (Array.getElem?_eq_some_iff.1 h).1
    have hdrained : (cs.drain id).1[id]? = some c.drain.1 := by
      rw [drain, h]
      simp [hid]
    rw [waiting_eq hdrained, waiting]
    simp [Channel.drain]

theorem close_waiting (id : Nat) (cs : Channels) : (cs.close id).waiting id = [] := by
  rcases h : cs[id]? with _ | c
  · rw [close, h]
    exact waiting_none h
  · have hid := (Array.getElem?_eq_some_iff.1 h).1
    apply waiting_eq (c := c.close)
    rw [close, h]
    simp [hid]

theorem open_drain (h : cs.Open id) :
    (cs.drain id).1.Open id ∧ (cs.drain id).1.waiting id = [] := by
  obtain ⟨c, hc, hlistening, hroom⟩ := h
  have hid := (Array.getElem?_eq_some_iff.1 hc).1
  have hdrained : (cs.drain id).1[id]? = some c.drain.1 := by
    rw [drain, hc]
    simp [hid]
  exact ⟨⟨c.drain.1, hdrained, hlistening, hroom⟩, by rw [waiting_eq hdrained]; rfl⟩

theorem Open.receive (h : cs.Open id) (id' : Nat) : (cs.receive id').1.Open id := by
  by_cases hid : id' = id
  · subst hid
    obtain ⟨c, hc, hlistening, hroom⟩ := h
    have hlt := (Array.getElem?_eq_some_iff.1 hc).1
    have hreceived : (cs.receive id').1[id']? = some c.receive.1 := by
      rw [Channels.receive, hc]
      simp [hlt]
    refine ⟨c.receive.1, hreceived, ?_⟩
    unfold Channel.receive
    split
    · exact ⟨hlistening, hroom⟩
    · exact ⟨hlistening, hroom⟩
  · exact (open_of_same (receive_getElem?_of_ne hid) h).1

theorem Open.drain (h : cs.Open id) (id' : Nat) : (cs.drain id').1.Open id := by
  by_cases hid : id' = id
  · subst hid
    exact (open_drain h).1
  · exact (open_of_same (drain_getElem?_of_ne hid) h).1

theorem send_getElem? (event : ViewportEvent) (id id' : Nat) (cs : Channels) :
    (cs.send id' event).1[id]? = cs[id]?.map (·.offered event (if id' = id then 1 else 0)) := by
  by_cases hid : id' = id
  · subst hid
    rw [if_pos rfl, send]
    rcases h : cs[id']? with _ | c
    · exact h
    · have hlt := (Array.getElem?_eq_some_iff.1 h).1
      simp [Channel.send_eq, hlt]
  · rw [send_getElem?_of_ne event hid, if_neg hid]
    simp

theorem Open.send (h : cs.Open id) (event : ViewportEvent) (id' : Nat) :
    (cs.send id' event).1.Open id := by
  obtain ⟨c, hc, hlistening, hroom⟩ := h
  refine ⟨c.offered event (if id' = id then 1 else 0), ?_, ?_, ?_⟩
  · rw [send_getElem?, hc]
    rfl
  · rw [Channel.offered_listening]
    exact hlistening
  · rw [Channel.offered_capacity]
    exact hroom

theorem send_heard (event : ViewportEvent) : (cs.send id event).2 = cs.listens id := by
  rw [send, listens]
  rcases cs[id]? with _ | c
  · rfl
  · simp [Channel.send_eq]

@[simp] theorem listens_send (event : ViewportEvent) :
    (cs.send id' event).1.listens id = cs.listens id := by
  rw [listens, send_getElem?, listens]
  rcases cs[id]? with _ | c
  · rfl
  · simp

theorem close_listens (id : Nat) (cs : Channels) : (cs.close id).listens id = false := by
  rw [close]
  rcases h : cs[id]? with _ | c
  · simp [listens, h]
  · have hlt := (Array.getElem?_eq_some_iff.1 h).1
    simp [listens, hlt, Channel.close]

/-! ## Room -/

theorem Roomy.set (h : cs.Roomy) {c : Channel} (hc : 0 < c.capacity) :
    Roomy (cs.setIfInBounds id c) := by
  intro c' hc'
  obtain hold | rfl := Array.mem_or_eq_of_mem_setIfInBounds hc'
  · exact h c' hold
  · exact hc

theorem Roomy.openWith (h : cs.Roomy) (capacity : Nat) : (cs.openWith capacity).1.Roomy := by
  intro c hc
  obtain hold | rfl := Array.mem_push.1 hc
  · exact h c hold
  · show 0 < max capacity 1
    omega

theorem Roomy.send (h : cs.Roomy) (event : ViewportEvent) (id : Nat) :
    (cs.send id event).1.Roomy := by
  unfold Channels.send
  split
  · exact h
  · rename_i c hc
    apply h.set
    rw [Channel.send_eq, Channel.offered_capacity]
    exact h c (Array.mem_of_getElem? hc)

theorem Roomy.receive (h : cs.Roomy) (id : Nat) : (cs.receive id).1.Roomy := by
  unfold Channels.receive
  split
  · exact h
  · rename_i c hc
    apply h.set
    have hroom := h c (Array.mem_of_getElem? hc)
    unfold Channel.receive
    split
    · exact hroom
    · exact hroom

theorem Roomy.drain (h : cs.Roomy) (id : Nat) : (cs.drain id).1.Roomy := by
  unfold Channels.drain
  split
  · exact h
  · rename_i c hc
    exact h.set (h c (Array.mem_of_getElem? hc))

theorem Roomy.close (h : cs.Roomy) (id : Nat) : (cs.close id).Roomy := by
  unfold Channels.close
  split
  · exact h
  · rename_i c hc
    exact h.set (h c (Array.mem_of_getElem? hc))

/-! ## Sizes -/

@[simp] theorem size_send (event : ViewportEvent) : (cs.send id event).1.size = cs.size := by
  unfold send
  split
  · rfl
  · exact Array.size_setIfInBounds

@[simp] theorem size_receive : (cs.receive id).1.size = cs.size := by
  unfold receive
  split
  · rfl
  · exact Array.size_setIfInBounds

@[simp] theorem size_drain : (cs.drain id).1.size = cs.size := by
  unfold drain
  split
  · rfl
  · exact Array.size_setIfInBounds

@[simp] theorem size_close : (cs.close id).size = cs.size := by
  unfold close
  split
  · rfl
  · exact Array.size_setIfInBounds

end Channels

namespace Subscribers

variable {cs : Channels} {id : Nat}

theorem announce_kept (event : ViewportEvent) (entries : List Subscription) (cs : Channels) :
    (announce event entries cs).1 = entries.filter fun entry => cs.listens entry.channel := by
  induction entries generalizing cs with
  | nil => rfl
  | cons first rest ih =>
    simp only [announce, Channels.send_heard, ih, Channels.listens_send, List.filter_cons]

/-- Every channel is sent the event as often as it is listed. -/
theorem announce_getElem? (event : ViewportEvent) (entries : List Subscription) (cs : Channels)
    (id : Nat) :
    (announce event entries cs).2[id]? =
      cs[id]?.map (·.offered event (entries.countP (·.channel == id))) := by
  induction entries generalizing cs with
  | nil => simp [announce]
  | cons first rest ih =>
    rw [announce]
    dsimp only
    rw [ih, Channels.send_getElem?, Option.map_map, List.countP_cons]
    congr 1
    funext c
    simp [Channel.offered_add, Nat.add_comm]

/-- An announced event reaches every open channel on the list, and keeps it there. -/
theorem announce_reaches (event : ViewportEvent) (entries : List Subscription)
    (h : cs.Open id) :
    (announce event entries cs).2.Open id ∧
      ∀ entry ∈ entries, entry.channel = id →
        entry ∈ (announce event entries cs).1 ∧ (announce event entries cs).2.waiting id ≠ [] := by
  obtain ⟨c, hc, hlistening, hroom⟩ := h
  have hafter := announce_getElem? event entries cs id
  rw [hc, Option.map_some] at hafter
  rw [Channels.waiting_eq hafter]
  refine ⟨⟨_, hafter, by simpa using hlistening, by simpa using hroom⟩, ?_⟩
  intro entry hentry hid
  refine ⟨?_, Channel.offered_ne_nil event hlistening hroom ?_⟩
  · rw [announce_kept, List.mem_filter]
    refine ⟨hentry, ?_⟩
    rw [hid, Channels.listens, hc]
    exact hlistening
  · exact List.countP_pos_iff.2 ⟨entry, hentry, by simpa using hid⟩

theorem roomy_announce (event : ViewportEvent) (entries : List Subscription) (h : cs.Roomy) :
    (announce event entries cs).2.Roomy := by
  induction entries generalizing cs with
  | nil => exact h
  | cons first rest ih =>
    rw [announce]
    exact ih (h.send event first.channel)

@[simp] theorem size_announce (event : ViewportEvent) (entries : List Subscription)
    (cs : Channels) : (announce event entries cs).2.size = cs.size := by
  induction entries generalizing cs with
  | nil => rfl
  | cons first rest ih =>
    rw [announce]
    dsimp only
    rw [ih, Channels.size_send]

end Subscribers

end ListWindow
