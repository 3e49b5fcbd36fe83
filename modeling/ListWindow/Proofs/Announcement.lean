import ListWindow.Proofs.Delivery
import ListWindow.Proofs.Viewport
import ListWindow.Proofs.Whole

/-!
Which moves of a viewport its subscribers hear of. A `Viewport.Move` is anything that changes where
a viewport is or how high: scrolling, another size of the terminal, an input event, and other
content. Moves come in any order and in either arithmetic, and others subscribe, unsubscribe and use
their channels in between (`Viewport.Reached`).

1. The offset is always a number, and the height fits a screen (`Viewport.Reached.sized`).
2. Scrolling and sizing tell every listed channel what has changed: the new height first, then the
   new offset, each once for every time the channel is listed, and nothing when nothing has changed
   (`Viewport.scrollTo_told`, `Viewport.resize_told`).
3. Content that ends above the present offset pulls the viewport back, and nobody is told. That is
   the one exception (`Viewport.Reached.announced_iff`).
-/
namespace ListWindow

namespace Scalar

variable {x y : Scalar}

@[simp] theorem round_zero (a : Arithmetic) : round a 0 = rat 0 := by
  cases a <;> rfl

theorem sub_self (a : Arithmetic) (hx : x.isFinite = true) : sub a x x = rat 0 := by
  cases x with
  | nan | infinite s => cases hx
  | negZero => exact (congrArg (round a) (add_zero 0)).trans (round_zero a)
  | rat q =>
    rw [sub, neg]
    split
    · rename_i hq
      rw [hq]
      exact (congrArg (round a) (add_zero 0)).trans (round_zero a)
    · exact (congrArg (round a) (add_neg_cancel q)).trans (round_zero a)

theorem finite_between (hlow : (0 : Scalar) < x) (hhigh : x < y) (hy : y.isFinite = true) :
    x.isFinite = true := by
  cases x with
  | nan => cases hlow
  | infinite negative =>
    cases negative with
    | false =>
      cases y with
      | nan | infinite s => cases hy
      | negZero | rat q => cases hhigh
    | true => cases hlow
  | negZero | rat q => rfl

theorem max_zero_cases (x : Scalar) : x.max 0 = 0 ∨ (0 : Scalar) < x ∧ x.max 0 = x := by
  rw [max]
  split
  · rename_i h
    rw [Bool.or_eq_true] at h
    obtain hlt | hnan := h
    · exact .inr ⟨of_decide_eq_true hlt, rfl⟩
    · cases hnan
  · exact .inl rfl

end Scalar

namespace Channel

/-- The channel once several events have been sent to it, each of them some times. -/
def told (times : Nat) (events : List ViewportEvent) (c : Channel) : Channel :=
  events.foldl (fun c event => c.offered event times) c

theorem told_eq {times : Nat} {events : List ViewportEvent} {c : Channel}
    (hlistening : c.listening = true)
    (hroom : c.queue.length + times * events.length ≤ c.capacity) :
    c.told times events =
      { c with queue := c.queue ++ events.flatMap (List.replicate times) } := by
  induction events generalizing c with
  | nil => simp [told]
  | cons event rest ih =>
    rw [List.length_cons, Nat.mul_succ] at hroom
    have hfits : min times (c.capacity - c.queue.length) = times := by omega
    have hfirst : c.offered event times =
        { c with queue := c.queue ++ List.replicate times event } := by
      rw [offered, if_pos hlistening, hfits]
    have hrest : (c.queue ++ List.replicate times event).length + times * rest.length ≤
        c.capacity := by
      rw [List.length_append, List.length_replicate]
      omega
    show (c.offered event times).told times rest = _
    rw [hfirst,
      ih (c := { c with queue := c.queue ++ List.replicate times event }) hlistening hrest,
      List.flatMap_cons, List.append_assoc]

end Channel

namespace Subscribers

theorem times_broadcast {s : Subscribers} {cs : Channels} {id : Nat} (event : ViewportEvent)
    (h : cs.listens id = true) : (s.broadcast event cs).1.times id = s.times id := by
  rw [times, times, broadcast_entries, List.countP_filter]
  apply List.countP_congr
  intro entry _
  by_cases hid : entry.channel = id
  · simp [hid, h]
  · simp [hid]

end Subscribers

namespace Screen.Viewport

variable {a : Arithmetic} {v : Viewport} {cs : Channels} {id : Nat} {c : Channel}

/-- The events that announce what differs between two states of a viewport. -/
def changes (v v' : Viewport) : List ViewportEvent :=
  (if Container.viewportExtent v' = Container.viewportExtent v then []
    else [.resize (Container.viewportExtent v')]) ++
  (if Container.scrollOffset v' = Container.scrollOffset v then []
    else [.scroll (Container.scrollOffset v')])

theorem changes_length (v v' : Viewport) : (changes v v').length ≤ 2 := by
  unfold changes
  split <;> split <;> simp

/-- What can be done with a viewport. -/
inductive Move where
  | scrollTo (offset : Scalar)
  | scrollBy (lines : Scalar)
  | resize (terminalHeight : Nat)
  | apply (event : InputEvent)
  | content (extent : Scalar)

/-- Moves with the heights that a terminal can have. -/
def Move.Fits : Move → Prop
  | .resize terminalHeight => terminalHeight ≤ maxCell
  | .apply event => event.Fits
  | _ => True

def perform (a : Arithmetic) (m : Move) (v : Viewport) (cs : Channels) : Viewport × Channels :=
  match m with
  | .scrollTo offset => Container.setScrollOffset a offset v cs
  | .scrollBy lines => v.scrollBy a lines cs
  | .resize terminalHeight => v.resize a terminalHeight cs
  | .apply event => (v.apply a event cs).getD (v, cs)
  | .content extent => (Container.setContentExtent a extent v, cs)

/-- The viewports that moves lead to, whatever becomes of the channels between them. -/
inductive Reached (a : Arithmetic) : Viewport → Prop where
  | start (terminalHeight reserved : Nat) : terminalHeight ≤ maxCell →
      Reached a (.ofTerminal terminalHeight reserved)
  | move {v : Viewport} (m : Move) (cs : Channels) : Reached a v → m.Fits →
      Reached a (v.perform a m cs).1
  | subscribe {v : Viewport} (channel : Nat) : Reached a v →
      Reached a (Container.subscribe channel v).1
  | unsubscribe {v : Viewport} (handle : UInt32) : Reached a v →
      Reached a (Container.unsubscribe handle v)

/-- The content ends above the present offset, so that the viewport scrolls back. -/
def PulledBack (a : Arithmetic) (v : Viewport) : Move → Prop
  | .content extent => { v with content := extent }.maxOffset a < v.offset
  | _ => False

/-- Every move but that of the content is scrolling, sizing or nothing. -/
theorem perform_cases (a : Arithmetic) (m : Move) (v : Viewport) (cs : Channels) :
    (∃ extent, m = .content extent) ∨ ¬ v.PulledBack a m ∧
      (v.perform a m cs = (v, cs) ∨ (∃ offset, v.perform a m cs = v.scrollTo a offset cs) ∨
        ∃ terminalHeight, (m.Fits → terminalHeight ≤ maxCell) ∧
          v.perform a m cs = v.resize a terminalHeight cs) := by
  cases m with
  | scrollTo offset => exact .inr ⟨id, .inr (.inl ⟨offset, rfl⟩)⟩
  | scrollBy lines => exact .inr ⟨id, .inr (.inl ⟨_, rfl⟩)⟩
  | resize terminalHeight => exact .inr ⟨id, .inr (.inr ⟨terminalHeight, id, rfl⟩)⟩
  | content extent => exact .inl ⟨extent, rfl⟩
  | apply event =>
    refine .inr ⟨id, ?_⟩
    rw [perform]
    rcases happly : v.apply a event cs with _ | ⟨v', cs'⟩
    · exact .inl rfl
    · obtain ⟨offset, _, heq⟩ | ⟨width, height, rfl, heq⟩ := apply_cases happly
      · exact .inr (.inl ⟨offset, heq⟩)
      · exact .inr (.inr ⟨height, id, heq⟩)

/-! ## What is always so -/

/-- The offset is a number, and the height fits a screen. -/
structure Sized (v : Viewport) : Prop where
  offset : v.offset.isFinite = true
  height : v.height ≤ maxCell

theorem maxOffset_finite {x : Scalar} (h : v.maxOffset a < x) (hx : x.isFinite = true) :
    (v.maxOffset a).isFinite = true := by
  obtain hzero | ⟨hlow, heq⟩ := Scalar.max_zero_cases (Scalar.sub a v.content (v.extent a))
  · rw [maxOffset, hzero]
    rfl
  · rw [maxOffset, heq] at h ⊢
    exact Scalar.finite_between hlow h hx

theorem clampOffset_finite (a : Arithmetic) (offset : Scalar) (v : Viewport) :
    (v.clampOffset a offset).isFinite = true := by
  rw [clampOffset]
  split
  · rename_i hoffset
    rw [Scalar.clamp]
    split
    · rfl
    split
    · rename_i hhigh
      exact maxOffset_finite hhigh hoffset
    · exact hoffset
  · rfl

theorem Sized.scrollTo (h : v.Sized) (offset : Scalar) (cs : Channels) :
    (v.scrollTo a offset cs).1.Sized := by
  refine ⟨?_, (scrollTo_frame a offset v cs).1.symm ▸ h.height⟩
  rw [Viewport.scrollTo]
  dsimp only
  split
  · exact h.offset
  · exact clampOffset_finite a offset v

theorem Sized.resize (h : v.Sized) {terminalHeight : Nat} (hfits : terminalHeight ≤ maxCell)
    (cs : Channels) : (v.resize a terminalHeight cs).1.Sized := by
  rw [Viewport.resize]
  dsimp only
  split
  · exact h
  · apply Sized.scrollTo
    exact ⟨h.offset, Nat.le_trans (Nat.sub_le _ _) hfits⟩

theorem setContent_pulled {extent : Scalar} (h : v.PulledBack a (.content extent)) :
    v.setContent a extent =
      { v with content := extent, offset := { v with content := extent }.maxOffset a } := by
  have hpast : { v with content := extent }.maxOffset a < v.offset := h
  rw [setContent]
  exact if_pos hpast

theorem setContent_stays {extent : Scalar} (h : ¬ v.PulledBack a (.content extent)) :
    v.setContent a extent = { v with content := extent } := by
  have hpast : ¬ { v with content := extent }.maxOffset a < v.offset := h
  rw [setContent]
  exact if_neg hpast

theorem Sized.setContent (h : v.Sized) (extent : Scalar) : (v.setContent a extent).Sized := by
  rw [Viewport.setContent]
  dsimp only
  split
  · rename_i hpast
    exact ⟨maxOffset_finite hpast h.offset, h.height⟩
  · exact ⟨h.offset, h.height⟩

theorem Sized.perform (h : v.Sized) {m : Move} (hfits : m.Fits) (cs : Channels) :
    (v.perform a m cs).1.Sized := by
  obtain ⟨extent, rfl⟩ | ⟨_, hsame | ⟨offset, hscroll⟩ | ⟨terminalHeight, hheight, hresize⟩⟩ :=
    perform_cases a m v cs
  · exact h.setContent extent
  · rw [hsame]
    exact h
  · rw [hscroll]
    exact h.scrollTo offset cs
  · rw [hresize]
    exact h.resize (hheight hfits) cs

theorem Reached.sized (h : Reached a v) : v.Sized := by
  induction h with
  | start terminalHeight reserved hfits =>
    exact ⟨rfl, Nat.le_trans (Nat.sub_le _ _) hfits⟩
  | move m cs _ hfits ih => exact ih.perform hfits cs
  | subscribe channel _ ih => exact ⟨ih.offset, ih.height⟩
  | unsubscribe handle _ ih => exact ⟨ih.offset, ih.height⟩

/-! ## What is told -/

theorem changes_self (v : Viewport) : changes v v = [] := by
  simp [changes]

theorem changes_resized {v' : Viewport} {height : Nat} (hne : height ≠ v.height)
    (hheight : v'.height = height) (subscribers : Subscribers) :
    changes v v' = .resize (.rat height) :: changes { v with height, subscribers } v' := by
  have hextent : Container.viewportExtent v' = .rat height := by
    rw [← hheight]
    rfl
  have hother : Container.viewportExtent v' ≠ Container.viewportExtent v := by
    intro heq
    exact hne (Nat.cast_injective (Scalar.rat.inj (hextent.symm.trans heq)))
  have hsame : Container.viewportExtent v' =
      Container.viewportExtent { v with height, subscribers } := hextent
  unfold changes
  rw [if_neg hother, if_pos hsame, hextent]
  rfl

theorem scrollTo_told (hv : v.offset.isFinite = true) (hc : cs[id]? = some c)
    (offset : Scalar) :
    (v.scrollTo a offset cs).2[id]? =
      some (c.told (v.subscribers.times id) (changes v (v.scrollTo a offset cs).1)) := by
  rw [scrollTo]
  dsimp only
  split
  · rw [changes_self]
    exact hc
  · rename_i hfar
    have hmoved : v.clampOffset a offset ≠ v.offset := by
      intro heq
      apply hfar
      rw [heq, Scalar.sub_self a hv]
      decide
    have hchanges : ∀ subscribers : Subscribers,
        changes v { v with offset := v.clampOffset a offset, subscribers } =
          [.scroll (v.clampOffset a offset)] := by
      intro subscribers
      simp [changes, Container.viewportExtent, Container.scrollOffset, hmoved]
    rw [hchanges, Subscribers.broadcast_getElem?, hc]
    rfl

theorem resize_told (h : v.Sized) {terminalHeight : Nat} (hfits : terminalHeight ≤ maxCell)
    (hc : cs[id]? = some c) (hlistening : c.listening = true) :
    (v.resize a terminalHeight cs).2[id]? =
      some (c.told (v.subscribers.times id) (changes v (v.resize a terminalHeight cs).1)) := by
  rw [resize]
  dsimp only
  split
  · rw [changes_self]
    exact hc
  · rename_i hheight
    have hsmall : terminalHeight - v.reserved ≤ 2 ^ 53 - 1 := by
      rw [maxCell] at hfits
      omega
    have hlistens : cs.listens id = true := by
      rw [Channels.listens, hc]
      exact hlistening
    rw [Scalar.ofNat_whole a.holds hsmall]
    have hfirst := v.subscribers.broadcast_getElem?
      (.resize (.rat ((terminalHeight - v.reserved : Nat) : Rat))) cs id
    rw [hc, Option.map_some] at hfirst
    -- the list has lost the entries that nobody hears, and the channel is listed as often
    rw [scrollTo_told (v := { v with
        height := terminalHeight - v.reserved
        subscribers := (v.subscribers.broadcast
          (.resize (.rat ((terminalHeight - v.reserved : Nat) : Rat))) cs).1 }) h.offset hfirst,
      Subscribers.times_broadcast _ hlistens, changes_resized hheight (scrollTo_frame _ _ _ _).1 _]
    rfl

/-- Every move but one that pulls the viewport back tells what it changes. -/
theorem perform_told (h : v.Sized) {m : Move} (hfits : m.Fits) (hback : ¬ v.PulledBack a m)
    (hc : cs[id]? = some c) (hlistening : c.listening = true) :
    (v.perform a m cs).2[id]? =
      some (c.told (v.subscribers.times id) (changes v (v.perform a m cs).1)) := by
  obtain ⟨extent, rfl⟩ | ⟨_, hsame | ⟨offset, hscroll⟩ | ⟨terminalHeight, hheight, hresize⟩⟩ :=
    perform_cases a m v cs
  · show cs[id]? = some (c.told _ (changes v (v.setContent a extent)))
    have hnone : changes v { v with content := extent } = [] := changes_self v
    rw [setContent_stays hback, hnone]
    exact hc
  · rw [hsame, changes_self]
    exact hc
  · rw [hscroll]
    exact scrollTo_told h.offset hc offset
  · rw [hresize]
    exact resize_told h (hheight hfits) hc hlistening

/-- A viewport that is pulled back moves and tells nobody. -/
theorem perform_pulledBack (h : v.Sized) {m : Move} (hback : v.PulledBack a m) (cs : Channels) :
    (v.perform a m cs).2 = cs ∧
      Container.scrollOffset (v.perform a m cs).1 < Container.scrollOffset v ∧
      changes v (v.perform a m cs).1 = [.scroll (Container.scrollOffset (v.perform a m cs).1)] := by
  cases m with
  | content extent =>
    have hmoved : (v.perform a (.content extent) cs).1 =
        { v with content := extent, offset := { v with content := extent }.maxOffset a } :=
      setContent_pulled hback
    have hlower : { v with content := extent }.maxOffset a < v.offset := hback
    have hne : { v with content := extent }.maxOffset a ≠ v.offset := by
      intro heq
      rw [heq] at hlower
      exact lt_irrefl _ ((Scalar.lt_iff h.offset h.offset).1 hlower)
    refine ⟨rfl, ?_, ?_⟩
    · rw [hmoved]
      exact hlower
    · rw [hmoved]
      simp [changes, Container.viewportExtent, Container.scrollOffset, hne]
  | _ => exact absurd hback id

/-- In every state that moves lead to, a move puts what it changes behind the events that wait in a
channel with room for it, once for every time the channel is listed, unless the move is one of the
content that pulls the viewport back; that one puts nothing there. -/
theorem Reached.announced_iff (h : Reached a v) {m : Move} (hfits : m.Fits)
    (hc : cs[id]? = some c) (hlistening : c.listening = true)
    (hlisted : 0 < v.subscribers.times id)
    (hroom : c.queue.length + v.subscribers.times id * 2 ≤ c.capacity) :
    ((v.perform a m cs).2[id]? =
        some { c with
          queue := c.queue ++
            (changes v (v.perform a m cs).1).flatMap (List.replicate (v.subscribers.times id)) } ↔
      ¬ v.PulledBack a m) ∧
      (v.PulledBack a m → (v.perform a m cs).2 = cs ∧
        Container.scrollOffset (v.perform a m cs).1 < Container.scrollOffset v) := by
  refine ⟨⟨?_, ?_⟩, ?_⟩
  · intro htold hback
    obtain ⟨hsame, _, hchanges⟩ := perform_pulledBack h.sized hback cs
    rw [hsame, hc, hchanges] at htold
    have hlength := congrArg (fun c : Channel => c.queue.length) (Option.some.inj htold)
    simp at hlength
    omega
  · intro hback
    have hfit : c.queue.length +
        v.subscribers.times id * (changes v (v.perform a m cs).1).length ≤ c.capacity := by
      have hmany := Nat.mul_le_mul_left (v.subscribers.times id)
        (changes_length v (v.perform a m cs).1)
      omega
    rw [perform_told h.sized hfits hback hc hlistening, Channel.told_eq hlistening hfit]
  · intro hback
    obtain ⟨hsame, hlower, _⟩ := perform_pulledBack h.sized hback cs
    exact ⟨hsame, hlower⟩

/-- Ten lines at the end of a hundred, with one listener. -/
def atEnd : Viewport :=
  ((Container.subscribe 0 ((ofTerminal 12 2).perform .binary64 (.content 100) #[]).1).1.perform
    .binary64 (.scrollTo 90) #[.ofCapacity 8]).1

theorem atEnd_reached : Reached .binary64 atEnd := by
  apply Reached.move
  · apply Reached.subscribe
    apply Reached.move
    · exact .start 12 2 (by decide)
    · trivial
  · trivial

/-- A higher terminal is announced, and that the viewport scrolls back in it. -/
theorem announced_atEnd :
    (Move.resize 22).Fits ∧ 0 < atEnd.subscribers.times 0 ∧
      (atEnd.perform .binary64 (.resize 22) #[.ofCapacity 8]).2[0]? =
        some { Channel.ofCapacity 8 with queue := [.resize 20, .scroll 80] } := by
  have hfits : (Move.resize 22).Fits := show 22 ≤ maxCell by decide
  have hlisted : 0 < atEnd.subscribers.times 0 := by decide +kernel
  have hopen : (#[.ofCapacity 8] : Channels)[0]? = some (.ofCapacity 8) := rfl
  have htold := (atEnd_reached.announced_iff hfits hopen rfl hlisted (by decide +kernel)).1.2 id
  refine ⟨hfits, hlisted, htold.trans ?_⟩
  decide +kernel

/-- Content of twenty lines pulls the viewport back from line 90 to line 10. The listener has room
for eight events and is sent none. -/
theorem content_unannounced :
    Reached .binary64 atEnd ∧ atEnd.subscribers.times 0 = 1 ∧ Container.scrollOffset atEnd = 90 ∧
      Container.scrollOffset (atEnd.perform .binary64 (.content 20) #[.ofCapacity 8]).1 = 10 ∧
      (atEnd.perform .binary64 (.content 20) #[.ofCapacity 8]).2[0]? = some (.ofCapacity 8) ∧
      (atEnd.perform .binary64 (.content 20) #[.ofCapacity 8]).2[0]? ≠
        some { Channel.ofCapacity 8 with queue := [.scroll 10] } := by
  refine ⟨atEnd_reached, ?_, ?_, ?_, ?_, ?_⟩
  all_goals decide +kernel

end Screen.Viewport

end ListWindow
