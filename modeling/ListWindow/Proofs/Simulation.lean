import ListWindow.Proofs.Pass

/-!
Windows that cannot tell two worlds apart. `Simulation` lists all that a window reads of a world and
does to it: where what is read is the same and what is done keeps two worlds in correspondence,
every request has the same answer in both and leaves corresponding worlds behind
(`Scene.perform_alike`). What is kept of a run beside the world, such as a record of its calls, is
put into one of the worlds and changes nothing.
-/
namespace ListWindow

variable {κ κ' σ σ' α ε : Type} [Container κ] [Container κ']

/-- Worlds that correspond give a window the same events and the same geometry, and correspond
again after whatever a window does to them. -/
structure Simulation (cb : Callbacks σ α ε) (cb' : Callbacks σ' α ε)
    (R : World κ σ → World κ' σ' → Prop) : Prop where
  channels : ∀ {w w'}, R w w' → w'.channels = w.channels
  geometry : ∀ {w w'}, R w w' → Container.geometry w'.container = Container.geometry w.container
  offset : ∀ {w w'}, R w w' →
    Container.scrollOffset w'.container = Container.scrollOffset w.container
  drain : ∀ {w w'}, R w w' → ∀ cs, R { w with channels := cs } { w' with channels := cs }
  scroll : ∀ {w w'}, R w w' → ∀ a offset,
    let m := Container.setScrollOffset a offset w.container w.channels
    let m' := Container.setScrollOffset a offset w'.container w'.channels
    R { w with container := m.1, channels := m.2 } { w' with container := m'.1, channels := m'.2 }
  content : ∀ {w w'}, R w w' → ∀ a extent,
    R { w with container := Container.setContentExtent a extent w.container }
      { w' with container := Container.setContentExtent a extent w'.container }
  unsubscribe : ∀ {w w'}, R w w' → ∀ handle,
    R { w with container := Container.unsubscribe handle w.container }
      { w' with container := Container.unsubscribe handle w'.container }
  reconcile : ∀ {w w'}, R w w' → ∀ items range registry,
    let p := reconcile cb items range registry w.caller
    let p' := ListWindow.reconcile cb' items range registry w'.caller
    p'.outcome = p.outcome ∧ p'.registry = p.registry ∧
      R { w with caller := p.caller } { w' with caller := p'.caller }
  updates : cb'.update.isSome = cb.update.isSome
  update : ∀ {w w'}, R w w' → ∀ u u', cb.update = some u → cb'.update = some u' →
    ∀ e item i, (u' w'.caller e item i).2 = (u w.caller e item i).2 ∧
      R { w with caller := (u w.caller e item i).1 } { w' with caller := (u' w'.caller e item i).1 }

/-- The same window in corresponding worlds. -/
def Scene.Alike (R : World κ σ → World κ' σ' → Prop) (s : Scene κ σ α ε) (t : Scene κ' σ' α ε) :
    Prop :=
  t.window = s.window ∧ R s.world t.world

/-- The same answer and the same window in corresponding worlds. -/
def Scene.AlikeAfter {β : Type} (R : World κ σ → World κ' σ' → Prop) (x : β × Scene κ σ α ε)
    (y : β × Scene κ' σ' α ε) : Prop :=
  y.1 = x.1 ∧ x.2.Alike R y.2

namespace Scene

variable {a : Arithmetic} {cb : Callbacks σ α ε} {cb' : Callbacks σ' α ε}
  {R : World κ σ → World κ' σ' → Prop} {s : Scene κ σ α ε} {t : Scene κ' σ' α ε}

theorem Alike.drained (hsim : Simulation cb cb' R) (h : s.Alike R t) : t.drained = s.drained := by
  rw [Scene.drained, Scene.drained, h.1, hsim.channels h.2]

theorem Alike.waiting (hsim : Simulation cb cb' R) (h : s.Alike R t) : t.waiting = s.waiting := by
  rw [Scene.waiting, Scene.waiting, h.1, hsim.channels h.2]

theorem Alike.collectEvents (hsim : Simulation cb cb' R) (h : s.Alike R t) :
    s.collectEvents.Alike R t.collectEvents := by
  rw [collectEvents_eq, collectEvents_eq, collected, collected, h.waiting hsim, h.drained hsim, h.1]
  exact ⟨rfl, hsim.drain h.2 _⟩

theorem Alike.discardEvents (hsim : Simulation cb cb' R) (h : s.Alike R t) :
    s.discardEvents.Alike R t.discardEvents := by
  rw [discardEvents_eq, discardEvents_eq, h.drained hsim, h.1]
  exact ⟨rfl, hsim.drain h.2 _⟩

theorem Alike.finishPass (hsim : Simulation cb cb' R) (h : s.Alike R t) (stats : Stats) :
    (s.finishPass a stats).Alike R (t.finishPass a stats) := by
  rw [Scene.finishPass, Scene.finishPass, h.1]
  exact ⟨rfl, hsim.content h.2 _ _⟩

theorem render_alike (a : Arithmetic) (hsim : Simulation cb cb' R) (h : s.Alike R t) :
    AlikeAfter R (s.render a cb) (t.render a cb') := by
  rw [render, render, h.1]
  split
  · exact ⟨rfl, h⟩
  have hd := h.discardEvents hsim
  have hgeometry := hsim.geometry hd.2
  rw [Container.geometry, Container.geometry] at hgeometry
  simp only [hgeometry, hd.1]
  split
  · exact ⟨rfl, rfl, hd.2⟩
  · rename_i range _
    obtain ⟨houtcome, hregistry, hworld⟩ := hsim.reconcile hd.2 s.discardEvents.window.items range
      s.discardEvents.window.registry
    rw [houtcome, hregistry]
    split
    · exact ⟨rfl, rfl, hworld⟩
    · exact ⟨rfl, Alike.finishPass hsim ⟨rfl, hworld⟩ _⟩

theorem renderReleased_alike (a : Arithmetic) (hsim : Simulation cb cb' R)
    (released : Throttle × Option Reasons) (h : s.Alike R t) :
    AlikeAfter R (s.renderReleased a cb released) (t.renderReleased a cb' released) := by
  have hthrottle : ({ s with window := { s.window with throttle := released.1 } } :
      Scene κ σ α ε).Alike R { t with window := { t.window with throttle := released.1 } } := by
    rw [h.1]
    exact ⟨rfl, h.2⟩
  rw [renderReleased, renderReleased]
  rcases released with ⟨th, _ | reasons⟩
  · exact ⟨rfl, hthrottle⟩
  · obtain ⟨hanswer, hscene⟩ := render_alike a hsim hthrottle
    exact ⟨congrArg (Except.map some) hanswer, hscene⟩

theorem pump_alike (a : Arithmetic) (hsim : Simulation cb cb' R) (h : s.Alike R t)
    (now : Instant) : AlikeAfter R (s.pump a cb now) (t.pump a cb' now) := by
  rw [pump, pump, h.1]
  split
  · exact ⟨rfl, h⟩
  · have hcollect := h.collectEvents hsim
    dsimp only
    rw [hcollect.1]
    exact renderReleased_alike a hsim _ hcollect

theorem flush_alike (a : Arithmetic) (hsim : Simulation cb cb' R) (h : s.Alike R t)
    (now : Instant) : AlikeAfter R (s.flush a cb now) (t.flush a cb' now) := by
  rw [flush, flush, h.1]
  split
  · exact ⟨rfl, h⟩
  · have hcollect := h.collectEvents hsim
    dsimp only
    rw [hcollect.1]
    exact renderReleased_alike a hsim _ hcollect

theorem setItems_alike (a : Arithmetic) (hsim : Simulation cb cb' R) (h : s.Alike R t)
    (now : Instant) (items : Array α) :
    AlikeAfter R (s.setItems a cb now items) (t.setItems a cb' now items) := by
  rcases hlive : s.window.isDestroyed with _ | _
  · have hrefilled : (s.refilled items).Alike R (t.refilled items) := by
      rw [refilled, refilled, h.1]
      exact ⟨rfl, h.2⟩
    rw [setItems_eq a cb hlive, setItems_eq a cb' (h.1 ▸ hlive)]
    have hflush := flush_alike a hsim hrefilled now
    generalize (s.refilled items).flush a cb now = x at hflush ⊢
    generalize (t.refilled items).flush a cb' now = y at hflush ⊢
    obtain ⟨answer, s'⟩ := x
    obtain ⟨answer', t'⟩ := y
    obtain ⟨hanswer, hwindow, hworld⟩ := hflush
    obtain rfl : answer' = answer := hanswer
    cases answer' with
    | error fault => exact ⟨rfl, hwindow, hworld⟩
    | ok stats =>
      dsimp only
      rw [h.1, show t'.window = s'.window from hwindow]
      exact ⟨rfl, rfl, hworld⟩
  · rw [setItems, setItems, h.1, hlive]
    exact ⟨rfl, h⟩

theorem refreshes_alike (hsim : Simulation cb cb' R) (h : s.Alike R t) (r : Request α) :
    r.refreshes cb' t.window = r.refreshes cb s.window := by
  cases r with
  | updateAt index item => rw [Request.refreshes, Request.refreshes, hsim.updates, h.1]
  | _ => rfl

theorem updateAt_alike (a : Arithmetic) (hsim : Simulation cb cb' R) (h : s.Alike R t)
    (index : Nat) (item : α) :
    AlikeAfter R (s.updateAt a cb index item) (t.updateAt a cb' index item) := by
  rcases hlive : s.window.isDestroyed with _ | _
  · have hlive' : t.window.isDestroyed = false := h.1 ▸ hlive
    have hstored : (s.stored index item).Alike R (t.stored index item) := by
      rw [stored, stored, h.1]
      exact ⟨rfl, h.2⟩
    by_cases hindex : s.window.items.size ≤ index
    · rw [updateAt_refuse a cb hlive hindex, updateAt_refuse a cb' hlive' (h.1 ▸ hindex), h.1]
      exact ⟨rfl, h⟩
    have hlt : index < s.window.items.size := Nat.lt_of_not_le hindex
    have hlt' : index < t.window.items.size := h.1 ▸ hlt
    have hsame := refreshes_alike hsim h (.updateAt index item)
    rcases hrefresh : (Request.updateAt index item).refreshes cb s.window with _ | _
    · rw [updateAt_store a hlive hlt item hrefresh,
        updateAt_store a hlive' hlt' item (hsame.trans hrefresh), h.1]
      obtain ⟨hanswer, hscene⟩ := render_alike a hsim hstored
      split
      · exact ⟨congrArg (Except.map _) hanswer, hscene⟩
      · exact ⟨rfl, hstored⟩
    · obtain ⟨held, u, hheld, hu⟩ := refreshes_spec hrefresh
      obtain ⟨_, u', _, hu'⟩ := refreshes_spec (hsame.trans hrefresh)
      obtain ⟨hleft, hworld⟩ := hsim.update h.2 u u' hu hu' held item index
      rw [updateAt_refresh a hlive hlt item hheld hu,
        updateAt_refresh a hlive' hlt' item (h.1 ▸ hheld) hu']
      generalize u s.world.caller held item index = x at hleft hworld ⊢
      generalize u' t.world.caller held item index = y at hleft hworld ⊢
      obtain ⟨caller, left, done⟩ := x
      obtain ⟨caller', left', done'⟩ := y
      obtain ⟨rfl, rfl⟩ : left' = left ∧ done' = done := Prod.mk.inj hleft
      rw [hstored.1, h.1]
      cases done' with
      | false => exact ⟨rfl, rfl, hworld⟩
      | true => exact ⟨rfl, rfl, hworld⟩
  · rw [updateAt, updateAt, h.1, hlive]
    exact ⟨rfl, h⟩

theorem Alike.unsubscribe (hsim : Simulation cb cb' R) (h : s.Alike R t) :
    s.unsubscribe.Alike R t.unsubscribe := by
  rw [Scene.unsubscribe, Scene.unsubscribe, h.1, hsim.channels h.2]
  split
  · exact h
  · exact ⟨rfl, hsim.drain (hsim.unsubscribe h.2 _) _⟩

/-- A window that is asked for something in one of two corresponding worlds answers as in the other,
and leaves them corresponding. -/
theorem perform_alike (a : Arithmetic) (hsim : Simulation cb cb' R) (h : s.Alike R t)
    (r : Request α) : AlikeAfter R (s.perform a cb r) (t.perform a cb' r) := by
  cases r with
  | setItems now items =>
    obtain ⟨hanswer, hscene⟩ := setItems_alike a hsim h now items
    exact ⟨congrArg Answer.stats hanswer, hscene⟩
  | updateAt index item =>
    obtain ⟨hanswer, hscene⟩ := updateAt_alike a hsim h index item
    exact ⟨congrArg Answer.update hanswer, hscene⟩
  | scrollToIndex index =>
    rw [perform, perform, scrollToIndex, scrollToIndex, h.1, hsim.offset h.2]
    rcases s.window.isDestroyed with _ | _
    · exact ⟨rfl, rfl, hsim.scroll h.2 _ _⟩
    · exact ⟨rfl, h⟩
  | pump now =>
    obtain ⟨hanswer, hscene⟩ := pump_alike a hsim h now
    exact ⟨congrArg Answer.pass hanswer, hscene⟩
  | flush now =>
    obtain ⟨hanswer, hscene⟩ := flush_alike a hsim h now
    exact ⟨congrArg Answer.pass hanswer, hscene⟩
  | render =>
    obtain ⟨hanswer, hscene⟩ := render_alike a hsim h
    exact ⟨congrArg Answer.stats hanswer, hscene⟩
  | destroy =>
    have hleft := h.unsubscribe hsim
    rw [perform, perform, destroy, destroy, h.1]
    split
    · exact ⟨rfl, h⟩
    · dsimp only
      rw [hleft.1]
      exact ⟨rfl, rfl, hleft.2⟩

end Scene

end ListWindow
