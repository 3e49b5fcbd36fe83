import ListWindow.Proofs.Serving

/-!
Storing one item. What becomes of `updateAt` depends on whether the index has an item, whether it is
in range, and whether there is an update function; in every case all is said of the scene that it
leaves (`Reachable.stores`):

1. Without an item at the index the scene stays as it is.
2. An element on display is brought up to date in its place by one call, and the region that shows
   it is exchanged; nothing else of the scene is touched (`Scene.Refreshed`).
3. Without an update function the pass is the one that `render` runs once the item is stored.
4. Out of range the item is stored, and no function of the caller is called. For as long as the item
   stays, the pass that brings its index into range makes the element from it (`Scene.Awaits`).
-/
namespace ListWindow

variable {κ σ α ε : Type}

/-- The region with the element of one index exchanged. -/
def Region.showing (index : Nat) (x : ε) : Region ε → Region ε
  | .element i old => .element i (if i = index then x else old)
  | .filler edge extent => .filler edge extent

theorem Spacers.region_showing (edge : Edge) (extent : Option Scalar) (index : Nat) (x : ε) :
    (Spacers.region edge extent).map (Region.showing index x) = Spacers.region edge extent := by
  cases extent <;> rfl

theorem Spacers.element_not_mem_region {edge : Edge} {extent : Option Scalar} {i : Nat} {x : ε} :
    .element i x ∉ Spacers.region edge extent := by
  cases extent <;> simp [Spacers.region]

theorem Window.element?_of_region {w : Window α ε} {i : Nat} {x : ε}
    (h : .element i x ∈ w.regions) : w.registry.element? i = some x := by
  rw [regions, List.mem_append, List.mem_append] at h
  rcases h with (h | h) | h
  · exact absurd h Spacers.element_not_mem_region
  · obtain ⟨j, _, hj⟩ := List.mem_filterMap.1 h
    obtain ⟨y, hy, heq⟩ := Option.map_eq_some_iff.1 hj
    obtain ⟨rfl, rfl⟩ := Region.element.inj heq
    exact hy
  · exact absurd h Spacers.element_not_mem_region

theorem Window.regions_modify (w : Window α ε) (index : Nat) (x : ε) :
    ({ w with registry := w.registry.modify index fun _ => x } : Window α ε).regions =
      w.regions.map (Region.showing index x) := by
  have hmiddle : ∀ i, ((w.registry.modify index fun _ => x).element? i).map (Region.element i) =
      ((w.registry.element? i).map (Region.element i)).map (Region.showing index x) := by
    intro i
    by_cases hi : i = index
    · rw [hi, Registry.element?_modify_self]
      cases w.registry.element? index <;> simp [Region.showing]
    · rw [Registry.element?_modify_of_ne _ hi]
      cases w.registry.element? i <;> simp [Region.showing, hi]
  rw [Window.regions, Window.regions, List.map_append, List.map_append, List.map_filterMap,
    Spacers.region_showing, Spacers.region_showing]
  simp only [hmiddle]

theorem Call.Due.index {cb : Callbacks σ α ε} {kept : Nat → Bool} {items : Array α}
    {held after : Registry ε} {i : Nat} {call : Call α ε}
    (h : Call.Due cb kept items held after i call) : call.index = i := by
  cases h <;> rfl

theorem Call.due_indices {cb : Callbacks σ α ε} {kept : Nat → Bool} {items : Array α}
    {held after : Registry ε} {is : List Nat} {calls : List (Call α ε)}
    (h : List.Forall₂ (Call.Due cb kept items held after) is calls) :
    calls.map Call.index = is := by
  induction h with
  | nil => rfl
  | cons hcall _ ih => rw [List.map_cons, hcall.index, ih]

theorem Call.due_filter {cb : Callbacks σ α ε} {kept : Nat → Bool} {items : Array α}
    {held after : Registry ε} {is : List Nat} {calls : List (Call α ε)}
    (h : List.Forall₂ (Call.Due cb kept items held after) is calls) (hnd : is.Nodup) {i : Nat}
    (hi : i ∈ is) :
    ∃ call, Call.Due cb kept items held after i call ∧ calls.filter (·.index == i) = [call] := by
  obtain ⟨call, hcall, hdue⟩ := due_of_mem h hi
  have hkeys : (calls.map Call.index).Nodup := by
    rw [due_indices h]
    exact hnd
  have hfilter := Registry.filter_key hkeys hcall
  rw [hdue.index] at hfilter
  exact ⟨call, hdue, hfilter⟩

theorem Callbacks.recording_update {cb : Callbacks σ α ε} {u : σ → ε → α → Nat → σ × ε × Bool}
    (hu : cb.update = some u) :
    cb.recording.update = some fun c element item i =>
      (((u c.1 element item i).1, c.2 ++ [.update i item element (u c.1 element item i).2.1
        (u c.1 element item i).2.2]), (u c.1 element item i).2) := by
  rw [recording, hu]
  rfl

namespace Scene

variable [Container κ]

/-- What a request is answered and leaves, and the calls of the caller's functions that it makes: a
record beside the caller's state shows these calls and no others. -/
def Does (a : Arithmetic) (cb : Callbacks σ α ε) (r : Request α) (s : Scene κ σ α ε)
    (answer : Answer) (s' : Scene κ σ α ε) (calls : List (Call α ε)) : Prop :=
  s.perform a cb r = (answer, s') ∧
    (s.logged []).perform a cb.recording r = (answer, s'.logged calls)

/-- The element on display for an index has been brought up to date in its place. -/
structure Refreshed (a : Arithmetic) (cb : Callbacks σ α ε) (index : Nat) (item : α)
    (u : σ → ε → α → Nat → σ × ε × Bool) (s s' : Scene κ σ α ε) : Prop where
  /-- One update is called and nothing is created; what it leaves takes the place of the element. -/
  call : ∃ held left, s.window.registry.element? index = some held ∧
    u s.world.caller held item index = (s'.world.caller, left, true) ∧
    s.Does a cb (.updateAt index item) (.update (.ok (.ok .updated))) s'
      [.update index item held left true] ∧
    s'.window.registry.element? index = some left ∧
    s'.window.surface =
      s.window.surface.redraw (s.window.surface.regions.map (Region.showing index left))
  others : ∀ j, j ≠ index → s'.window.registry.element? j = s.window.registry.element? j
  keys : s'.window.registry.indices = s.window.registry.indices
  /-- Everything else is as before. -/
  frame : s' =
    { window :=
        { s.window with
          items := s'.window.items
          registry := s'.window.registry
          surface := s'.window.surface }
      world := { s.world with caller := s'.world.caller } }

/-- What is on display for an index shows the given item, and where nothing is, the pass that brings
the index into range with that item still in its place makes the element from it: that is its one
call for the index. -/
structure Awaits (a : Arithmetic) (cb : Callbacks σ α ε) (index : Nat) (item : α)
    (s : Scene κ σ α ε) : Prop where
  shown : ∀ (γ : Type) (view : ε → γ) (f : α → Nat → γ), cb.Shows view f →
    (∀ x, s.window.registry.element? index = some x → view x = f item index) ∧
    ∀ x, .element index x ∈ s.window.surface.regions → view x = f item index
  enters : s.window.range.contains index = false → ∀ r : Request α, r.Fits → s.Unbroken a cb r →
    (s.perform a cb r).2.window.range.contains index = true →
    (s.perform a cb r).2.window.items[index]? = some item →
    (s.perform a cb r).1.ranPass = true ∧ ∃ calls e,
      s.Does a cb r (s.perform a cb r).1 (s.perform a cb r).2 calls ∧
      calls.filter (·.index == index) = [.create index item (some e)] ∧
      (s.perform a cb r).2.window.registry.element? index = some e

variable {a : Arithmetic} {cb : Callbacks σ α ε} {s s' : Scene κ σ α ε} {index : Nat} {item : α}

theorem updateAt_refreshed (hs : s.window.Consistent a) (hlive : s.window.isDestroyed = false)
    (hin : s.window.range.contains index = true) {u : σ → ε → α → Nat → σ × ε × Bool}
    (hu : cb.update = some u) (hok : s.Unbroken a cb (.updateAt index item)) :
    s.Refreshed a cb index item u (s.perform a cb (.updateAt index item)).2 := by
  have hlt : index < s.window.items.size := hs.range.lt hin
  obtain ⟨held, hheld⟩ : ∃ held, s.window.registry.element? index = some held :=
    Option.isSome_iff_exists.1 ((hs.element?_isSome index).trans hin)
  have hupdate := updateAt_refresh a hlive hlt item hheld hu
  have hrecorded := updateAt_refresh (s := s.logged []) a hlive hlt item hheld
    (Callbacks.recording_update hu)
  have hcaller : (s.logged []).world.caller = (s.world.caller, []) := rfl
  rw [hcaller] at hrecorded
  rcases hcall : u s.world.caller held item index with ⟨caller, left, done⟩
  cases done with
  | false =>
    rw [hcall] at hupdate
    have hbroken := hok (.updateFailed index) (by rw [perform, hupdate]; rfl)
    cases hbroken
  | true =>
    simp only [hcall, if_true] at hupdate hrecorded
    have hregions := Window.regions_modify (s.stored index item).window index left
    have hdrawn : (s.stored index item).window.regions = s.window.surface.regions := hs.drawn.symm
    rw [hdrawn] at hregions
    have hsurface : (Window.place { (s.stored index item).window with
        registry := s.window.registry.modify index fun _ => left }).surface =
        s.window.surface.redraw (s.window.surface.regions.map (Region.showing index left)) :=
      congrArg s.window.surface.redraw hregions
    rw [perform, hupdate]
    refine ⟨⟨held, left, hheld, hcall, ⟨by rw [perform, hupdate], ?_⟩, ?_, hsurface⟩, ?_, ?_, rfl⟩
    · rw [perform, hrecorded]
      rfl
    · show (s.window.registry.modify index fun _ => left).element? index = some left
      rw [Registry.element?_modify_self, hheld]
      rfl
    · exact fun j hj => Registry.element?_modify_of_ne _ hj
    · exact Registry.indices_modify _

/-- Without an update function the pass makes the same calls as one that `render` asks for. -/
theorem updateAt_rerendered (hs : s.window.Consistent a) (hlive : s.window.isDestroyed = false)
    (hin : s.window.range.contains index = true) (hu : cb.update = none)
    (hok : s.Unbroken a cb (.updateAt index item)) :
    ∃ st calls,
      (s.stored index item).Does a cb .render (.stats (.ok st))
        (s.perform a cb (.updateAt index item)).2 calls ∧
      s.Does a cb (.updateAt index item) (.update (.ok (.ok .rerendered)))
        (s.perform a cb (.updateAt index item)).2 calls := by
  have hlt : index < s.window.items.size := hs.range.lt hin
  have hstores : (Request.updateAt index item).refreshes cb s.window = false := by
    rw [Request.refreshes, hu, Option.isSome_none, Bool.and_false]
  have hupdate := updateAt_store a hlive hlt item hstores
  have hrecorded := updateAt_store (s := s.logged []) a hlive hlt item
    ((refreshes_recording cb s.window _).trans hstores)
  have hfault := (perform_effect hlive hs.pos hs.bounded (.updateAt index item) trivial
    (.inr hok)).faultless
  obtain ⟨calls, hrender⟩ := perform_logged a cb .render (s.stored index item) []
  -- to store an item and to begin a record are independent
  have hswap : (s.logged []).stored index item = (s.stored index item).logged [] := rfl
  have hin' : (s.logged []).window.range.contains index = true := hin
  rw [if_pos hin', hswap] at hrecorded
  rw [if_pos hin] at hupdate
  rcases hpass : (s.stored index item).render a cb with ⟨fault | st, s'⟩
  · rw [perform, hupdate, hpass] at hfault
    cases hfault
  · rw [hpass] at hupdate
    simp only [perform, hpass, List.nil_append, Prod.mk.injEq, Answer.stats.injEq] at hrender
    obtain ⟨houtcome, hleft⟩ := hrender
    rw [houtcome, hleft] at hrecorded
    refine ⟨st, calls, ?_, ?_⟩
    · simp only [Does, perform, hpass, hupdate, houtcome, hleft, and_self]
    · simp only [Does, perform, hupdate, hrecorded]
      exact ⟨rfl, rfl⟩

theorem updateAt_deferred (a : Arithmetic) (cb : Callbacks σ α ε)
    (hlive : s.window.isDestroyed = false) (hlt : index < s.window.items.size)
    (hout : s.window.range.contains index = false)
    (hnone : s.window.registry.element? index = none) (item : α) :
    s.Does a cb (.updateAt index item) (.update (.ok (.ok .deferred))) (s.stored index item)
      [] := by
  have hstores : (Request.updateAt index item).refreshes cb s.window = false := by
    rw [Request.refreshes, hnone, Option.isSome_none, Bool.false_and]
  have hupdate := updateAt_store a hlive hlt item hstores
  have hrecorded := updateAt_store (s := s.logged []) a hlive hlt item
    ((refreshes_recording cb s.window _).trans hstores)
  have hout' : ¬ (s.logged []).window.range.contains index = true := by
    show ¬ s.window.range.contains index = true
    rw [hout]
    exact Bool.false_ne_true
  rw [if_neg hout'] at hrecorded
  rw [if_neg (by rw [hout]; exact Bool.false_ne_true)] at hupdate
  constructor
  · rw [perform, hupdate]
  · rw [perform, hrecorded]
    rfl

theorem updateAt_refused (a : Arithmetic) (cb : Callbacks σ α ε)
    (hlive : s.window.isDestroyed = false) (hout : s.window.items.size ≤ index) (item : α) :
    s.Does a cb (.updateAt index item)
      (.update (.ok (.error (.indexOutOfBounds index s.window.items.size)))) s [] := by
  constructor
  · rw [perform, updateAt_refuse a cb hlive hout]
  · rw [perform, updateAt_refuse (s := s.logged []) a cb.recording hlive hout]
    rfl

/-- A request that brings an index into range runs a pass. -/
theorem Effect.entered {r : Request α} {answer : Answer} (h : Effect a cb s r answer s')
    (hbefore : s.window.range.contains index = false)
    (hafter : s'.window.range.contains index = true) : answer.ranPass = true := by
  cases h with
  | passes _ _ _ _ hran _ _ _ _ _ => exact hran
  | waits _ _ _ =>
    rw [collectEvents_eq] at hafter
    cases hbefore.symm.trans hafter
  | scrolls _ =>
    rw [scrollToIndex_window] at hafter
    cases hbefore.symm.trans hafter
  | destroys =>
    rw [destroy] at hafter
    split at hafter
    · cases hbefore.symm.trans hafter
    · cases hafter
  | _ => cases hbefore.symm.trans hafter

theorem pass_enters (hs : s.window.Consistent a) {r : Request α} (hfits : r.Fits)
    (hok : s.Unbroken a cb r) (hbefore : s.window.range.contains index = false)
    (hafter : (s.perform a cb r).2.window.range.contains index = true)
    (hitem : (s.perform a cb r).2.window.items[index]? = some item) :
    (s.perform a cb r).1.ranPass = true ∧ ∃ calls e,
      s.Does a cb r (s.perform a cb r).1 (s.perform a cb r).2 calls ∧
      calls.filter (·.index == index) = [.create index item (some e)] ∧
      (s.perform a cb r).2.window.registry.element? index = some e := by
  rcases hlive : s.window.isDestroyed with _ | _
  · have hran := (perform_effect hlive hs.pos hs.bounded r hfits (.inr hok)).entered hbefore hafter
    obtain ⟨_, calls, hlogged, hrecycled⟩ := pass_recycled hs hlive hfits hok hran
    obtain ⟨call, hdue, hfilter⟩ := Call.due_filter hrecycled.due
      (IndexRange.nodup_indices _) (IndexRange.mem_indices.2 hafter)
    refine ⟨hran, ?_⟩
    cases hdue with
    | @create made e _ hmade _ _ hheld =>
      cases hmade.symm.trans hitem
      exact ⟨calls, e, ⟨rfl, hlogged⟩, hfilter, hheld⟩
    | update _ hkept _ _ _ _ => simp [hbefore] at hkept
  · rw [perform_destroyed hlive] at hafter
    cases hbefore.symm.trans hafter

end Scene

section

variable [Container κ] {a : Arithmetic} {cb : Callbacks σ α ε} {start : World κ σ → Prop}
  {outside : World κ σ → World κ σ → Prop} {s : Scene κ σ α ε} {index : Nat} {item : α}

theorem Reachable.awaits (h : Reachable a cb start outside s)
    (hitem : s.window.items[index]? = some item) : s.Awaits a cb index item where
  shown := by
    intro γ view f hshow
    have hs := h.consistent
    -- an element of the registry shows the item that its index has now
    have hview : ∀ x, s.window.registry.element? index = some x → view x = f item index := by
      intro x hx
      obtain ⟨present, hpresent, hview⟩ :=
        h.fresh hshow _ (Registry.mem_of_get? (Registry.element?_eq_some.1 hx))
      cases hpresent.symm.trans hitem
      exact hview
    refine ⟨hview, fun x hx => hview x (Window.element?_of_region ?_)⟩
    rw [← hs.drawn]
    exact hx
  enters := fun hbefore _ hfits hok hafter hlast =>
    Scene.pass_enters h.consistent hfits hok hbefore hafter hlast

/-- Storing an item in a live window of any run, with functions of the caller that do not give up.
An index past the items is refused, and nothing changes. Otherwise the items change at the index and
nowhere else. In range, the element on display is brought up to date where there is an update
function, and a pass is run as by `render` where there is none; out of range only the item is
stored, and for as long as it stays there it is what an element for the index is made from. -/
theorem Reachable.stores (h : Reachable a cb start outside s)
    (hlive : s.window.isDestroyed = false) (index : Nat) (item : α)
    (hok : s.Unbroken a cb (.updateAt index item)) :
    let s' := (s.perform a cb (.updateAt index item)).2
    (s.window.items.size ≤ index →
      s.Does a cb (.updateAt index item)
        (.update (.ok (.error (.indexOutOfBounds index s.window.items.size)))) s []) ∧
    (index < s.window.items.size →
      s'.window.items.size = s.window.items.size ∧
      (∀ j, s'.window.items[j]? = if j = index then some item else s.window.items[j]?) ∧
      (∀ u, s.window.range.contains index = true → cb.update = some u →
        s.Refreshed a cb index item u s') ∧
      (s.window.range.contains index = true → cb.update = none →
        ∃ st calls, (s.stored index item).Does a cb .render (.stats (.ok st)) s' calls ∧
          s.Does a cb (.updateAt index item) (.update (.ok (.ok .rerendered))) s' calls) ∧
      (s.window.range.contains index = false →
        s.Does a cb (.updateAt index item) (.update (.ok (.ok .deferred))) (s.stored index item)
          [] ∧
        ∀ t, Relation.ReflTransGen (fun x y => (∃ ran, Scene.Step a cb outside ran x y) ∧
            y.window.items[index]? = some item) (s.stored index item) t →
          t.Awaits a cb index item)) := by
  have hs := h.consistent
  refine ⟨fun hout => Scene.updateAt_refused a cb hlive hout item, fun hlt => ?_⟩
  have heffect := Scene.perform_effect hlive hs.pos hs.bounded (.updateAt index item) trivial
    (.inr hok)
  have hitems := heffect.items (heffect.live hlive (by simp))
  have hstays : ∀ j, (s.window.items.setIfInBounds index item)[j]? =
      if j = index then some item else s.window.items[j]? := by
    intro j
    rw [Array.getElem?_setIfInBounds]
    by_cases hj : j = index
    · rw [if_pos hj.symm, if_pos hlt, if_pos hj]
    · rw [if_neg (Ne.symm hj), if_neg hj]
  refine ⟨?_, ?_, ?_, ?_, ?_⟩
  · rw [hitems]
    exact Array.size_setIfInBounds
  · intro j
    rw [hitems]
    exact hstays j
  · exact fun u hin hu => Scene.updateAt_refreshed hs hlive hin hu hok
  · exact fun hin hu => Scene.updateAt_rerendered hs hlive hin hu hok
  · intro hout
    have hnone : s.window.registry.element? index = none := by
      rw [← Option.not_isSome_iff_eq_none, hs.element?_isSome, hout]
      exact Bool.false_ne_true
    have hdefers := Scene.updateAt_deferred a cb hlive hlt hout hnone item
    refine ⟨hdefers, fun t hrun => ?_⟩
    have hstep := h.step (.ask (.updateAt index item) trivial hok)
    rw [hdefers.1] at hstep
    -- along the run: the scene is reachable and still has the item
    have hkept : Reachable a cb start outside t ∧ t.window.items[index]? = some item := by
      induction hrun with
      | refl => exact ⟨hstep, (hstays index).trans (if_pos rfl)⟩
      | tail _ hlast ih =>
        obtain ⟨⟨ran, hnext⟩, hitem⟩ := hlast
        exact ⟨ih.1.step hnext, hitem⟩
    exact hkept.1.awaits hkept.2

end

def World.oneLine : World ScrollArea Unit :=
  { container := { extent := 1 }, channels := #[], caller := () }

/-- Of three numbers the first two are in range there. Storing the first brings its element up to
date, storing the third is put off, and there is no fourth. -/
theorem stores_copying :
    ∃ s : Scene ScrollArea Unit Nat Nat, Built .binary64 .copying anywhere s ∧
      (∃ u, s.Refreshed .binary64 .copying 0 9 u (s.perform .binary64 .copying (.updateAt 0 9)).2) ∧
      s.Does .binary64 .copying (.updateAt 2 9) (.update (.ok (.ok .deferred))) (s.stored 2 9) [] ∧
      s.Does .binary64 .copying (.updateAt 3 9)
        (.update (.ok (.error (.indexOutOfBounds 3 3)))) s [] := by
  have hbuilt : (match (Builder.copying #[4, 5, 6]).build .binary64 World.oneLine with
    | (.ok (.ok window), _) => decide (window.range = .span 0 1 ∧ window.items.size = 3)
    | (.ok (.error _), _) | (.error _, _) => false) = true := by decide +kernel
  split at hbuilt
  · rename_i window world hbuild
    obtain ⟨hrange, hsize⟩ := of_decide_eq_true hbuilt
    have hs : Built .binary64 .copying anywhere ⟨window, world⟩ :=
      ⟨_, _, trivial, by decide, ⟨_, Builder.copying_parts _⟩, hbuild⟩
    have hreach : Reachable .binary64 .copying anywhere anything ⟨window, world⟩ := ⟨_, hs, .refl⟩
    have hstores : ∀ index, _ := fun index =>
      hreach.stores hs.live index 9 (hs.copying_unbroken (r := .updateAt index 9) trivial)
    simp only [hrange, hsize] at hstores
    refine ⟨_, hs, ⟨_, ((hstores 0).2 (by decide)).2.2.1 _ rfl rfl⟩, ?_, ?_⟩
    · exact (((hstores 2).2 (by decide)).2.2.2.2 rfl).1
    · exact (hstores 3).1 (by decide)
  · cases hbuilt
  · cases hbuilt

end ListWindow
