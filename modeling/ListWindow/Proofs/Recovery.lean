import ListWindow.Proofs.Recycling

/-!
Recovery from functions that give up. In an `Attempted` run the caller's functions may give up in
any call; the fault is caught, and the run goes on with what the request has left. What remains true
of the window is `Window.Orderly`: the range fits the items, and the registry has elements for the
first indices of the range. A pass that breaks off leaves the elements that it has made and none
from before (`Scene.CutShort`). The next complete pass leaves a window with nothing amiss, whatever
has happened until then, and an item that is stored without a fault is on display where it is in
range (`Attempted.recovers`).
-/
namespace ListWindow

variable {κ σ α ε γ : Type}

namespace Window

/-- The range fits the items, and the registry has elements for the first indices of the range: for
all of them unless a pass has broken off. -/
structure Orderly (w : Window α ε) : Prop where
  extent : w.itemExtent.isExtent = true
  bounded : w.items.size ≤ maxIndex
  range : w.range.Within w.items.size
  keys : w.registry.indices <+: w.range.indices

/-- Every element may be given to an update. -/
def Usable (ok : Nat → ε → Prop) (w : Window α ε) : Prop :=
  ∀ e ∈ w.registry.entries, ok e.index e.element

/-- Nothing is amiss: the registry has an element for exactly the indices of the range, each shows
its present item, and the surface shows them in ascending order between the spacers. -/
structure Restored (a : Arithmetic) (view : ε → γ) (f : α → Nat → γ) (w : Window α ε) : Prop where
  consistent : w.Consistent a
  fresh : w.Fresh view f
  drawn : w.surface.regions = Spacers.region .leading w.spacers.leading?
    ++ w.registry.entries.map (fun e => .element e.index e.element)
    ++ Spacers.region .trailing w.spacers.trailing?

theorem Consistent.orderly {a : Arithmetic} {w : Window α ε} (h : w.Consistent a) : w.Orderly :=
  ⟨h.extent, h.bounded, h.range, h.keys ▸ List.prefix_rfl⟩

theorem element_mem_regions {w : Window α ε} {i : Nat} {x : ε} (hin : w.range.contains i = true)
    (hx : w.registry.element? i = some x) : Region.element i x ∈ w.regions := by
  have hmem : Region.element i x ∈
      w.range.indices.filterMap fun i => (w.registry.element? i).map (Region.element i) :=
    List.mem_filterMap.2 ⟨i, IndexRange.mem_indices.2 hin, by rw [hx]; rfl⟩
  exact List.mem_append_left _ (List.mem_append_right _ hmem)

namespace Orderly

variable {w : Window α ε}

theorem pos (h : w.Orderly) : (0 : Scalar) < w.itemExtent := isExtent_pos h.extent

theorem contains_of_element? (h : w.Orderly) {i : Nat} {x : ε}
    (hx : w.registry.element? i = some x) : w.range.contains i = true := by
  have hmem : i ∈ w.registry.indices := by
    by_contra hout
    rw [Registry.element?_eq_none.2 hout] at hx
    cases hx
  exact IndexRange.mem_indices.1 (h.keys.subset hmem)

end Orderly

namespace Usable

variable {w : Window α ε} {ok : Nat → ε → Prop}

theorem staged (h : w.Usable ok) (r : Request α) : (r.staged w).Usable ok :=
  fun e he => h e (Scene.staged_entries he)

theorem held (h : w.Usable ok) {index : Nat} {held : ε}
    (hheld : w.registry.element? index = some held) : ok index held :=
  h _ (Registry.mem_of_get? (Registry.element?_eq_some.1 hheld))

theorem modify (h : w.Usable ok) {index : Nat} {left : ε} (hleft : ok index left) :
    ∀ e ∈ (w.registry.modify index fun _ => left).entries, ok e.index e.element := by
  intro e he
  obtain ⟨old, hold, rfl⟩ := List.mem_map.1 he
  by_cases hi : old.index = index
  · rw [if_pos hi]
    exact hi ▸ hleft
  · rw [if_neg hi]
    exact h old hold

end Usable

end Window

namespace Scene

variable [Container κ]

/-- One step of a run in which the caller's functions may give up at any time: the fault is caught,
and the run goes on with what the request has left. -/
inductive Attempt (a : Arithmetic) (cb : Callbacks σ α ε) (outside : World κ σ → World κ σ → Prop) :
    Scene κ σ α ε → Scene κ σ α ε → Prop where
  | ask {s : Scene κ σ α ε} (r : Request α) : r.Fits → Attempt a cb outside s (s.perform a cb r).2
  | outside {s : Scene κ σ α ε} {w : World κ σ} : outside s.world w →
      Attempt a cb outside s { s with world := w }

/-- A pass has broken off at index `k` of its range. The registry has the elements for the indices
before and nothing else. The calls are those due for these indices, in order, each of which has
produced the element there is now or updated the one there was, and the call that gave up. -/
structure CutShort (cb : Callbacks σ α ε) (before after : Window α ε) (k : Nat) (fault : Fault)
    (calls : List (Call α ε)) : Prop where
  which : fault = .createFailed k ∨ fault = .updateFailed k
  kept : ∃ first last, after.range = .span first last ∧ first ≤ k ∧ k ≤ last ∧
    after.registry.indices = List.range' first (k - first)
  calls : ∃ made call, calls = made ++ [call] ∧
    List.Forall₂
      (Call.Due cb (fun i => cb.update.isSome && (before.registry.element? i).isSome) after.items
        before.registry after.registry) after.registry.indices made ∧
    call.GivesUp cb after.items before.registry k fault

/-- What a request leaves that breaks off. -/
inductive Caught (a : Arithmetic) (cb : Callbacks σ α ε) (s : Scene κ σ α ε) (r : Request α)
    (answer : Answer) (s' : Scene κ σ α ε) (fault : Fault) : Prop where
  /-- The item is stored, the element on display is left half-way, and nothing else has changed. -/
  | inPlace (index : Nat) (item : α) (left : ε) : r = .updateAt index item →
      r.refreshes cb s.window = true → fault = .updateFailed index →
      s'.window = { (s.stored index item).window with
        registry := s.window.registry.modify index fun _ => left } →
      Caught a cb s r answer s' fault
  /-- The pass is cut short, as the record of its calls tells. -/
  | inPass (k : Nat) (calls : List (Call α ε)) : r.refreshes cb s.window = false →
      (s.logged []).perform a cb.recording r = (answer, s'.logged calls) →
      CutShort cb s.window s'.window k fault calls →
      Caught a cb s r answer s' fault

/-- What an update of one item comes to that does not break off: the item is stored, and where it is
in range the surface shows it. -/
structure Stored (cb : Callbacks σ α ε) (view : ε → γ) (f : α → Nat → γ) (s : Scene κ σ α ε)
    (index : Nat) (item : α) (answer : Answer) (s' : Scene κ σ α ε) : Prop where
  answer : answer = .update (.ok (.ok
    (if (Request.updateAt index item).refreshes cb s.window then .updated
      else if s.window.range.contains index then .rerendered else .deferred)))
  items : s'.window.items = s.window.items.setIfInBounds index item
  shown : s'.window.range.contains index = true →
    ∃ x, s'.window.registry.element? index = some x ∧ view x = f item index ∧
      .element index x ∈ s'.window.surface.regions

end Scene

/-- The scenes of all runs in which the faults of the caller's functions are caught. -/
def Attempted [Container κ] (a : Arithmetic) (cb : Callbacks σ α ε) (start : World κ σ → Prop)
    (outside : World κ σ → World κ σ → Prop) (s : Scene κ σ α ε) : Prop :=
  ∃ s₀, Built a cb start s₀ ∧ Relation.ReflTransGen (Scene.Attempt a cb outside) s₀ s

namespace Scene

variable [Container κ] {a : Arithmetic} {cb : Callbacks σ α ε} {s s' : Scene κ σ α ε}
  {r : Request α} {answer : Answer} {fault : Fault}

/-! ## What every request keeps -/

/-- A complete pass leaves a window in which all agrees, whatever was there before. -/
theorem Effect.pass_consistent (h : Effect a cb s r answer s') (hran : answer.ranPass = true)
    (hfits : r.Fits) (hs : s.window.Orderly) : s'.window.Consistent a := by
  obtain ⟨range, p, _, _, hwithin, rfl, hfault, rfl⟩ := h.of_ranPass hran
  refine passed_consistent (s := { s with window := r.staged s.window }) ?_ ?_ hwithin hfault _ _
  · rw [staged_extent]
    exact hs.extent
  · exact staged_bounded hfits hs.bounded

theorem Effect.orderly (h : Effect a cb s r answer s') (hfits : r.Fits) (hs : s.window.Orderly) :
    s'.window.Orderly := by
  rcases hran : answer.ranPass with _ | _
  · cases h with
    | passes _ _ range p hpass _ _ _ _ _ => cases hran.symm.trans hpass
    | waits _ now _ =>
      rw [collectEvents_eq]
      exact ⟨hs.extent, hs.bounded, hs.range, hs.keys⟩
    | updates index item held left u caller _ _ _ _ =>
      refine ⟨hs.extent, ?_, ?_, ?_⟩
      · simpa [Window.place] using hs.bounded
      · simpa [Window.place] using hs.range
      · show (s.window.registry.modify index fun _ => left).indices <+: _
        rw [Registry.indices_modify]
        exact hs.keys
    | defers index item _ _ =>
      refine ⟨hs.extent, ?_, ?_, hs.keys⟩
      · simpa using hs.bounded
      · simpa using hs.range
    | refuses _ _ _ => exact hs
    | scrolls index =>
      rw [scrollToIndex_window]
      exact hs
    | destroys =>
      rw [destroy]
      split
      · exact hs
      · refine ⟨?_, Nat.zero_le _, rfl, List.prefix_rfl⟩
        show s.unsubscribe.window.itemExtent.isExtent = true
        rw [unsubscribe_window]
        exact hs.extent
  · exact (h.pass_consistent hran hfits hs).orderly

/-- A pass that has broken off has made entries for the first indices of its range. -/
theorem Breaks.orderly (h : Breaks a cb s r fault s') (hfits : r.Fits) (hs : s.window.Orderly) :
    s'.window.Orderly := by
  cases h with
  | passes _ range p _ _ _ hwithin hp hfault =>
    subst hp
    refine ⟨?_, staged_bounded hfits hs.bounded, hwithin, ?_⟩
    · show (r.staged s.window).itemExtent.isExtent = true
      rw [staged_extent]
      exact hs.extent
    · obtain ⟨done, k, rest, _, _, hsplit, hmade, hdone, _⟩ := Progress.run_broken_recording cb
        hwithin.lt_of_mem range.nodup_indices _ _ [] hfault
      have hbefore : ∀ i ∈ done, i < (r.staged s.window).items.size := fun i hi =>
        hwithin.lt_of_mem i (hsplit ▸ List.mem_append_left _ hi)
      show List.map Rendered.index (Progress.run cb (r.staged s.window).items range.indices
        (r.staged s.window).registry s.world.caller).made <+: range.indices
      rw [hmade, Progress.run_made_indices hbefore hdone, hsplit]
      exact List.prefix_append _ _
  | updates index item held left u caller _ _ _ _ =>
    refine ⟨hs.extent, ?_, ?_, ?_⟩
    · simpa [stored] using hs.bounded
    · simpa [stored] using hs.range
    · show (s.window.registry.modify index fun _ => left).indices <+: _
      rw [Registry.indices_modify]
      exact hs.keys

theorem perform_cases (a : Arithmetic) (cb : Callbacks σ α ε)
    (hlive : s.window.isDestroyed = false) (hs : s.window.Orderly) (r : Request α)
    (hfits : r.Fits) :
    Effect a cb s r (s.perform a cb r).1 (s.perform a cb r).2 ∨
      ∃ fault, Breaks a cb s r fault (s.perform a cb r).2 := by
  rcases hfault : (s.perform a cb r).1.fault? with _ | fault
  · exact .inl (perform_effect hlive hs.pos hs.bounded r hfits
      (.inr (unbroken_of_faultless hfault)))
  · exact .inr ⟨fault, perform_breaks hlive hs.pos hs.bounded r hfits hfault⟩

theorem Attempt.orderly {outside : World κ σ → World κ σ → Prop} (h : Attempt a cb outside s s')
    (hs : s.window.Orderly) : s'.window.Orderly := by
  cases h with
  | ask r hfits =>
    rcases hlive : s.window.isDestroyed with _ | _
    · rcases perform_cases a cb hlive hs r hfits with heffect | ⟨fault, hbreaks⟩
      · exact heffect.orderly hfits hs
      · exact hbreaks.orderly hfits hs
    · rw [perform_destroyed hlive]
      exact hs
  | outside _ => exact hs

/-! ## What the elements show -/

section

variable {ok : Nat → ε → Prop} {view : ε → γ} {f : α → Nat → γ}

theorem Effect.pass_restores (h : Effect a cb s r answer s') (hran : answer.ranPass = true)
    (hrestore : cb.Restores ok view f) (husable : s.window.Usable ok) :
    ∀ e ∈ s'.window.registry.entries, ∃ item, s'.window.items[e.index]? = some item ∧
      ok e.index e.element ∧ view e.element = f item e.index := by
  obtain ⟨range, p, _, _, hwithin, rfl, hfault, rfl⟩ := h.of_ranPass hran
  exact Progress.run_restores hrestore hwithin.lt_of_mem (husable.staged r) hfault

theorem Effect.usable (h : Effect a cb s r answer s') (hrestore : cb.Restores ok view f)
    (husable : s.window.Usable ok) : s'.window.Usable ok := by
  rcases hran : answer.ranPass with _ | _
  · cases h with
    | passes _ _ range p hpass _ _ _ _ _ => cases hran.symm.trans hpass
    | waits _ now _ =>
      rw [collectEvents_eq]
      exact husable
    | updates index item held left u caller _ hheld hu hcall =>
      have hleft := (hrestore.update u hu s.world.caller held item index
        (husable.held hheld)).1
      rw [hcall] at hleft
      exact husable.modify hleft
    | defers index item _ _ => exact husable
    | refuses _ _ _ => exact husable
    | scrolls index =>
      rw [scrollToIndex_window]
      exact husable
    | destroys =>
      rw [destroy]
      split
      · exact husable
      · intro e he
        cases he
  · intro e he
    obtain ⟨_, _, hok, _⟩ := h.pass_restores hran hrestore husable e he
    exact hok

/-- What a broken pass has made it has made without a fault, and an update that gives up leaves an
element that may be updated again. -/
theorem Breaks.usable (h : Breaks a cb s r fault s') (hrestore : cb.Restores ok view f)
    (husable : s.window.Usable ok) : s'.window.Usable ok := by
  cases h with
  | passes _ range p _ _ _ hwithin hp hfault =>
    subst hp
    obtain ⟨done, k, rest, _, _, hsplit, hmade, hdone, _⟩ := Progress.run_broken_recording cb
      hwithin.lt_of_mem range.nodup_indices _ _ [] hfault
    have hbefore : ∀ i ∈ done, i < (r.staged s.window).items.size := fun i hi =>
      hwithin.lt_of_mem i (hsplit ▸ List.mem_append_left _ hi)
    intro e he
    have he' : e ∈ (Progress.run cb (r.staged s.window).items range.indices
      (r.staged s.window).registry s.world.caller).made := he
    rw [hmade] at he'
    obtain ⟨_, _, hok, _⟩ :=
      Progress.run_restores hrestore hbefore (husable.staged r) hdone e he'
    exact hok
  | updates index item held left u caller _ hheld hu hcall =>
    have hleft := (hrestore.update u hu s.world.caller held item index
      (husable.held hheld)).1
    rw [hcall] at hleft
    exact husable.modify hleft

theorem Attempt.usable {outside : World κ σ → World κ σ → Prop} (h : Attempt a cb outside s s')
    (hrestore : cb.Restores ok view f) (hs : s.window.Orderly) (husable : s.window.Usable ok) :
    s'.window.Usable ok := by
  cases h with
  | ask r hfits =>
    rcases hlive : s.window.isDestroyed with _ | _
    · rcases perform_cases a cb hlive hs r hfits with heffect | ⟨fault, hbreaks⟩
      · exact heffect.usable hrestore husable
      · exact hbreaks.usable hrestore husable
    · rw [perform_destroyed hlive]
      exact husable
  | outside _ => exact husable

theorem Effect.restored (h : Effect a cb s r answer s') (hran : answer.ranPass = true)
    (hfits : r.Fits) (hs : s.window.Orderly) (hrestore : cb.Restores ok view f)
    (husable : s.window.Usable ok) : s'.window.Restored a view f := by
  have hconsistent := h.pass_consistent hran hfits hs
  refine ⟨hconsistent, ?_, hconsistent.drawn.trans hconsistent.regions_eq⟩
  intro e he
  obtain ⟨item, hitem, _, hview⟩ := h.pass_restores hran hrestore husable e he
  exact ⟨item, hitem, hview⟩

end

/-! ## A pass that has broken off -/

theorem Breaks.of_passes (h : Breaks a cb s r fault s')
    (hpasses : r.refreshes cb s.window = false) :
    ∃ range p,
      range.Within (r.staged s.window).items.size ∧
      p = Progress.run cb (r.staged s.window).items range.indices (r.staged s.window).registry
        s.world.caller ∧
      p.fault = some fault ∧
      s' = broken range p
        { s with window := { r.staged s.window with throttle := r.released s } } := by
  cases h with
  | passes _ range p _ _ _ hwithin hp hfault => exact ⟨range, p, hwithin, hp, hfault, rfl⟩
  | updates index item held left u caller _ hheld hu _ =>
    simp [Request.refreshes, hheld, hu] at hpasses

/-- With a record a pass that breaks off is the same, and the record has the calls of a pass cut
short. -/
theorem pass_cutShort (hs : s.window.Orderly) (hlive : s.window.isDestroyed = false)
    (hfits : r.Fits) (hfault : (s.perform a cb r).1.fault? = some fault)
    (hpasses : r.refreshes cb s.window = false) :
    ∃ k calls, (s.logged []).perform a cb.recording r =
        ((s.perform a cb r).1, (s.perform a cb r).2.logged calls) ∧
      CutShort cb s.window (s.perform a cb r).2.window k fault calls := by
  obtain ⟨calls, hlogged⟩ := perform_logged a cb r s []
  rw [List.nil_append] at hlogged
  have hfault' : ((s.logged []).perform a cb.recording r).1.fault? = some fault := by
    rw [hlogged]
    exact hfault
  -- the same pass with the record, so that its calls can be compared with those recorded
  have hbreaks := perform_breaks (s := s.logged []) hlive hs.pos hs.bounded r hfits hfault'
  rw [hlogged] at hbreaks
  obtain ⟨range, p, hwithin, hp, hpfault, hscene⟩ :=
    hbreaks.of_passes ((refreshes_recording cb s.window r).trans hpasses)
  generalize (s.perform a cb r).2 = s' at hlogged hscene ⊢
  have hin : ∀ i ∈ range.indices, i < (r.staged s.window).items.size := hwithin.lt_of_mem
  obtain ⟨_, hrun, _⟩ := Progress.run_recording cb hin range.nodup_indices
    (r.staged s.window).registry s.world.caller []
  have hplain : (Progress.run cb (r.staged s.window).items range.indices
      (r.staged s.window).registry s.world.caller).fault = some fault := by
    rw [hp] at hpfault
    exact (congrArg Progress.fault hrun).symm.trans hpfault
  obtain ⟨done, k, rest, made, call, hsplit, hmade, hdone, hrun, hdue, hgives⟩ :=
    Progress.run_broken_recording cb hin range.nodup_indices (r.staged s.window).registry
      s.world.caller [] hplain
  have hp' : p = _ := hp.trans hrun
  subst hp'
  have hcaller : (s'.world.caller, calls) =
      ((Progress.run cb (r.staged s.window).items range.indices (r.staged s.window).registry
        s.world.caller).caller, [] ++ (made ++ [call])) :=
    congrArg (fun t => t.world.caller) hscene
  have hregistry : s'.window.registry = { entries := _ } :=
    congrArg (fun t => t.window.registry) hscene
  have hrange : s'.window.range = range := congrArg (fun t => t.window.range) hscene
  have hitems : s'.window.items = (r.staged s.window).items :=
    congrArg (fun t => t.window.items) hscene
  have hcalls : calls = made ++ [call] := (Prod.mk.inj hcaller).2
  have hbefore : ∀ i ∈ done, i < (r.staged s.window).items.size := fun i hi =>
    hin i (hsplit ▸ List.mem_append_left _ hi)
  have hindices : s'.window.registry.indices = done := by
    rw [hregistry]
    show List.map Rendered.index _ = done
    rw [hmade, Progress.run_made_indices hbefore hdone]
  obtain ⟨first, last, hspan, hfirst, hlast, hrange'⟩ := IndexRange.indices_before hsplit
  have hk : k < (r.staged s.window).items.size :=
    hin k (hsplit ▸ List.mem_append_right _ List.mem_cons_self)
  refine ⟨k, calls, hlogged, hgives.fault, ?_, made, call, hcalls, ?_, ?_⟩
  · exact ⟨first, last, hrange.trans hspan, hfirst, hlast, hindices.trans hrange'⟩
  · rw [hindices, hitems, hregistry]
    apply Call.due_congr hdue
    intro i hi
    have hsame := staged_element? (r := r) (w := s.window) (hbefore i hi)
    refine ⟨?_, hsame.symm, rfl⟩
    rw [hsame]
  · rw [hitems]
    have hsame := staged_element? (r := r) (w := s.window) hk
    cases hgives with
    | create hitem hnone hcall => exact .create hitem (hsame ▸ hnone) hcall
    | update hitem hu hheld hcall => exact .update hitem hu (hsame ▸ hheld) hcall

/-- A request that breaks off has stored an item and left its element half-way, or has cut a pass
short. -/
theorem perform_caught (hs : s.window.Orderly) (hlive : s.window.isDestroyed = false)
    (hfits : r.Fits) (hfault : (s.perform a cb r).1.fault? = some fault) :
    s.Caught a cb r (s.perform a cb r).1 (s.perform a cb r).2 fault := by
  rcases hrefresh : r.refreshes cb s.window with _ | _
  · obtain ⟨k, calls, hlogged, hcut⟩ := pass_cutShort hs hlive hfits hfault hrefresh
    exact .inPass k calls hrefresh hlogged hcut
  · have hbreaks := perform_breaks hlive hs.pos hs.bounded r hfits hfault
    generalize (s.perform a cb r).2 = s' at hbreaks ⊢
    cases hbreaks with
    | passes _ _ _ _ hpasses _ _ _ _ => cases hrefresh.symm.trans hpasses
    | updates index item held left u caller _ _ _ _ =>
      exact .inPlace index item left rfl hrefresh rfl rfl

/-! ## One item stored -/

theorem updateAt_answer (hlive : s.window.isDestroyed = false) {index : Nat}
    (hindex : index < s.window.items.size) {item : α}
    (hquiet : (s.perform a cb (.updateAt index item)).1.fault? = none) :
    (s.perform a cb (.updateAt index item)).1 = .update (.ok (.ok
      (if (Request.updateAt index item).refreshes cb s.window then .updated
        else if s.window.range.contains index then .rerendered else .deferred))) := by
  rcases hrefresh : (Request.updateAt index item).refreshes cb s.window with _ | _
  · have hstore := updateAt_store a hlive hindex item hrefresh
    by_cases hin : s.window.range.contains index = true
    · rw [if_pos hin] at hstore
      rw [perform, hstore] at hquiet ⊢
      rcases hpass : ((s.stored index item).render a cb).1 with fault | stats
      · rw [hpass] at hquiet
        cases hquiet
      · simp [hin, Except.map]
    · rw [if_neg hin] at hstore
      rw [perform, hstore]
      simp [hin]
  · obtain ⟨held, u, hheld, hu⟩ := refreshes_spec hrefresh
    have hupdate := updateAt_refresh a hlive hindex item hheld hu
    rcases hcall : u s.world.caller held item index with ⟨caller, left, done⟩
    rw [hcall] at hupdate
    rw [perform, hupdate] at hquiet ⊢
    cases done with
    | false => cases hquiet
    | true => rfl

/-- An item that is stored stands on the surface where it is in range. -/
theorem Effect.stored_shown {ok : Nat → ε → Prop} {view : ε → γ} {f : α → Nat → γ} {index : Nat}
    {item : α} (h : Effect a cb s (.updateAt index item) answer s') (hs : s.window.Orderly)
    (hrestore : cb.Restores ok view f) (husable : s.window.Usable ok)
    (hindex : index < s.window.items.size) :
    s'.window.items = s.window.items.setIfInBounds index item ∧
      (s'.window.range.contains index = true → ∃ x, s'.window.registry.element? index = some x ∧
        view x = f item index ∧ .element index x ∈ s'.window.surface.regions) := by
  rcases hran : answer.ranPass with _ | _
  · cases h with
    | passes _ _ range p hpass _ _ _ _ _ => cases hran.symm.trans hpass
    | waits _ now hwhich =>
      rcases hwhich with ⟨h, _⟩ | ⟨h, _⟩ <;> cases h
    | updates _ _ held left u caller _ hheld hu hcall =>
      have hleft : (s.window.registry.modify index fun _ => left).element? index = some left := by
        rw [Registry.element?_modify_self, hheld]
        rfl
      refine ⟨rfl, fun hin => ⟨left, hleft, ?_, ?_⟩⟩
      · have hview := (hrestore.update u hu s.world.caller held item index
          (husable.held hheld)).2
        rw [hcall] at hview
        exact hview rfl
      · exact Window.element_mem_regions (w := { s.window with
          items := s.window.items.setIfInBounds index item
          registry := s.window.registry.modify index fun _ => left }) hin hleft
    | defers _ _ _ hout =>
      refine ⟨rfl, fun hin => ?_⟩
      cases hout.symm.trans hin
    | refuses _ _ hpast => exact absurd hindex (Nat.not_lt.2 hpast)
  · have hrestored := h.restored hran trivial hs hrestore husable
    have hitems : s'.window.items = s.window.items.setIfInBounds index item := by
      obtain ⟨range, p, _, _, _, _, _, rfl⟩ := h.of_ranPass hran
      rfl
    refine ⟨hitems, fun hin => ?_⟩
    obtain ⟨x, hx⟩ := Option.isSome_iff_exists.1
      ((hrestored.consistent.element?_isSome index).trans hin)
    refine ⟨x, hx, ?_, ?_⟩
    · obtain ⟨stored, hstored, hview⟩ := hrestored.fresh _
        (Registry.mem_of_get? (Registry.element?_eq_some.1 hx))
      rw [hitems, Array.getElem?_setIfInBounds_self_of_lt hindex] at hstored
      cases hstored
      exact hview
    · rw [hrestored.consistent.drawn]
      exact Window.element_mem_regions hin hx

end Scene

/-! ## Runs with caught faults -/

namespace Attempted

variable [Container κ] {a : Arithmetic} {cb : Callbacks σ α ε} {start : World κ σ → Prop}
  {outside : World κ σ → World κ σ → Prop} {s : Scene κ σ α ε}

theorem orderly (h : Attempted a cb start outside s) : s.window.Orderly := by
  obtain ⟨s₀, hbuilt, hrun⟩ := h
  induction hrun with
  | refl => exact hbuilt.consistent.orderly
  | tail _ hlast ih => exact hlast.orderly ih

theorem usable (h : Attempted a cb start outside s) {ok : Nat → ε → Prop} {view : ε → γ}
    {f : α → Nat → γ} (hrestore : cb.Restores ok view f) : s.window.Usable ok := by
  obtain ⟨s₀, hbuilt, hrun⟩ := h
  induction hrun with
  | refl =>
    obtain ⟨b, w, surface, e, range, _, _, _, _, _, hwithin, hp, rfl⟩ := hbuilt.passed
    have hnone : ∀ x ∈ (b.subscribed surface e w).window.registry.entries,
        ok x.index x.element := fun _ hx => absurd hx List.not_mem_nil
    intro e he
    obtain ⟨_, _, hok, _⟩ := Progress.run_restores hrestore hwithin.lt_of_mem hnone hp e he
    exact hok
  | tail hbefore hlast ih => exact hlast.usable hrestore (orderly ⟨_, hbuilt, hbefore⟩) ih

/-- A fault that is caught does no lasting harm.

In every run the elements are for indices of the range and the range is within the items. A request
that breaks off in a pass leaves the elements that the pass has made and none from before. Whatever
has happened, the next complete pass leaves nothing amiss, and an item that is stored without a
fault is on display where it is in range. -/
theorem recovers (h : Attempted a cb start outside s) :
    (∀ i, s.window.registry.contains i = true → s.window.range.contains i = true) ∧
    (∀ i, s.window.range.contains i = true → i < s.window.items.size) ∧
    (∀ i e, s.window.registry.get? i = some e → e.index = i) ∧
    ∀ r : Request α, r.Fits → s.window.isDestroyed = false →
      let (answer, s') := s.perform a cb r
      (∀ fault, answer.fault? = some fault → s.Caught a cb r answer s' fault) ∧
      (answer.fault? = none →
        (r.alwaysPasses = true → answer.ranPass = true) ∧
        ∀ (γ : Type) (ok : Nat → ε → Prop) (view : ε → γ) (f : α → Nat → γ),
          cb.Restores ok view f →
          (answer.ranPass = true → s'.window.Restored a view f) ∧
          ∀ index item, r = .updateAt index item →
            if index < s.window.items.size then s.Stored cb view f index item answer s'
            else answer = .update (.ok (.error (.indexOutOfBounds index s.window.items.size))) ∧
              s' = s) := by
  have hs := h.orderly
  refine ⟨?_, fun i hi => hs.range.lt hi, fun i e he => Registry.get?_index he, ?_⟩
  · intro i hi
    obtain ⟨e, he⟩ := Option.isSome_iff_exists.1 hi
    exact hs.contains_of_element? (i := i) (x := e.element) (by rw [Registry.element?, he]; rfl)
  intro r hfits hlive
  refine ⟨fun fault hfault => Scene.perform_caught hs hlive hfits hfault, fun hquiet => ?_⟩
  have heffect := Scene.perform_effect hlive hs.pos hs.bounded r hfits
    (.inr (Scene.unbroken_of_faultless hquiet))
  refine ⟨heffect.alwaysPasses, fun γ ok view f hrestore => ?_⟩
  have husable := h.usable hrestore
  refine ⟨fun hran => heffect.restored hran hfits hs hrestore husable, ?_⟩
  rintro index item rfl
  split
  · rename_i hindex
    obtain ⟨hitems, hshown⟩ := heffect.stored_shown hs hrestore husable hindex
    exact ⟨Scene.updateAt_answer hlive hindex hquiet, hitems, hshown⟩
  · rename_i hpast
    have hrefused : s.perform a cb (.updateAt index item) =
        (.update (.ok (.error (.indexOutOfBounds index s.window.items.size))), s) := by
      rw [Scene.perform, Scene.updateAt_refuse a cb hlive (Nat.le_of_not_lt hpast)]
    exact ⟨congrArg Prod.fst hrefused, congrArg Prod.snd hrefused⟩

end Attempted

/-- Functions that copy every number but zero and give up on zero. -/
def Callbacks.stumbling : Callbacks Unit Nat Nat where
  create := fun _ item _ => ((), if item = 0 then none else some item)
  update := some fun _ held item _ => if item = 0 then ((), held, false) else ((), item, true)

theorem Callbacks.stumbling_restores :
    Callbacks.stumbling.Restores (fun _ _ => True) id fun item _ => item where
  create := by
    intro _ item _ e he
    by_cases hzero : item = 0
    · simp [stumbling, hzero] at he
    · simpa [stumbling, hzero, eq_comm] using he
  update := by
    rintro u ⟨rfl⟩ _ held item _ _
    by_cases hzero : item = 0 <;> simp [hzero]

/-- A window of lines one high onto some numbers, drawn by functions that give up on zero. -/
def Builder.stumbling (items : Array Nat) : Builder Unit Nat Nat :=
  { Builder.copying items with
    create := some Callbacks.stumbling.create
    update := Callbacks.stumbling.update }

theorem Builder.stumbling_parts (items : Array Nat) :
    (Builder.stumbling items).parts = .ok ({}, .stumbling) := by
  have hvalid : Config.validate { itemExtent := 1, overscan := 0 } = .ok () := by decide +kernel
  rw [parts, show (stumbling items).config.validate = .ok () from hvalid]
  rfl

/-- A pass that gives up on the second of two numbers leaves the element of the first, and the next
one shows two other numbers. -/
theorem recovers_stumbling :
    ∃ s₀ s : Scene ScrollArea Unit Nat Nat, Built .exact .stumbling anywhere s₀ ∧
      (s₀.perform .exact .stumbling (.setItems 0 #[7, 0])).1.fault? = some (.updateFailed 1) ∧
      (s₀.perform .exact .stumbling (.setItems 0 #[7, 0])).2 = s ∧
      Attempted .exact .stumbling anywhere anything s ∧
      s.window.range = .span 0 1 ∧ s.window.registry.indices = [0] ∧
      (s.perform .exact .stumbling (.setItems 0 #[7, 8])).2.window.Restored .exact id
        fun item _ => item := by
  have hrun : (match (Builder.stumbling #[4, 5, 6]).build .exact
      { container := ({ extent := 2 } : ScrollArea), channels := #[], caller := () } with
    | (.ok (.ok window), world) =>
      let s₀ : Scene ScrollArea Unit Nat Nat := ⟨window, world⟩
      let (answer, s) := s₀.perform .exact .stumbling (.setItems 0 #[7, 0])
      decide (answer.fault? = some (.updateFailed 1) ∧ s.window.range = .span 0 1 ∧
        s.window.registry.indices = [0] ∧ s.window.isDestroyed = false ∧
        (s.perform .exact .stumbling (.setItems 0 #[7, 8])).1.fault? = none)
    | (.ok (.error _), _) | (.error _, _) => false) = true := by decide +kernel
  split at hrun
  · rename_i window world hbuild
    obtain ⟨hfault, hrange, hindices, hlive, hquiet⟩ := of_decide_eq_true hrun
    have hbuilt : Built .exact .stumbling anywhere (⟨window, world⟩ : Scene ScrollArea _ _ _) :=
      ⟨_, _, trivial, by decide, ⟨_, Builder.stumbling_parts _⟩, hbuild⟩
    have hfits (x y : Nat) : (Request.setItems 0 #[x, y]).Fits := by
      show 2 ≤ maxIndex
      decide
    have hattempted : Attempted .exact .stumbling anywhere anything
        ((⟨window, world⟩ : Scene ScrollArea _ _ _).perform .exact .stumbling
          (.setItems 0 #[7, 0])).2 :=
      ⟨_, hbuilt, .single (.ask _ (hfits 7 0))⟩
    obtain ⟨_, _, _, hnext⟩ := hattempted.recovers
    obtain ⟨hpasses, hrestored⟩ := (hnext (.setItems 0 #[7, 8]) (hfits 7 8) hlive).2 hquiet
    exact ⟨_, _, hbuilt, hfault, rfl, hattempted, hrange, hindices,
      (hrestored Nat _ id _ Callbacks.stumbling_restores).1 (hpasses rfl)⟩
  · cases hrun
  · cases hrun

end ListWindow
