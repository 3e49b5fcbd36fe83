import ListWindow.Proofs.Invariant
import ListWindow.Proofs.Simulation

/-!
Recycling over whole runs. `Scene.logged` puts a record of the calls beside the caller's state, and
`Scene.perform_logged` says that a request does the same with the record as without it. So the
calls of a pass can be read off: `Scene.pass_recycled` lists them, and `Reachable.recycles` puts
them together with the statistics of the pass and with the identity of the elements that stay.
-/
namespace ListWindow

variable {κ σ α ε ι : Type}

namespace Scene

/-! ## A record of the calls changes nothing else -/

def logged (log : List (Call α ε)) (s : Scene κ σ α ε) : Scene κ (σ × List (Call α ε)) α ε :=
  { window := s.window
    world :=
      { container := s.world.container
        channels := s.world.channels
        caller := (s.world.caller, log) } }

end Scene

theorem reconcile_recording (cb : Callbacks σ α ε) (items : Array α) (range : IndexRange)
    (registry : Registry ε) (caller : σ) (log : List (Call α ε)) :
    ∃ calls, reconcile cb.recording items range registry (caller, log) =
      (let pass := reconcile cb items range registry caller
       ⟨pass.outcome, pass.registry, (pass.caller, log ++ calls)⟩) := by
  -- the pass is the same up to the visits, and those may be over any distinct indices
  have hin : ∀ i ∈ range.indicesBelow items.size, i < items.size :=
    fun i hi => (IndexRange.mem_indicesBelow.1 hi).2
  have hnd : (range.indicesBelow items.size).Nodup := by
    cases range with
    | empty => simp [IndexRange.indicesBelow]
    | span first last => exact List.nodup_range'
  obtain ⟨calls, hrun, _⟩ := Progress.run_recording cb hin hnd registry caller log
  unfold reconcile
  rcases range.size with _ | _
  · exact ⟨[], by simp⟩
  · rcases range.limits with _ | _
    · exact ⟨[], by simp⟩
    · refine ⟨calls, ?_⟩
      simp only [hrun]

theorem Callbacks.recording_simulation [Container κ] (cb : Callbacks σ α ε)
    (log : List (Call α ε)) :
    Simulation cb cb.recording fun (w : World κ σ) w' => ∃ calls, w' =
      { container := w.container, channels := w.channels, caller := (w.caller, log ++ calls) } where
  channels := by
    rintro w _ ⟨calls, rfl⟩
    rfl
  geometry := by
    rintro w _ ⟨calls, rfl⟩
    rfl
  offset := by
    rintro w _ ⟨calls, rfl⟩
    rfl
  drain := by
    rintro w _ ⟨calls, rfl⟩ cs
    exact ⟨calls, rfl⟩
  scroll := by
    rintro w _ ⟨calls, rfl⟩ a offset
    exact ⟨calls, rfl⟩
  content := by
    rintro w _ ⟨calls, rfl⟩ a extent
    exact ⟨calls, rfl⟩
  unsubscribe := by
    rintro w _ ⟨calls, rfl⟩ handle
    exact ⟨calls, rfl⟩
  reconcile := by
    rintro w _ ⟨calls, rfl⟩ items range registry
    obtain ⟨more, hpass⟩ := reconcile_recording cb items range registry w.caller (log ++ calls)
    dsimp only
    rw [hpass]
    exact ⟨rfl, rfl, calls ++ more, by rw [List.append_assoc]⟩
  updates := Option.isSome_map
  update := by
    rintro w _ ⟨calls, rfl⟩ u u' hu hu' e item i
    rw [recording, hu] at hu'
    obtain rfl := Option.some.inj hu'
    exact ⟨rfl, calls ++ [_], by rw [← List.append_assoc]⟩

namespace Scene

variable [Container κ] {a : Arithmetic} {cb : Callbacks σ α ε} {s : Scene κ σ α ε}
  {log : List (Call α ε)}

/-- With a record of the calls a request gives the same answer and leaves the same scene. -/
theorem perform_logged (a : Arithmetic) (cb : Callbacks σ α ε) (r : Request α)
    (s : Scene κ σ α ε) (log : List (Call α ε)) :
    ∃ calls, (s.logged log).perform a cb.recording r =
      ((s.perform a cb r).1, (s.perform a cb r).2.logged (log ++ calls)) := by
  obtain ⟨hanswer, hwindow, calls, hworld⟩ := perform_alike a (cb.recording_simulation log)
    (s := s) (t := s.logged log) ⟨rfl, [], by rw [List.append_nil]; rfl⟩ r
  refine ⟨calls, Prod.ext hanswer ?_⟩
  generalize ((s.logged log).perform a cb.recording r).2 = t at hwindow hworld
  obtain ⟨window, world⟩ := t
  obtain rfl : window = (s.perform a cb r).2.window := hwindow
  obtain rfl := hworld
  rfl

@[simp] theorem refreshes_recording (cb : Callbacks σ α ε) (w : Window α ε) (r : Request α) :
    r.refreshes cb.recording w = r.refreshes cb w := by
  cases r with
  | updateAt index item =>
    rw [Request.refreshes, Request.refreshes, Callbacks.recording, Option.isSome_map]
  | _ => rfl

/-! ## The calls of a pass -/

theorem staged_element? {r : Request α} {w : Window α ε} {i : Nat}
    (hi : i < (r.staged w).items.size) :
    (r.staged w).registry.element? i = w.registry.element? i := by
  cases r with
  | setItems now items => exact Registry.element?_truncate_of_lt hi
  | _ => rfl

/-- What a pass drops and what was cut off before it are together the indices that leave the
range. -/
theorem dropped_count {r : Request α} {w : Window α ε} {range : IndexRange}
    (hwithin : range.Within (r.staged w).items.size) :
    ((r.staged w).registry.indices.filter fun i => !range.indices.contains i).length + r.cut w =
      (w.registry.indices.filter fun i => !range.contains i).length := by
  have hcontains : ∀ i, range.indices.contains i = range.contains i := by
    intro i
    rw [Bool.eq_iff_iff, List.contains_iff_mem, IndexRange.mem_indices]
  simp only [hcontains]
  cases r with
  | setItems now items =>
    show ((w.registry.truncate items.size).1.indices.filter fun i => !range.contains i).length
      + (w.registry.truncate items.size).2 = _
    rw [Registry.indices_truncate, Registry.truncate_count]
    have hsplit := (w.registry.indices.filter fun i =>
      !range.contains i).length_eq_length_filter_add (decide <| · < items.size)
    -- the indices cut off lie past the new items, so the range has none of them
    have hcut : ((w.registry.indices.filter fun i => !range.contains i).filter
        fun i => !decide (i < items.size)) =
        w.registry.indices.filter fun i => !decide (i < items.size) := by
      rw [List.filter_filter]
      apply List.filter_congr
      intro i _
      rcases hi : range.contains i with _ | _
      · simp
      · have hlt : i < items.size := hwithin.lt hi
        simp [hlt]
    have hrest : ((w.registry.indices.filter fun i => !range.contains i).filter
        (decide <| · < items.size)) =
        (w.registry.indices.filter (decide <| · < items.size)).filter
          fun i => !range.contains i := by
      rw [List.filter_filter, List.filter_filter]
      apply List.filter_congr
      intro i _
      rw [Bool.and_comm]
    rw [hcut, hrest] at hsplit
    exact hsplit.symm
  | _ => rfl

/-- The calls and the statistics of a complete pass. -/
structure Recycled (cb : Callbacks σ α ε) (before after : Window α ε) (calls : List (Call α ε)) :
    Prop where
  /-- One call for every index of the range, in ascending order: an update of the element held
  where there is an update function and the index was in range before, a creation elsewhere. -/
  due : List.Forall₂
    (Call.Due cb (fun i => cb.update.isSome && before.range.contains i) after.items before.registry
      after.registry) after.range.indices calls
  range : after.stats.range = after.range
  created : after.stats.created = calls.countP Call.isCreate
  reused : after.stats.reused = calls.countP (!Call.isCreate ·)
  rendered : after.stats.rendered = after.registry.size
  dropped : after.stats.dropped =
    (before.range.indices.filter fun i => !after.range.contains i).length

/-- With a record a pass is the same pass, and the record has the calls that are due. -/
theorem pass_recycled (hs : s.window.Consistent a) (hlive : s.window.isDestroyed = false)
    {r : Request α} (hfits : r.Fits) (hok : s.Unbroken a cb r)
    (hran : (s.perform a cb r).1.ranPass = true) :
    (∀ st, (s.perform a cb r).1.stats? = some st → st = (s.perform a cb r).2.window.stats) ∧
    ∃ calls, (s.logged []).perform a cb.recording r =
        ((s.perform a cb r).1, (s.perform a cb r).2.logged calls) ∧
      Recycled cb s.window (s.perform a cb r).2.window calls := by
  obtain ⟨calls, hlogged⟩ := perform_logged a cb r s []
  rw [List.nil_append] at hlogged
  have hok' : (s.logged []).Unbroken a cb.recording r := by
    intro fault hfault
    rw [hlogged] at hfault
    exact hok fault hfault
  -- the same pass with the record, so that its calls can be compared with those recorded
  have heffect := perform_effect (s := s.logged []) hlive hs.pos hs.bounded r hfits (.inr hok')
  rw [hlogged] at heffect
  obtain ⟨range, p, hstats, _, hwithin, hp, hfault, hscene⟩ := heffect.of_ranPass hran
  generalize (s.perform a cb r).2 = s' at hlogged hstats hscene ⊢
  refine ⟨hstats, calls, hlogged, ?_⟩
  have hin : ∀ i ∈ range.indices, i < (r.staged s.window).items.size := hwithin.lt_of_mem
  obtain ⟨calls', hrun, hdue⟩ := Progress.run_recording cb hin range.nodup_indices
    (r.staged s.window).registry s.world.caller []
  have hp' : p = _ := hp.trans hrun
  dsimp only at hp'
  have hcaller : (s'.world.caller, calls) = p.caller := congrArg (fun t => t.world.caller) hscene
  have hregistry : s'.window.registry = { entries := p.made } :=
    congrArg (fun t => t.window.registry) hscene
  have hrange : s'.window.range = range := congrArg (fun t => t.window.range) hscene
  have hitems : s'.window.items = (r.staged s.window).items :=
    congrArg (fun t => t.window.items) hscene
  have hst : s'.window.stats = ⟨range, p.created, p.reused, p.left.size + r.cut s.window⟩ :=
    congrArg (fun t => t.window.stats) hscene
  subst hp'
  obtain ⟨hforall, hcreated, hreused⟩ := hdue hfault
  have hcalls : calls = calls' := by
    rw [List.nil_append] at hcaller
    exact (Prod.mk.inj hcaller).2
  subst hcalls
  refine ⟨?_, ?_, ?_, ?_, ?_, ?_⟩
  · rw [hrange, hitems, hregistry]
    apply Call.due_congr hforall
    intro i hi
    have hsame := staged_element? (r := r) (hin i hi)
    refine ⟨?_, hsame.symm, rfl⟩
    rw [hsame, hs.element?_isSome]
  · rw [hst, hrange]
  · rw [hst]
    exact hcreated
  · rw [hst]
    exact hreused
  · have hmade := congrArg List.length (Progress.run_made_indices hin hfault)
    rw [List.length_map] at hmade
    rw [hst, hregistry]
    exact (Progress.run_rendered hin hfault).trans hmade.symm
  · have hleft := Progress.run_left_indices hin hfault
    have hdropped := dropped_count (r := r) (w := s.window) hwithin
    rw [← hleft, ← Registry.size_eq_length_indices, hs.keys] at hdropped
    rw [hst, hrange]
    exact hdropped

/-! ## What stays in range keeps its element -/

/-- A step keeps what tells apart the element of an index that is in range before and after it. -/
theorem step_keeps {outside : World κ σ → World κ σ → Prop} {ran : Bool} {t : Scene κ σ α ε}
    (hstep : Step a cb outside ran s t) (hs : s.window.Consistent a) {ident : ε → ι}
    (hkeeps : cb.Keeps ident) (hupdate : cb.update.isSome = true) {i : Nat}
    (hbefore : s.window.range.contains i = true) (hafter : t.window.range.contains i = true) :
    (t.window.registry.element? i).map ident = (s.window.registry.element? i).map ident := by
  cases hstep with
  | outside _ => rfl
  | ask r hfits hok =>
    rcases hlive : s.window.isDestroyed with _ | _
    · have heffect := perform_effect hlive hs.pos hs.bounded r hfits (.inr hok)
      rcases hran : (s.perform a cb r).1.ranPass with _ | _
      · generalize (s.perform a cb r).1 = answer at heffect hran
        generalize (s.perform a cb r).2 = t at heffect hafter
        cases heffect with
        | passes _ _ _ _ h => cases h.symm.trans hran
        | waits _ now _ => rw [collectEvents_eq]
        | updates index item held left u caller _ hheld hu hcall =>
          show ((s.window.registry.modify index fun _ => left).element? i).map ident = _
          by_cases hi : i = index
          · have hkept := hkeeps u hu s.world.caller held item index
            rw [hcall] at hkept
            rw [hi, Registry.element?_modify_self, hheld]
            exact congrArg some hkept
          · rw [Registry.element?_modify_of_ne _ hi]
        | defers _ _ _ _ => rfl
        | refuses _ _ _ => rfl
        | scrolls index => rw [scrollToIndex_window]
        | destroys =>
          rw [destroy, hlive] at hafter
          cases hafter
      · obtain ⟨_, calls, _, hrecycled⟩ := pass_recycled hs hlive hfits hok hran
        obtain ⟨call, _, hcall⟩ := Call.due_of_mem hrecycled.due (IndexRange.mem_indices.2 hafter)
        cases hcall with
        | create _ hnew _ _ => simp [hupdate, hbefore] at hnew
        | @update item old new u c _ _ hu hheld hleft hmade =>
          have hkept := hkeeps u hu c old item i
          rw [hleft] at hkept
          rw [hheld, hmade]
          exact congrArg some hkept
    · rw [perform_destroyed hlive]

end Scene

section

variable [Container κ] {a : Arithmetic} {cb : Callbacks σ α ε} {start : World κ σ → Prop}
  {outside : World κ σ → World κ σ → Prop} {s : Scene κ σ α ε}

/-- Recycling in every run. No request of a live window breaks off; a direct pass and one over new
items are run in any case. A pass makes the calls that are due and no others, and its statistics
count them: see `Scene.Recycled`. With an update function the element of an index that stays in
range over any number of steps remains the same one. -/
theorem Reachable.recycles (h : Reachable a cb start outside s) :
    (∀ r, r.Fits → s.Unbroken a cb r → s.window.isDestroyed = false →
      (s.perform a cb r).1.fault? = none ∧
      (r.alwaysPasses = true → (s.perform a cb r).1.ranPass = true) ∧
      ((s.perform a cb r).1.ranPass = true →
        (∀ st, (s.perform a cb r).1.stats? = some st → st = (s.perform a cb r).2.window.stats) ∧
        ∃ calls, (s.logged []).perform a cb.recording r =
            ((s.perform a cb r).1, (s.perform a cb r).2.logged calls) ∧
          Scene.Recycled cb s.window (s.perform a cb r).2.window calls)) ∧
    (∀ (ι : Type) (ident : ε → ι), cb.Keeps ident → cb.update.isSome = true →
      ∀ (i : Nat) (t : Scene κ σ α ε), s.window.range.contains i = true →
        Relation.ReflTransGen (fun x y => (∃ ran, Scene.Step a cb outside ran x y) ∧
          y.window.range.contains i = true) s t →
        ∃ old new, s.window.registry.element? i = some old ∧
          t.window.registry.element? i = some new ∧ ident new = ident old) := by
  constructor
  · intro r hfits hok hlive
    have hs := h.consistent
    have heffect := Scene.perform_effect hlive hs.pos hs.bounded r hfits (.inr hok)
    refine ⟨heffect.faultless, heffect.alwaysPasses, fun hran => ?_⟩
    exact Scene.pass_recycled hs hlive hfits hok hran
  intro ι ident hkeeps hupdate i t hin hrun
  obtain ⟨old, hold⟩ : ∃ old, s.window.registry.element? i = some old :=
    Option.isSome_iff_exists.1 (by rw [h.consistent.element?_isSome]; exact hin)
  -- along the run: the scene is reachable, and the index in range with the same element
  have hkept : Reachable a cb start outside t ∧ t.window.range.contains i = true ∧
      (t.window.registry.element? i).map ident = some (ident old) := by
    induction hrun with
    | refl => exact ⟨h, hin, by rw [hold]; rfl⟩
    | tail _ hlast ih =>
      obtain ⟨⟨ran, hstep⟩, hafter⟩ := hlast
      obtain ⟨hreach, hbefore, hsame⟩ := ih
      refine ⟨hreach.step hstep, hafter, ?_⟩
      rw [Scene.step_keeps hstep hreach.consistent hkeeps hupdate hbefore hafter, hsame]
  obtain ⟨new, hnew, hident⟩ := Option.map_eq_some_iff.1 hkept.2.2
  exact ⟨old, new, hold, hnew, hident⟩

end

/-- Putting two numbers in place of three is a pass that makes the calls due. -/
theorem recycles_copying :
    ∃ s : Scene ScrollArea Unit Nat Nat, Built .binary64 .copying anywhere s ∧
      ∃ calls, Scene.Recycled .copying s.window
        (s.perform .binary64 .copying (.setItems 0 #[7, 8])).2.window calls := by
  obtain ⟨s, hs⟩ := built_copying
  have hfits : (Request.setItems 0 #[7, 8]).Fits := by
    show 2 ≤ maxIndex
    decide
  have hok := hs.copying_unbroken hfits
  have hreach : Reachable .binary64 .copying anywhere anything s := ⟨s, hs, .refl⟩
  obtain ⟨_, hpasses, hpass⟩ := hreach.recycles.1 _ hfits hok hs.live
  obtain ⟨_, calls, _, hrecycled⟩ := hpass (hpasses rfl)
  exact ⟨s, hs, calls, hrecycled⟩

end ListWindow
