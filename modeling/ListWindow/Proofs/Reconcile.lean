import ListWindow.Proofs.Range
import ListWindow.Proofs.Registry
import ListWindow.Reconcile

/-!
What a reconciling pass does, index by index.

`visit` is the one step of a pass: it updates the element held for an index or makes a new one, and
`Progress.run_cons` says that a pass is a visit followed by a pass over the rest. From this follow,
for a pass without a fault over indices of the items (`Progress.run_induction`):
  - `Progress.run_made_indices`, `run_left_indices`, `run_rendered`: it makes one entry for every
    index and takes each from the entries before;
  - `Progress.run_shows`, `run_restores`: its entries show the present items;
  - `Progress.run_recording`: it calls one of the caller's functions once for every index, in order,
    and the record of the calls changes nothing else.
A pass that breaks off is a faultless one up to the index on which one of the functions gives up
(`Progress.run_broken_recording`).
-/
namespace ListWindow

variable {σ α ε : Type}

/-- A call of one of the caller's functions: what it was given and what it answered. -/
inductive Call (α ε : Type) where
  | create (index : Nat) (item : α) (made : Option ε)
  | update (index : Nat) (item : α) (held left : ε) (done : Bool)

def Call.isCreate : Call α ε → Bool
  | create .. => true
  | update .. => false

namespace Callbacks

def recording (cb : Callbacks σ α ε) : Callbacks (σ × List (Call α ε)) α ε where
  create c item i :=
    let (own, made) := cb.create c.1 item i
    ((own, c.2 ++ [.create i item made]), made)
  update := cb.update.map fun update c element item i =>
    let (own, left, done) := update c.1 element item i
    ((own, c.2 ++ [.update i item element left done]), left, done)

/-- Functions that never give up. -/
structure Total (cb : Callbacks σ α ε) : Prop where
  create : ∀ caller item i, ∃ e, (cb.create caller item i).2 = some e
  update : ∀ u, cb.update = some u → ∀ caller e item i, (u caller e item i).2.2 = true

/-- Whatever they leave on display for an item at an index looks like `f item index`. An update is
only ever given what they left for the same index before. -/
structure Shows {γ : Type} (cb : Callbacks σ α ε) (view : ε → γ) (f : α → Nat → γ) : Prop where
  create : ∀ caller item i e, (cb.create caller item i).2 = some e → view e = f item i
  update : ∀ u, cb.update = some u → ∀ caller e old item i, view e = f old i →
    (u caller e item i).2.2 = true → view (u caller e item i).2.1 = f item i

/-- Whatever they leave on display for an item at an index looks like `f item index`, unless they
give up on it. An update may be given any element that is `ok` for its index, and `ok` is all that
they ever leave there, also where an update gives up half-way. -/
structure Restores {γ : Type} (cb : Callbacks σ α ε) (ok : Nat → ε → Prop) (view : ε → γ)
    (f : α → Nat → γ) : Prop where
  create : ∀ caller item i e, (cb.create caller item i).2 = some e → ok i e ∧ view e = f item i
  update : ∀ u, cb.update = some u → ∀ caller e item i, ok i e →
    ok i (u caller e item i).2.1 ∧
      ((u caller e item i).2.2 = true → view (u caller e item i).2.1 = f item i)

/-- An update leaves this property of an element as it was, as it does for what tells one element
from another. -/
def Keeps {ι : Type} (cb : Callbacks σ α ε) (ident : ε → ι) : Prop :=
  ∀ u, cb.update = some u → ∀ caller e item i, ident (u caller e item i).2.1 = ident e

end Callbacks

/-! ## One index -/

/-- What a pass does at one index: the caller's state after it, whether the element was there
before, and the element or the fault. -/
structure Visit (σ ε : Type) where
  caller : σ
  reused : Bool
  result : Except Fault ε

/-- Update the element held for an index, or make a new one. -/
def visit (cb : Callbacks σ α ε) (item : α) (i : Nat) (held : Option ε) (caller : σ) : Visit σ ε :=
  match held, cb.update with
  | some e, some update =>
    match update caller e item i with
    | (caller, element, true) => ⟨caller, true, .ok element⟩
    | (caller, _, false) => ⟨caller, true, .error (.updateFailed i)⟩
  | _, _ =>
    match cb.create caller item i with
    | (caller, some element) => ⟨caller, false, .ok element⟩
    | (caller, none) => ⟨caller, false, .error (.createFailed i)⟩

/-- The call that a faultless pass makes for an index, with the entries before and after the pass:
an update of the element held where `kept` says so, and a creation elsewhere. -/
inductive Call.Due (cb : Callbacks σ α ε) (kept : Nat → Bool) (items : Array α)
    (held after : Registry ε) (i : Nat) : Call α ε → Prop where
  | create {item : α} {e : ε} {c : σ} :
      items[i]? = some item → kept i = false → (cb.create c item i).2 = some e →
      after.element? i = some e → Due cb kept items held after i (.create i item (some e))
  | update {item : α} {old new : ε} {u : σ → ε → α → Nat → σ × ε × Bool} {c : σ} :
      items[i]? = some item → kept i = true → cb.update = some u → held.element? i = some old →
      (u c old item i).2 = (new, true) → after.element? i = some new →
      Due cb kept items held after i (.update i item old new true)

/-- The call on which one of the caller's functions gives up, with the entries before the pass. -/
inductive Call.GivesUp (cb : Callbacks σ α ε) (items : Array α) (held : Registry ε) (i : Nat) :
    Fault → Call α ε → Prop where
  | create {item : α} {c : σ} :
      items[i]? = some item → (held.element? i = none ∨ cb.update = none) →
      (cb.create c item i).2 = none →
      GivesUp cb items held i (.createFailed i) (.create i item none)
  | update {item : α} {old left : ε} {u : σ → ε → α → Nat → σ × ε × Bool} {c : σ} :
      items[i]? = some item → cb.update = some u → held.element? i = some old →
      (u c old item i).2 = (left, false) →
      GivesUp cb items held i (.updateFailed i) (.update i item old left false)

theorem Call.GivesUp.fault {cb : Callbacks σ α ε} {items : Array α} {held : Registry ε} {i : Nat}
    {fault : Fault} {call : Call α ε} (h : Call.GivesUp cb items held i fault call) :
    fault = .createFailed i ∨ fault = .updateFailed i := by
  cases h with
  | create _ _ _ => exact .inl rfl
  | update _ _ _ _ => exact .inr rfl

theorem Call.due_congr {cb : Callbacks σ α ε} {kept kept' : Nat → Bool} {items : Array α}
    {held held' after after' : Registry ε} {is : List Nat} {calls : List (Call α ε)}
    (h : List.Forall₂ (Call.Due cb kept items held after) is calls)
    (hsame : ∀ i ∈ is, kept' i = kept i ∧ held'.element? i = held.element? i ∧
      after'.element? i = after.element? i) :
    List.Forall₂ (Call.Due cb kept' items held' after') is calls := by
  induction h with
  | nil => exact .nil
  | @cons i call is calls hcall _ ih =>
    obtain ⟨hk, hb, ha⟩ := hsame i (by simp)
    refine .cons ?_ (ih fun j hj => hsame j (by simp [hj]))
    cases hcall with
    | create hitem hkept hmade hafter =>
      exact .create hitem (hk.trans hkept) hmade (ha.trans hafter)
    | update hitem hkept hu hheld hleft hafter =>
      exact .update hitem (hk.trans hkept) hu (hb.trans hheld) hleft (ha.trans hafter)

theorem Call.due_of_mem {cb : Callbacks σ α ε} {kept : Nat → Bool} {items : Array α}
    {held after : Registry ε} {is : List Nat} {calls : List (Call α ε)}
    (h : List.Forall₂ (Call.Due cb kept items held after) is calls) {i : Nat} (hi : i ∈ is) :
    ∃ call ∈ calls, Call.Due cb kept items held after i call := by
  induction h with
  | nil => cases hi
  | cons hcall _ ih =>
    rcases List.mem_cons.1 hi with rfl | hi
    · exact ⟨_, List.mem_cons_self, hcall⟩
    · obtain ⟨call, hmem, hdue⟩ := ih hi
      exact ⟨call, List.mem_cons_of_mem _ hmem, hdue⟩

theorem visit_eq_create {cb : Callbacks σ α ε} (item : α) (i : Nat) {held : Option ε} (caller : σ)
    (h : held = none ∨ cb.update = none) :
    visit cb item i held caller =
      match cb.create caller item i with
      | (caller, some element) => ⟨caller, false, .ok element⟩
      | (caller, none) => ⟨caller, false, .error (.createFailed i)⟩ := by
  rcases h with rfl | hu
  · rfl
  · unfold visit
    rw [hu]
    cases held <;> rfl

theorem visit_leaves {cb : Callbacks σ α ε} {item : α} {i : Nat} {held : Option ε} {P : ε → Prop}
    (hcreate : ∀ caller e, (cb.create caller item i).2 = some e → P e)
    (hupdate : ∀ u, cb.update = some u → ∀ caller e, held = some e →
      (u caller e item i).2.2 = true → P (u caller e item i).2.1)
    {caller : σ} {e : ε} (he : (visit cb item i held caller).result = .ok e) : P e := by
  unfold visit at he
  split at he
  · rename_i held' u hu
    split at he
    · rename_i c element hv
      cases he
      have := hupdate u hu caller held' rfl (by rw [hv])
      rwa [hv] at this
    · cases he
  · split at he
    · rename_i c element hv
      cases he
      exact hcreate caller e (by rw [hv])
    · cases he

theorem visit_shows {γ : Type} {cb : Callbacks σ α ε} {view : ε → γ} {f : α → Nat → γ}
    (h : cb.Shows view f) {item : α} {i : Nat} {held : Option ε}
    (hheld : ∀ e, held = some e → ∃ old, view e = f old i) {caller : σ} {e : ε}
    (he : (visit cb item i held caller).result = .ok e) : view e = f item i := by
  refine visit_leaves (P := fun e => view e = f item i) (fun c e => h.create c item i e) ?_ he
  intro u hu c e hheld'
  obtain ⟨old, hold⟩ := hheld e hheld'
  exact h.update u hu c e old item i hold

theorem visit_restores {γ : Type} {cb : Callbacks σ α ε} {ok : Nat → ε → Prop} {view : ε → γ}
    {f : α → Nat → γ} (h : cb.Restores ok view f) {item : α} {i : Nat} {held : Option ε}
    (hheld : ∀ e, held = some e → ok i e) {caller : σ} {e : ε}
    (he : (visit cb item i held caller).result = .ok e) : ok i e ∧ view e = f item i := by
  refine visit_leaves (P := fun e => ok i e ∧ view e = f item i)
    (fun c e => h.create c item i e) ?_ he
  intro u hu c e hheld' hdone
  obtain ⟨hok, hview⟩ := h.update u hu c e item i (hheld e hheld')
  exact ⟨hok, hview hdone⟩

theorem visit_total {cb : Callbacks σ α ε} (h : cb.Total) (item : α) (i : Nat) (held : Option ε)
    (caller : σ) : ∃ e, (visit cb item i held caller).result = .ok e := by
  unfold visit
  split
  · rename_i old u hu
    have := h.update u hu caller old item i
    split
    · exact ⟨_, rfl⟩
    · rename_i hv
      rw [hv] at this
      cases this
  · obtain ⟨e, he⟩ := h.create caller item i
    split
    · exact ⟨_, rfl⟩
    · rename_i hv
      rw [hv] at he
      cases he

theorem visit_fault {cb : Callbacks σ α ε} {item : α} {i : Nat} {held : Option ε} {caller : σ}
    {fault : Fault} (h : (visit cb item i held caller).result = .error fault) :
    fault = .createFailed i ∨ fault = .updateFailed i := by
  unfold visit at h
  split at h <;> split at h <;> cases h
  · exact Or.inr rfl
  · exact Or.inl rfl

theorem visit_recording (cb : Callbacks σ α ε) (item : α) (i : Nat) (held : Option ε) (caller : σ)
    (log : List (Call α ε)) :
    ∃ call, visit cb.recording item i held (caller, log) =
        ⟨((visit cb item i held caller).caller, log ++ [call]),
          (visit cb item i held caller).reused, (visit cb item i held caller).result⟩ ∧
      call.isCreate = !(visit cb item i held caller).reused ∧
      (∀ e, (visit cb item i held caller).result = .ok e → ∀ kept items before after,
        items[i]? = some item → kept i = (cb.update.isSome && held.isSome) →
        before.element? i = held → after.element? i = some e →
        call.Due cb kept items before after i) ∧
      ∀ fault, (visit cb item i held caller).result = .error fault → ∀ items before,
        items[i]? = some item → before.element? i = held →
        call.GivesUp cb items before i fault := by
  by_cases hboth : ∃ old u, held = some old ∧ cb.update = some u
  · obtain ⟨old, u, rfl, hu⟩ := hboth
    rcases hv : u caller old item i with ⟨c, new, done⟩
    refine ⟨.update i item old new done, ?_, ?_, ?_, ?_⟩
    · cases done <;> simp [visit, Callbacks.recording, hu, hv]
    · cases done <;> simp [visit, Call.isCreate, hu, hv]
    · cases done with
      | false => simp [visit, hu, hv]
      | true =>
        intro e he kept items before after hitem hkept hbefore hafter
        simp only [visit, hu, hv] at he
        cases he
        exact .update hitem (by simpa [hu] using hkept) hu hbefore (by rw [hv]) hafter
    · cases done with
      | true => simp [visit, hu, hv]
      | false =>
        intro fault hfault items before hitem hbefore
        simp only [visit, hu, hv] at hfault
        cases hfault
        exact .update hitem hu hbefore (by rw [hv])
  · have hnone : held = none ∨ cb.update = none := by
      rcases held with _ | old
      · exact .inl rfl
      · rcases hu : cb.update with _ | u
        · exact .inr rfl
        · exact absurd ⟨old, u, rfl, hu⟩ hboth
    have hnone' : held = none ∨ cb.recording.update = none := hnone.imp_right fun hu => by
      rw [Callbacks.recording, hu]
      rfl
    rw [visit_eq_create item i caller hnone, visit_eq_create item i (caller, log) hnone']
    rcases hv : cb.create caller item i with ⟨c, made⟩
    refine ⟨.create i item made, ?_, ?_, ?_, ?_⟩
    · cases made <;> simp [Callbacks.recording, hv]
    · cases made <;> simp [Call.isCreate]
    · cases made with
      | none => simp
      | some e =>
        intro e' he kept items before after hitem hkept _ hafter
        cases he
        refine .create hitem (hkept.trans ?_) (by rw [hv]) hafter
        rcases hnone with hheld | hu
        · rw [hheld, Option.isSome_none, Bool.and_false]
        · rw [hu, Option.isSome_none, Bool.false_and]
    · cases made with
      | some e => simp
      | none =>
        intro fault hfault items before hitem hbefore
        cases hfault
        exact .create hitem (hnone.imp_left hbefore.trans) (by rw [hv])

/-! ## A pass over a list of indices -/

namespace Progress

variable {cb : Callbacks σ α ε} {items : Array α}

/-- A pass with a faultless visit to one more index before it. -/
def preceded (i : Nat) (e : ε) (reused : Bool) (later : Progress σ ε) : Progress σ ε :=
  { later with
    made := ⟨i, e⟩ :: later.made
    created := later.created + (!reused).toNat
    reused := later.reused + reused.toNat }

theorem run_cons (cb : Callbacks σ α ε) {i : Nat} {item : α} (hi : items[i]? = some item)
    (rest : List Nat) (left : Registry ε) (caller : σ) :
    run cb items (i :: rest) left caller =
      let v := visit cb item i (left.element? i) caller
      match v.result with
      | .error fault =>
        { made := [], left := (left.remove i).1, caller := v.caller, fault := some fault }
      | .ok element =>
        (run cb items rest (left.remove i).1 v.caller).preceded i element v.reused := by
  rw [run, hi]
  have hremove : left.remove i = ((left.remove i).1, left.get? i) := rfl
  rw [hremove]
  rcases hget : left.get? i with _ | e
  · have hheld : left.element? i = none := by rw [Registry.element?, hget]; rfl
    rw [hheld]
    rcases hv : cb.create caller item i with ⟨c, made⟩
    cases made <;> simp [visit, hv, preceded]
  · have hindex := Registry.get?_index hget
    have hheld : left.element? i = some e.element := by rw [Registry.element?, hget]; rfl
    rw [hheld]
    rcases hu : cb.update with _ | u
    · rcases hv : cb.create caller item i with ⟨c, made⟩
      cases made <;> simp [visit, hu, hv, preceded]
    · rcases hv : u caller e.element item i with ⟨c, new, done⟩
      cases done <;> simp [visit, hu, hv, hindex, preceded]

/-- What a faultless pass over a first index and others consists of. -/
theorem run_cons_faultless {i : Nat} {item : α} (hi : items[i]? = some item) {rest : List Nat}
    {left : Registry ε} {caller : σ} (h : (run cb items (i :: rest) left caller).fault = none) :
    let v := visit cb item i (left.element? i) caller
    let later := run cb items rest (left.remove i).1 v.caller
    ∃ e, v.result = .ok e ∧ later.fault = none ∧
      run cb items (i :: rest) left caller = later.preceded i e v.reused := by
  rw [run_cons cb hi] at h ⊢
  rcases hv : (visit cb item i (left.element? i) caller).result with fault | e
  · simp [hv] at h
  · simp only [hv] at h
    exact ⟨e, hv, h, by simp only [hv]⟩

/-- Induction along a faultless pass over indices of the items. -/
theorem run_induction {P : List Nat → Registry ε → σ → Prop}
    (hnil : ∀ left caller, P [] left caller)
    (hcons : ∀ i item e rest left caller, items[i]? = some item →
      let v := visit cb item i (left.element? i) caller
      let later := run cb items rest (left.remove i).1 v.caller
      v.result = .ok e →
      run cb items (i :: rest) left caller = later.preceded i e v.reused →
      P rest (left.remove i).1 v.caller → P (i :: rest) left caller)
    {is : List Nat} (hin : ∀ i ∈ is, i < items.size) {left : Registry ε} {caller : σ}
    (h : (run cb items is left caller).fault = none) : P is left caller := by
  induction is generalizing left caller with
  | nil => exact hnil left caller
  | cons i rest ih =>
    obtain ⟨hfirst, hrest⟩ := List.forall_mem_cons.1 hin
    have hi := Array.getElem?_eq_getElem hfirst
    obtain ⟨e, he, hlater, hrun⟩ := run_cons_faultless hi h
    exact hcons i _ e rest left caller hi he hrun (ih hrest hlater)

theorem run_made_indices {is : List Nat} (hin : ∀ i ∈ is, i < items.size) {left : Registry ε}
    {caller : σ} (h : (run cb items is left caller).fault = none) :
    (run cb items is left caller).made.map (·.index) = is := by
  refine run_induction (P := fun is left caller =>
    (run cb items is left caller).made.map (·.index) = is) ?_ ?_ hin h
  · intro left caller
    rfl
  · intro i item e rest left caller hi v later he hrun ih
    rw [hrun, preceded, List.map_cons, ih]

theorem run_left_indices {is : List Nat} (hin : ∀ i ∈ is, i < items.size) {left : Registry ε}
    {caller : σ} (h : (run cb items is left caller).fault = none) :
    (run cb items is left caller).left.indices = left.indices.filter (fun j => !is.contains j) := by
  refine run_induction (P := fun is left caller =>
    (run cb items is left caller).left.indices =
      left.indices.filter fun j => !is.contains j) ?_ ?_ hin h
  · intro left caller
    simp [run]
  · intro i item e rest left caller hi v later he hrun ih
    rw [hrun, preceded, ih, Registry.indices_remove, List.filter_filter]
    apply List.filter_congr
    intro j _
    by_cases hj : j = i <;> simp [hj]

theorem run_rendered {is : List Nat} (hin : ∀ i ∈ is, i < items.size) {left : Registry ε}
    {caller : σ} (h : (run cb items is left caller).fault = none) :
    (run cb items is left caller).created + (run cb items is left caller).reused = is.length := by
  refine run_induction (P := fun is left caller =>
    (run cb items is left caller).created + (run cb items is left caller).reused = is.length)
    ?_ ?_ hin h
  · intro left caller
    rfl
  · intro i item e rest left caller hi v later he hrun ih
    have hlater : later.created + later.reused = rest.length := ih
    rw [hrun, preceded, List.length_cons, ← hlater]
    -- the visit counts once, either way
    rcases hv : v.reused with _ | _
    · simp only [Bool.not_false, Bool.toNat_true, Bool.toNat_false]
      omega
    · simp only [Bool.not_true, Bool.toNat_true, Bool.toNat_false]
      omega

/-- What holds of all that a faultless visit leaves for entries that are `ok` holds of the entries
of a faultless pass. -/
theorem run_leaves (ok : Nat → ε → Prop) (P : α → Nat → ε → Prop)
    (hvisit : ∀ item i held caller e, (∀ x, held = some x → ok i x) →
      (visit cb item i held caller).result = .ok e → P item i e)
    {is : List Nat} (hin : ∀ i ∈ is, i < items.size) {left : Registry ε}
    (hleft : ∀ e ∈ left.entries, ok e.index e.element) {caller : σ}
    (h : (run cb items is left caller).fault = none) :
    ∀ e ∈ (run cb items is left caller).made,
      ∃ item, items[e.index]? = some item ∧ P item e.index e.element := by
  refine run_induction (P := fun is left caller =>
    (∀ e ∈ left.entries, ok e.index e.element) →
      ∀ e ∈ (run cb items is left caller).made,
        ∃ item, items[e.index]? = some item ∧ P item e.index e.element) ?_ ?_ hin h hleft
  · intro left caller _ e he
    cases he
  · intro i item made rest left caller hi v later hmade hrun ih hleft
    have hheld : ∀ x, left.element? i = some x → ok i x := fun x hx =>
      hleft _ (Registry.mem_of_get? (Registry.element?_eq_some.1 hx))
    rw [hrun]
    intro e he
    rcases List.mem_cons.1 he with rfl | he
    · exact ⟨item, hi, hvisit item _ _ caller _ hheld hmade⟩
    · exact ih (fun e he => hleft e (List.mem_filter.1 he).1) e he

theorem run_shows {γ : Type} {view : ε → γ} {f : α → Nat → γ} (hshow : cb.Shows view f)
    {is : List Nat} (hin : ∀ i ∈ is, i < items.size) {left : Registry ε}
    (hleft : ∀ e ∈ left.entries, ∃ old, view e.element = f old e.index) {caller : σ}
    (h : (run cb items is left caller).fault = none) :
    ∀ e ∈ (run cb items is left caller).made,
      ∃ item, items[e.index]? = some item ∧ view e.element = f item e.index :=
  run_leaves (fun i e => ∃ old, view e = f old i) (fun item i e => view e = f item i)
    (fun _ _ _ _ _ hheld he => visit_shows hshow hheld he) hin hleft h

theorem run_restores {γ : Type} {ok : Nat → ε → Prop} {view : ε → γ} {f : α → Nat → γ}
    (hrestore : cb.Restores ok view f) {is : List Nat} (hin : ∀ i ∈ is, i < items.size)
    {left : Registry ε} (hleft : ∀ e ∈ left.entries, ok e.index e.element) {caller : σ}
    (h : (run cb items is left caller).fault = none) :
    ∀ e ∈ (run cb items is left caller).made,
      ∃ item, items[e.index]? = some item ∧ ok e.index e.element ∧
        view e.element = f item e.index :=
  run_leaves ok (fun item i e => ok i e ∧ view e = f item i)
    (fun _ _ _ _ _ hheld he => visit_restores hrestore hheld he) hin hleft h

theorem run_total (hcb : cb.Total) (is : List Nat) (left : Registry ε) (caller : σ) :
    (run cb items is left caller).fault = none := by
  induction is generalizing left caller with
  | nil => rfl
  | cons i rest ih =>
    rcases hi : items[i]? with _ | item
    · rw [run, hi]
    · obtain ⟨e, he⟩ := visit_total hcb item i (left.element? i) caller
      rw [run_cons cb hi]
      simp only [he]
      exact ih _ _

theorem run_fault {is : List Nat} (hin : ∀ i ∈ is, i < items.size) {left : Registry ε} {caller : σ}
    {fault : Fault} (h : (run cb items is left caller).fault = some fault) :
    ∃ i, fault = .createFailed i ∨ fault = .updateFailed i := by
  induction is generalizing left caller with
  | nil => simp [run] at h
  | cons i rest ih =>
    obtain ⟨hfirst, hrest⟩ := List.forall_mem_cons.1 hin
    have hi := Array.getElem?_eq_getElem hfirst
    rw [run_cons cb hi] at h
    rcases hv : (visit cb items[i] i (left.element? i) caller).result with broken | e
    · simp only [hv, Option.some.injEq] at h
      exact ⟨i, h ▸ visit_fault hv⟩
    · simp only [hv] at h
      exact ih hrest h

/-- With a record a pass is the same, and the record grows by one call for every index, in order:
the call due there. -/
theorem run_recording (cb : Callbacks σ α ε) {is : List Nat} (hin : ∀ i ∈ is, i < items.size)
    (hnd : is.Nodup) (left : Registry ε) (caller : σ) (log : List (Call α ε)) :
    ∃ calls, run cb.recording items is left (caller, log) =
        (let p := run cb items is left caller
         ⟨p.made, p.left, (p.caller, log ++ calls), p.created, p.reused, p.fault⟩) ∧
      ((run cb items is left caller).fault = none →
        List.Forall₂ (Call.Due cb (fun i => cb.update.isSome && (left.element? i).isSome) items left
          ⟨(run cb items is left caller).made⟩) is calls ∧
        (run cb items is left caller).created = calls.countP Call.isCreate ∧
        (run cb items is left caller).reused = calls.countP (!Call.isCreate ·)) := by
  induction is generalizing left caller log with
  | nil => exact ⟨[], by simp [run], fun _ => ⟨.nil, rfl, rfl⟩⟩
  | cons i rest ih =>
    obtain ⟨hfirst, hothers⟩ := List.forall_mem_cons.1 hin
    obtain ⟨item, hi⟩ : ∃ item, items[i]? = some item := ⟨_, Array.getElem?_eq_getElem hfirst⟩
    obtain ⟨hfresh, hnd⟩ := List.nodup_cons.1 hnd
    obtain ⟨call, hvisit, hkind, hdue, _⟩ :=
      visit_recording cb item i (left.element? i) caller log
    rcases hv : (visit cb item i (left.element? i) caller).result with broken | e
    · refine ⟨[call], ?_, ?_⟩
      · rw [run_cons _ hi, run_cons _ hi, hvisit]
        simp [hv]
      · intro h
        rw [run_cons _ hi] at h
        simp [hv] at h
    · obtain ⟨calls, hrun, hcalls⟩ := ih hothers hnd
        (left.remove i).1 (visit cb item i (left.element? i) caller).caller (log ++ [call])
      refine ⟨call :: calls, ?_, ?_⟩
      · rw [run_cons _ hi, run_cons _ hi, hvisit]
        simp [hv, hrun, preceded]
      · intro h
        obtain ⟨_, _, hlater, _⟩ := run_cons_faultless hi h
        obtain ⟨hforall, hcreated, hreused⟩ := hcalls hlater
        rw [run_cons _ hi]
        simp only [hv, preceded]
        refine ⟨.cons ?_ ?_, ?_, ?_⟩
        · exact hdue e hv _ _ _ _ hi rfl rfl (by simp [Registry.element?, Registry.get?])
        · -- the later visits look neither for the entry taken out nor for the one made
          apply Call.due_congr hforall
          intro j hj
          have hne : j ≠ i := fun heq => hfresh (heq ▸ hj)
          rw [Registry.element?_remove_of_ne hne]
          refine ⟨rfl, rfl, ?_⟩
          simp [Registry.element?, Registry.get?, Ne.symm hne]
        · rw [List.countP_cons, hcreated, hkind]
          cases (visit cb item i (left.element? i) caller).reused <;> rfl
        · rw [List.countP_cons, hreused, hkind]
          cases (visit cb item i (left.element? i) caller).reused <;> rfl

/-! ## A pass that breaks off -/

/-- The progress of a pass that goes on where another one has ended. -/
def after (before later : Progress σ ε) : Progress σ ε :=
  { later with
    made := before.made ++ later.made
    created := before.created + later.created
    reused := before.reused + later.reused }

/-- A faultless pass goes on to further indices with what it has left. -/
theorem run_append {is : List Nat} (hin : ∀ i ∈ is, i < items.size) {left : Registry ε} {caller : σ}
    (h : (run cb items is left caller).fault = none) (js : List Nat) :
    run cb items (is ++ js) left caller =
      (run cb items is left caller).after
        (run cb items js (run cb items is left caller).left
          (run cb items is left caller).caller) := by
  refine run_induction (P := fun is left caller =>
    run cb items (is ++ js) left caller =
      (run cb items is left caller).after
        (run cb items js (run cb items is left caller).left
          (run cb items is left caller).caller)) ?_ ?_ hin h
  · intro left caller
    simp [run, after]
  · intro i item e rest left caller hi v later he hrun ih
    have hcons : run cb items (i :: rest ++ js) left caller =
        (run cb items (rest ++ js) (left.remove i).1 v.caller).preceded i e v.reused := by
      rw [List.cons_append, run_cons cb hi]
      simp only [he, v]
    rw [hcons, ih, hrun]
    simp only [preceded, after, later, List.cons_append, Nat.add_right_comm]

theorem run_left_element? {is : List Nat} (hin : ∀ i ∈ is, i < items.size) {left : Registry ε}
    {caller : σ} (h : (run cb items is left caller).fault = none) {k : Nat} (hk : k ∉ is) :
    (run cb items is left caller).left.element? k = left.element? k := by
  refine run_induction (P := fun is left caller => k ∉ is →
    (run cb items is left caller).left.element? k = left.element? k) ?_ ?_ hin h hk
  · intro left caller _
    rfl
  · intro i item e rest left caller hi v later he hrun ih hk
    obtain ⟨hne, hrest⟩ := not_or.1 (mt List.mem_cons.2 hk)
    rw [hrun]
    exact (ih hrest).trans (Registry.element?_remove_of_ne hne)

/-- A pass that breaks off is faultless up to an index on which one of the functions gives up. -/
theorem run_broken {is : List Nat} (hin : ∀ i ∈ is, i < items.size) {left : Registry ε}
    {caller : σ} {fault : Fault} (h : (run cb items is left caller).fault = some fault) :
    ∃ done k rest item, is = done ++ k :: rest ∧ items[k]? = some item ∧
      (run cb items done left caller).fault = none ∧
      (visit cb item k ((run cb items done left caller).left.element? k)
        (run cb items done left caller).caller).result = .error fault := by
  induction is generalizing left caller with
  | nil => simp [run] at h
  | cons i rest ih =>
    obtain ⟨hfirst, hothers⟩ := List.forall_mem_cons.1 hin
    obtain ⟨item, hi⟩ : ∃ item, items[i]? = some item := ⟨_, Array.getElem?_eq_getElem hfirst⟩
    rw [run_cons cb hi] at h
    rcases hv : (visit cb item i (left.element? i) caller).result with broken | e
    · simp only [hv, Option.some.injEq] at h
      exact ⟨[], i, rest, item, rfl, hi, rfl, h ▸ hv⟩
    · simp only [hv] at h
      obtain ⟨done, k, later, item', hrest, hk, hdone, hfault⟩ := ih hothers h
      refine ⟨i :: done, k, later, item', by rw [hrest, List.cons_append], hk, ?_, ?_⟩
      · rw [run_cons cb hi]
        simp only [hv]
        exact hdone
      · rw [run_cons cb hi]
        simp only [hv]
        exact hfault

/-- A pass that breaks off at an index has made the entries of the indices before it and no others.
With a record it is the same, and the record grows by the calls due for those indices and by the
call that gave up. -/
theorem run_broken_recording (cb : Callbacks σ α ε) {is : List Nat}
    (hin : ∀ i ∈ is, i < items.size) (hnd : is.Nodup) (left : Registry ε) (caller : σ)
    (log : List (Call α ε)) {fault : Fault}
    (h : (run cb items is left caller).fault = some fault) :
    ∃ done k rest calls call, is = done ++ k :: rest ∧
      (run cb items is left caller).made = (run cb items done left caller).made ∧
      (run cb items done left caller).fault = none ∧
      run cb.recording items is left (caller, log) =
        (let p := run cb items is left caller
         ⟨p.made, p.left, (p.caller, log ++ (calls ++ [call])), p.created, p.reused, p.fault⟩) ∧
      List.Forall₂ (Call.Due cb (fun i => cb.update.isSome && (left.element? i).isSome) items left
        ⟨(run cb items is left caller).made⟩) done calls ∧
      call.GivesUp cb items left k fault := by
  obtain ⟨done, k, rest, item, rfl, hk, hdone, hfault⟩ := run_broken hin h
  have hbefore : ∀ i ∈ done, i < items.size := fun i hi => hin i (List.mem_append_left _ hi)
  obtain ⟨hnd, _, hapart⟩ := List.nodup_append.1 hnd
  have hfresh : k ∉ done := fun hmem => hapart k hmem k List.mem_cons_self rfl
  have hheld := run_left_element? hbefore hdone hfresh
  obtain ⟨calls, hrun, hcalls⟩ := run_recording cb hbefore hnd left caller log
  obtain ⟨hdue, _⟩ := hcalls hdone
  obtain ⟨call, hvisit, _, _, hgives⟩ := visit_recording cb item k
    ((run cb items done left caller).left.element? k) (run cb items done left caller).caller
    (log ++ calls)
  -- both passes go through the first indices without a fault and stop at the next one
  have hwhole := run_append hbefore hdone (k :: rest)
  rw [run_cons cb hk] at hwhole
  simp only [hfault] at hwhole
  have hquiet : (run cb.recording items done left (caller, log)).fault = none := by
    rw [hrun]
    exact hdone
  have hrecorded := run_append hbefore hquiet (k :: rest)
  rw [hrun, run_cons cb.recording hk] at hrecorded
  simp only [hvisit, hfault] at hrecorded
  refine ⟨done, k, rest, calls, call, rfl, ?_, hdone, ?_, ?_, ?_⟩
  · rw [hwhole]
    exact List.append_nil _
  · rw [hrecorded, hwhole]
    simp [after]
  · rw [hwhole]
    simpa [after] using hdue
  · exact hgives fault hfault items left hk hheld.symm

end Progress

end ListWindow
