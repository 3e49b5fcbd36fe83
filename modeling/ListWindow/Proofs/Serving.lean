import ListWindow.Proofs.Recycling

/-!
What a reconciling pass comes to, over any range and any registry. `Served` says how indices are
served one after the other: each call of the caller's functions takes their state from the call
before, an index that is held is updated where there is an update function, and any other is
created. A faultless pass serves the indices of its range that have an item
(`Progress.run_serves`), and the record of its calls is the list of calls that served them
(`Served.recorded`). The entries before the pass count only as what is held for each index: in
whatever order they are listed, the pass comes to the same (`Progress.run_perm`).
`reconcile_serves` puts these together with the statistics of the pass. A registry has room for any
number of entries; how much memory that takes is left out.
-/
namespace ListWindow

variable {σ α ε : Type}

/-! ## Ranges and registries -/

namespace IndexRange

/-- Ends in order, and an index left past the last of them. -/
def Bounded : IndexRange → Prop
  | empty => True
  | span first last => first ≤ last ∧ last < maxIndex

theorem Bounded.within {r : IndexRange} (h : r.Bounded) :
    ∃ count, count ≤ maxIndex ∧ r.Within count := by
  cases r with
  | empty => exact ⟨0, Nat.zero_le _, rfl⟩
  | span first last =>
    obtain ⟨hfirst, hlast⟩ := h
    exact ⟨last + 1, hlast, hfirst, Nat.lt_succ_self last⟩

theorem filter_range'_lt (first n bound : Nat) :
    (List.range' first n).filter (· < bound) = List.range' first (min n (bound - first)) := by
  induction n generalizing first with
  | zero => simp
  | succ n ih =>
    rw [List.range'_succ, List.filter_cons, ih]
    by_cases h : first < bound
    · have hmin : min (n + 1) (bound - first) = min n (bound - (first + 1)) + 1 := by omega
      rw [if_pos (by simpa using h), hmin, List.range'_succ]
    · have hmin : min (n + 1) (bound - first) = 0 := by omega
      have hrest : min n (bound - (first + 1)) = 0 := by omega
      rw [if_neg (by simpa using h), hmin, hrest]
      rfl

theorem indicesBelow_eq_filter (bound : Nat) (r : IndexRange) :
    r.indicesBelow bound = r.indices.filter (· < bound) := by
  cases r with
  | empty => rfl
  | span first last =>
    have hmin : min (last + 1) bound - first = min (last + 1 - first) (bound - first) := by omega
    rw [indicesBelow, indices, filter_range'_lt, hmin]

end IndexRange

namespace Registry

variable {r s : Registry ε}

theorem get?_perm (hnd : r.indices.Nodup) (h : s.entries.Perm r.entries) (i : Nat) :
    s.get? i = r.get? i := by
  have hindices : s.indices.Perm r.indices := h.map _
  rcases hi : r.get? i with _ | e
  · rw [get?_eq_none, hindices.mem_iff, ← get?_eq_none]
    exact hi
  · have hmem : e ∈ s.entries := h.mem_iff.2 (mem_of_get? hi)
    rw [← get?_index hi]
    exact get?_of_mem (hindices.nodup_iff.2 hnd) hmem

theorem element?_perm (hnd : r.indices.Nodup) (h : s.entries.Perm r.entries) (i : Nat) :
    s.element? i = r.element? i := by
  rw [element?, get?_perm hnd h, element?]

end Registry

/-! ## Indices served one after the other -/

def Call.index : Call α ε → Nat
  | create i _ _ | update i _ _ _ _ => i

/-- The caller's functions serve some indices in order, from one state of theirs to another: an
index that is held is updated where there is an update function, and a new element is created for
any other. -/
inductive Served (cb : Callbacks σ α ε) (items : Array α) (held : Nat → Option ε) :
    List Nat → σ → List (Call α ε) → List (Rendered ε) → σ → Prop where
  | nil {c : σ} : Served cb items held [] c [] [] c
  | create {i : Nat} {is : List Nat} {c c' c'' : σ} {item : α} {e : ε} {calls : List (Call α ε)}
      {made : List (Rendered ε)} :
      items[i]? = some item → held i = none ∨ cb.update = none →
      cb.create c item i = (c', some e) → Served cb items held is c' calls made c'' →
      Served cb items held (i :: is) c (.create i item (some e) :: calls) (⟨i, e⟩ :: made) c''
  | update {i : Nat} {is : List Nat} {c c' c'' : σ} {item : α} {old e : ε}
      {u : σ → ε → α → Nat → σ × ε × Bool} {calls : List (Call α ε)} {made : List (Rendered ε)} :
      items[i]? = some item → held i = some old → cb.update = some u →
      u c old item i = (c', e, true) → Served cb items held is c' calls made c'' →
      Served cb items held (i :: is) c (.update i item old e true :: calls) (⟨i, e⟩ :: made) c''

/-- Whether an index is served by an update. -/
def Callbacks.updates (cb : Callbacks σ α ε) (held : Nat → Option ε) (i : Nat) : Bool :=
  cb.update.isSome && (held i).isSome

namespace Served

variable {cb : Callbacks σ α ε} {items : Array α} {held held' : Nat → Option ε} {is : List Nat}
  {c c' : σ} {calls : List (Call α ε)} {made : List (Rendered ε)}

theorem calls_index (h : Served cb items held is c calls made c') :
    calls.map Call.index = is := by
  induction h with
  | nil => rfl
  | create _ _ _ _ ih => rw [List.map_cons, ih]; rfl
  | update _ _ _ _ _ ih => rw [List.map_cons, ih]; rfl

theorem congr (h : Served cb items held is c calls made c') (hsame : ∀ i ∈ is, held' i = held i) :
    Served cb items held' is c calls made c' := by
  induction h with
  | nil => exact .nil
  | create hi hnew hmade _ ih =>
    obtain ⟨hfirst, hrest⟩ := List.forall_mem_cons.1 hsame
    exact .create hi (hnew.imp_left hfirst.trans) hmade (ih hrest)
  | update hi hheld hu hleft _ ih =>
    obtain ⟨hfirst, hrest⟩ := List.forall_mem_cons.1 hsame
    exact .update hi (hfirst.trans hheld) hu hleft (ih hrest)

theorem recorded {log log' : List (Call α ε)}
    (h : Served cb.recording items held is (c, log) calls made (c', log')) :
    log' = log ++ calls ∧ Served cb items held is c calls made c' := by
  generalize hfrom : (c, log) = before at h
  generalize hto : (c', log') = after at h
  induction h generalizing c log with
  | nil =>
    obtain ⟨rfl, rfl⟩ := Prod.mk.inj (hfrom.trans hto.symm)
    exact ⟨(List.append_nil _).symm, .nil⟩
  | @create i _ _ _ _ item _ _ _ hi hnew hmade _ ih =>
    subst hfrom
    rcases hv : cb.create c item i with ⟨own, made⟩
    simp only [Callbacks.recording, hv] at hmade
    cases hmade
    obtain ⟨hlog, hrest⟩ := ih rfl hto
    have hnew' := hnew.imp_right Option.map_eq_none_iff.1
    exact ⟨by simpa using hlog, .create hi hnew' hv hrest⟩
  | @update i _ _ _ _ item old _ _ _ _ hi hheld hu hleft _ ih =>
    subst hfrom
    obtain ⟨u, hu', rfl⟩ := Option.map_eq_some_iff.1 hu
    rcases hv : u c old item i with ⟨own, left, done⟩
    simp only [hv] at hleft
    cases hleft
    obtain ⟨hlog, hrest⟩ := ih rfl hto
    exact ⟨by simpa using hlog, .update hi hheld hu' hv hrest⟩

end Served

/-! ## A pass serves its indices -/

theorem visit_cases {cb : Callbacks σ α ε} {item : α} {i : Nat} {held : Option ε} {c : σ} {e : ε}
    (h : (visit cb item i held c).result = .ok e) :
    ((held = none ∨ cb.update = none) ∧
      cb.create c item i = ((visit cb item i held c).caller, some e) ∧
      (visit cb item i held c).reused = false) ∨
    ∃ old u, held = some old ∧ cb.update = some u ∧
      u c old item i = ((visit cb item i held c).caller, e, true) ∧
      (visit cb item i held c).reused = true := by
  by_cases hnew : held = none ∨ cb.update = none
  · rw [visit_eq_create item i c hnew] at h ⊢
    rcases hv : cb.create c item i with ⟨c', made⟩
    rw [hv] at h
    cases made with
    | none => cases h
    | some made =>
      obtain rfl : made = e := Except.ok.inj h
      exact .inl ⟨hnew, rfl, rfl⟩
  · obtain ⟨hheld, hu⟩ := not_or.1 hnew
    obtain ⟨old, rfl⟩ := Option.ne_none_iff_exists'.1 hheld
    obtain ⟨u, hu⟩ := Option.ne_none_iff_exists'.1 hu
    rcases hv : u c old item i with ⟨c', left, done⟩
    cases done with
    | false =>
      simp only [visit, hu, hv] at h
      cases h
    | true =>
      simp only [visit, hu, hv] at h ⊢
      obtain rfl : left = e := Except.ok.inj h
      exact .inr ⟨old, u, rfl, rfl, hv, trivial⟩

namespace Progress

variable {cb : Callbacks σ α ε} {items : Array α}

/-- A faultless pass over distinct indices of the items serves them in order, and counts apart those
that it updates and those that it creates. -/
theorem run_serves {is : List Nat} (hin : ∀ i ∈ is, i < items.size) (hnd : is.Nodup)
    {left : Registry ε} {caller : σ} (h : (run cb items is left caller).fault = none) :
    (∃ calls, Served cb items left.element? is caller calls (run cb items is left caller).made
      (run cb items is left caller).caller) ∧
    (run cb items is left caller).created = is.countP (!cb.updates left.element? ·) ∧
    (run cb items is left caller).reused = is.countP (cb.updates left.element?) := by
  refine run_induction (P := fun is left caller => is.Nodup →
    (∃ calls, Served cb items left.element? is caller calls (run cb items is left caller).made
      (run cb items is left caller).caller) ∧
    (run cb items is left caller).created = is.countP (!cb.updates left.element? ·) ∧
    (run cb items is left caller).reused = is.countP (cb.updates left.element?)) ?_ ?_ hin h hnd
  · intro left caller _
    exact ⟨⟨[], .nil⟩, rfl, rfl⟩
  · intro i item e rest left caller hi v later he hrun ih hnd
    obtain ⟨hfresh, hnd⟩ := List.nodup_cons.1 hnd
    obtain ⟨⟨calls, hserved⟩, hcreated, hreused⟩ := ih hnd
    -- taking out the entry of the first index leaves what is held for the others
    have hsame : ∀ j ∈ rest, left.element? j = (left.remove i).1.element? j := by
      intro j hj
      have hne : j ≠ i := fun heq => hfresh (heq ▸ hj)
      exact (Registry.element?_remove_of_ne hne).symm
    have hkept : ∀ j ∈ rest, cb.updates (left.remove i).1.element? j = cb.updates left.element? j :=
      fun j hj => by rw [Callbacks.updates, Callbacks.updates, hsame j hj]
    have hserved := hserved.congr hsame
    rw [List.countP_congr fun j hj => by rw [hkept j hj]] at hcreated hreused
    rw [hrun, List.countP_cons, List.countP_cons, ← hcreated, ← hreused]
    rcases visit_cases he with ⟨hnew, hmade, hv⟩ | ⟨old, u, hheld, hu, hleft, hv⟩
    · have hkind : cb.updates left.element? i = false := by
        rw [Callbacks.updates]
        rcases hnew with hheld | hu
        · rw [hheld, Option.isSome_none, Bool.and_false]
        · rw [hu, Option.isSome_none, Bool.false_and]
      refine ⟨⟨_, .create hi hnew hmade hserved⟩, ?_, ?_⟩
      · simp [preceded, v, hv, hkind, later]
      · simp [preceded, v, hv, hkind, later]
    · have hkind : cb.updates left.element? i = true := by
        rw [Callbacks.updates, hu, hheld]
        rfl
      refine ⟨⟨_, .update hi hheld hu hleft hserved⟩, ?_, ?_⟩
      · simp [preceded, v, hv, hkind, later]
      · simp [preceded, v, hv, hkind, later]

/-- The order in which the entries before a pass are listed makes no difference. -/
theorem run_perm (cb : Callbacks σ α ε) (items : Array α) (is : List Nat)
    {left left' : Registry ε} (hnd : left.indices.Nodup) (h : left'.entries.Perm left.entries)
    (caller : σ) :
    run cb items is left' caller =
        { run cb items is left caller with left := (run cb items is left' caller).left } ∧
      (run cb items is left' caller).left.entries.Perm
        (run cb items is left caller).left.entries := by
  induction is generalizing left left' caller with
  | nil => exact ⟨rfl, h⟩
  | cons i rest ih =>
    rcases hi : items[i]? with _ | item
    · simp only [run, hi]
      exact ⟨trivial, h⟩
    · have hnd' : (left.remove i).1.indices.Nodup := by
        rw [Registry.indices_remove]
        exact hnd.filter _
      have h' : (left'.remove i).1.entries.Perm (left.remove i).1.entries := h.filter _
      rw [run_cons cb hi, run_cons cb hi, Registry.element?_perm hnd h]
      dsimp only
      rcases hv : (visit cb item i (left.element? i) caller).result with fault | e
      · exact ⟨rfl, h'⟩
      · obtain ⟨hrun, hleft⟩ :=
          ih hnd' h' (visit cb item i (left.element? i) caller).caller
        refine ⟨?_, hleft⟩
        dsimp only
        rw [hrun]
        rfl

end Progress

/-! ## A whole pass -/

/-- What a pass over a range of some items comes to. -/
structure Reconciled (cb : Callbacks σ α ε) (items : Array α) (range : IndexRange)
    (before : Registry ε) (caller : σ) (stats : Stats) (after : Registry ε) (caller' : σ)
    (calls : List (Call α ε)) : Prop where
  /-- The entries are those of the indices of the range that have an item. -/
  keys : after.indices = range.indices.filter (· < items.size)
  ascending : after.indices.Pairwise (· < ·)
  /-- Each of them is what the one call for its index has left. -/
  served : Served cb items before.element? after.indices caller calls after.entries caller'
  range : stats.range = range
  created : stats.created = after.indices.countP (!cb.updates before.element? ·)
  reused : stats.reused = after.indices.countP (cb.updates before.element?)
  rendered : stats.created + stats.reused = after.indices.length
  /-- Every entry from before is dropped that is not among them. -/
  dropped : stats.dropped = (before.indices.filter (· ∉ after.indices)).length

/-- A pass over a bounded range goes through the indices of the range that have an item. -/
theorem reconcile_eq (cb : Callbacks σ α ε) (items : Array α) {range : IndexRange}
    (hrange : range.Bounded) (registry : Registry ε) (caller : σ) :
    reconcile cb items range registry caller =
      (let p := Progress.run cb items (range.indices.filter (· < items.size)) registry caller
       ⟨match p.fault with
        | some fault => .error fault
        | none => .ok { range, created := p.created, reused := p.reused, dropped := p.left.size },
        { entries := p.made }, p.caller⟩) := by
  obtain ⟨count, hcount, hwithin⟩ := hrange.within
  obtain ⟨first, stop, hlimits, _⟩ := hwithin.limits_eq hcount
  rw [reconcile, hwithin.size_eq hcount]
  rcases hfault : (Progress.run cb items (range.indices.filter (· < items.size)) registry
    caller).fault with _ | fault
  · simp only [hlimits, range.indicesBelow_eq_filter, hfault]
  · simp only [hlimits, range.indicesBelow_eq_filter, hfault]

theorem reconcile_faultless (cb : Callbacks σ α ε) (items : Array α) {range : IndexRange}
    (hrange : range.Bounded) (registry : Registry ε) (caller : σ)
    (hok : ∀ fault, (reconcile cb items range registry caller).outcome = .error fault →
      fault.ofCaller = false) :
    (Progress.run cb items (range.indices.filter (· < items.size)) registry caller).fault =
      none := by
  rw [reconcile_eq cb items hrange] at hok
  rcases hp : (Progress.run cb items (range.indices.filter (· < items.size)) registry
    caller).fault with _ | fault
  · rfl
  · simp only [hp] at hok
    obtain ⟨i, rfl | rfl⟩ :=
      Progress.run_fault (fun i hi => of_decide_eq_true (List.mem_filter.1 hi).2) hp
    · cases hok _ rfl
    · cases hok _ rfl

/-- With a record a faultless pass over distinct indices of the items is the same, and the record is
the list of the calls that serve them. -/
theorem Progress.run_recorded (cb : Callbacks σ α ε) {items : Array α} {is : List Nat}
    (hin : ∀ i ∈ is, i < items.size) (hnd : is.Nodup) {left : Registry ε} {caller : σ}
    (h : (run cb items is left caller).fault = none) :
    ∃ calls,
      run cb.recording items is left (caller, []) =
        (let p := run cb items is left caller
         ⟨p.made, p.left, (p.caller, calls), p.created, p.reused, p.fault⟩) ∧
      Served cb items left.element? is caller calls (run cb items is left caller).made
        (run cb items is left caller).caller := by
  obtain ⟨calls, hrun, _⟩ := run_recording cb hin hnd left caller []
  have hquiet : (run cb.recording items is left (caller, [])).fault = none := by
    rw [hrun]
    exact h
  obtain ⟨⟨calls', hserved⟩, _⟩ := run_serves hin hnd hquiet
  rw [hrun] at hserved
  obtain ⟨hcalls, hserved⟩ := hserved.recorded
  rw [List.nil_append, List.nil_append] at hcalls
  rw [← hcalls] at hserved
  exact ⟨calls, hrun, hserved⟩

/-- A pass over any bounded range and any registry, in which the caller's functions do not give up:
see `Reconciled`. The calls of these functions are those that a record of the pass shows, and no
others. The order in which the registry lists its entries makes no difference. -/
theorem reconcile_serves (cb : Callbacks σ α ε) (items : Array α) {range : IndexRange}
    (hrange : range.Bounded) {registry : Registry ε} (hkeys : registry.indices.Nodup) (caller : σ)
    (hok : ∀ fault, (reconcile cb items range registry caller).outcome = .error fault →
      fault.ofCaller = false) :
    (∃ stats after caller' calls,
      reconcile cb items range registry caller = ⟨.ok stats, after, caller'⟩ ∧
      reconcile cb.recording items range registry (caller, []) =
        ⟨.ok stats, after, (caller', calls)⟩ ∧
      Reconciled cb items range registry caller stats after caller' calls) ∧
    ∀ other : Registry ε, other.entries.Perm registry.entries →
      reconcile cb items range other caller = reconcile cb items range registry caller := by
  have hin : ∀ i ∈ range.indices.filter (· < items.size), i < items.size :=
    fun i hi => of_decide_eq_true (List.mem_filter.1 hi).2
  have hnd : (range.indices.filter (· < items.size)).Nodup := range.nodup_indices.filter _
  have hpass := reconcile_eq cb items hrange registry caller
  have hfault := reconcile_faultless cb items hrange registry caller hok
  constructor
  · obtain ⟨calls, hrecorded, hserved⟩ := Progress.run_recorded cb hin hnd hfault
    obtain ⟨_, hcreated, hreused⟩ := Progress.run_serves hin hnd hfault
    have hmade := Progress.run_made_indices hin hfault
    have hleft := Progress.run_left_indices hin hfault
    have hrendered := Progress.run_rendered hin hfault
    have hrecording := reconcile_eq cb.recording items hrange registry (caller, [])
    rw [hrecorded] at hrecording
    generalize Progress.run cb items (range.indices.filter (· < items.size)) registry caller = p
      at hpass hfault hserved hcreated hreused hmade hleft hrendered hrecording
    simp only [hfault] at hpass hrecording
    rw [← hmade] at hserved hcreated hreused hleft hrendered
    refine ⟨_, _, _, calls, hpass, hrecording, ⟨hmade, ?_, hserved, rfl, hcreated, hreused,
      hrendered, ?_⟩⟩
    · show (p.made.map (·.index)).Pairwise (· < ·)
      rw [hmade]
      exact range.pairwise_indices.filter _
    · show p.left.size = _
      rw [Registry.size_eq_length_indices, hleft]
      congr 1
      apply List.filter_congr
      intro j _
      show (!(p.made.map (·.index)).contains j) = decide (j ∉ p.made.map (·.index))
      rw [Bool.eq_iff_iff, Bool.not_eq_true', ← Bool.not_eq_true, List.contains_iff_mem,
        decide_eq_true_iff]
  · intro other hperm
    obtain ⟨hrun, hleft⟩ :=
      Progress.run_perm cb items (range.indices.filter (· < items.size)) hkeys hperm caller
    rw [hpass, reconcile_eq cb items hrange other caller, hrun]
    dsimp only
    rw [Registry.size, Registry.size, hleft.length_eq]

/-- Elements that are numbered in the order in which they are made, with a count of the calls as the
state of the functions. -/
def Callbacks.numbering : Callbacks Nat Nat (Nat × Nat) where
  create calls item _ := (calls + 1, some (calls, item))
  update := some fun calls element item _ => (calls + 1, (element.1, item), true)

/-- A range of nine indices over four items, of which the third has an element: this one is updated,
the two beside it are created, and the element of the eighth is dropped. -/
theorem reconcile_serves_numbering :
    let registry : Registry (Nat × Nat) := ⟨[⟨7, (90, 17)⟩, ⟨2, (91, 12)⟩]⟩
    registry.indices.Nodup ∧
    ∃ stats after caller' calls,
      reconcile .numbering #[20, 21, 22, 23] (.span 1 9) registry 5 = ⟨.ok stats, after, caller'⟩ ∧
      Reconciled .numbering #[20, 21, 22, 23] (.span 1 9) registry 5 stats after caller' calls ∧
      after.entries = [⟨1, (5, 21)⟩, ⟨2, (91, 22)⟩, ⟨3, (7, 23)⟩] ∧ stats.dropped = 1 ∧
      calls.map Call.index = [1, 2, 3] := by
  intro registry
  have hkeys : registry.indices.Nodup := by decide
  have hrange : (IndexRange.span 1 9).Bounded := ⟨by decide, by decide⟩
  have hpass : reconcile .numbering #[20, 21, 22, 23] (.span 1 9) registry 5 =
      ⟨.ok ⟨.span 1 9, 2, 1, 1⟩, ⟨[⟨1, (5, 21)⟩, ⟨2, (91, 22)⟩, ⟨3, (7, 23)⟩]⟩, 8⟩ := by rfl
  have hok : ∀ fault, (reconcile .numbering #[20, 21, 22, 23] (.span 1 9) registry 5).outcome =
      .error fault → fault.ofCaller = false := by
    intro fault hfault
    rw [hpass] at hfault
    cases hfault
  obtain ⟨⟨stats, after, caller', calls, hreconcile, _, hserves⟩, _⟩ :=
    reconcile_serves .numbering #[20, 21, 22, 23] hrange hkeys 5 hok
  refine ⟨hkeys, stats, after, caller', calls, hreconcile, hserves, ?_⟩
  have hcalls := hserves.served.calls_index
  rw [hpass] at hreconcile
  cases hreconcile
  exact ⟨rfl, rfl, hcalls⟩

end ListWindow
