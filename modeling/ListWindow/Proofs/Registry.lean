import ListWindow.Registry
import Mathlib.Data.List.Basic

/-!
Lemmas about registries: what a lookup finds after an entry is taken out, after the registry is cut
to a length, and after an element is changed in place.
-/
namespace ListWindow.Registry

variable {ε : Type} {r : Registry ε} {i j : Nat} {e : Rendered ε}

theorem get?_index (h : r.get? i = some e) : e.index = i := by
  have := List.find?_some h
  simpa using this

theorem mem_of_get? (h : r.get? i = some e) : e ∈ r.entries := List.mem_of_find?_eq_some h

theorem get?_eq_none : r.get? i = none ↔ i ∉ r.indices := by
  simp [get?, indices]

theorem element?_eq_none : r.element? i = none ↔ i ∉ r.indices := by
  rw [element?, Option.map_eq_none_iff, get?_eq_none]

theorem element?_eq_some {x : ε} : r.element? i = some x ↔ r.get? i = some ⟨i, x⟩ := by
  rw [element?, Option.map_eq_some_iff]
  constructor
  · rintro ⟨e, he, rfl⟩
    have hi := get?_index he
    subst hi
    exact he
  · intro h
    exact ⟨_, h, rfl⟩

theorem get?_of_mem (hnd : r.indices.Nodup) (he : e ∈ r.entries) : r.get? e.index = some e := by
  obtain ⟨entries⟩ := r
  simp only [get?, indices] at *
  induction entries with
  | nil => simp at he
  | cons x rest ih =>
    rw [List.map_cons, List.nodup_cons] at hnd
    obtain ⟨hx, hrest⟩ := hnd
    rcases List.mem_cons.mp he with rfl | he
    · simp
    · have hne : ¬ x.index = e.index := by
        intro heq
        exact hx (heq ▸ List.mem_map_of_mem he)
      -- the entry is not found sooner, because no earlier one has its index
      rw [List.find?_cons_of_neg (by simpa using hne)]
      exact ih hrest he

/-- Among elements with distinct keys each is the only one with its key. -/
theorem filter_key {β γ : Type} [BEq γ] [LawfulBEq γ] {key : β → γ} {l : List β}
    (hnd : (l.map key).Nodup) {x : β} (hx : x ∈ l) : l.filter (key · == key x) = [x] := by
  induction l with
  | nil => cases hx
  | cons y rest ih =>
    obtain ⟨hfresh, hnd⟩ := List.nodup_cons.1 hnd
    rcases List.mem_cons.1 hx with rfl | hx
    · have hothers : rest.filter (key · == key x) = [] := by
        rw [List.filter_eq_nil_iff]
        intro z hz heq
        exact hfresh (List.mem_map.2 ⟨z, hz, eq_of_beq heq⟩)
      rw [List.filter_cons, if_pos BEq.rfl, hothers]
    · have hne : ¬(key y == key x) = true := fun heq =>
        hfresh (List.mem_map.2 ⟨x, hx, (eq_of_beq heq).symm⟩)
      rw [List.filter_cons, if_neg hne, ih hnd hx]

theorem find?_filter_index {p : Nat → Bool} (entries : List (Rendered ε)) (hp : p j = true) :
    (entries.filter fun e => p e.index).find? (·.index == j) = entries.find? (·.index == j) := by
  rw [List.find?_filter]
  congr 1
  funext e
  by_cases he : e.index = j
  · simp [he, hp]
  · simp [he]

theorem get?_remove_of_ne (h : j ≠ i) : (r.remove i).1.get? j = r.get? j :=
  find?_filter_index (p := (· != i)) r.entries (by simpa using h)

theorem get?_truncate_of_lt {len : Nat} (h : j < len) : (r.truncate len).1.get? j = r.get? j :=
  find?_filter_index (p := (decide <| · < len)) r.entries (by simpa using h)

theorem element?_remove_of_ne (h : j ≠ i) : (r.remove i).1.element? j = r.element? j := by
  rw [element?, get?_remove_of_ne h, element?]

theorem element?_truncate_of_lt {len : Nat} (h : j < len) :
    (r.truncate len).1.element? j = r.element? j := by
  rw [element?, get?_truncate_of_lt h, element?]

theorem indices_remove : (r.remove i).1.indices = r.indices.filter (· != i) := by
  simp only [remove, indices, List.filter_map]
  rfl

theorem indices_truncate {len : Nat} :
    (r.truncate len).1.indices = r.indices.filter (decide <| · < len) := by
  simp only [truncate, indices, List.filter_map]
  rfl

theorem size_eq_length_indices : r.size = r.indices.length := by
  simp [size, indices]

/-- The entries cut off are those at or past the length. -/
theorem truncate_count (len : Nat) :
    (r.truncate len).2 = (r.indices.filter fun i => !decide (i < len)).length := by
  have hsplit := r.indices.length_eq_length_filter_add (decide <| · < len)
  have hkept : (r.truncate len).1.entries.length
      = (r.indices.filter (decide <| · < len)).length := by
    rw [← indices_truncate, ← size_eq_length_indices, size]
  rw [← size_eq_length_indices] at hsplit
  show r.size - (r.truncate len).1.entries.length = _
  omega

@[simp] theorem indices_modify (f : ε → ε) : (r.modify i f).indices = r.indices := by
  simp only [modify, indices, List.map_map]
  apply List.map_congr_left
  intro e _
  by_cases h : e.index = i <;> simp [h]

theorem element?_modify_of_ne (f : ε → ε) (h : j ≠ i) :
    (r.modify i f).element? j = r.element? j := by
  obtain ⟨entries⟩ := r
  simp only [modify, element?, get?]
  congr 1
  induction entries with
  | nil => rfl
  | cons x rest ih =>
    by_cases hi : x.index = i
    · have hne : (x.index == j) = false := by
        simp [hi, Ne.symm h]
      rw [List.map_cons, if_pos hi, List.find?_cons, List.find?_cons, ih]
      simp [hne]
    · rw [List.map_cons, if_neg hi, List.find?_cons, List.find?_cons, ih]

@[simp] theorem element?_modify_self (f : ε → ε) :
    (r.modify i f).element? i = (r.element? i).map f := by
  obtain ⟨entries⟩ := r
  simp only [modify, element?, get?]
  induction entries with
  | nil => rfl
  | cons x rest ih =>
    by_cases hi : x.index = i
    · simp [hi]
    · have hne : (x.index == i) = false := by simpa using hi
      rw [List.map_cons, if_neg hi, List.find?_cons, List.find?_cons, hne]
      exact ih

end ListWindow.Registry
