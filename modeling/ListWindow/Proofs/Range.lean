import ListWindow.Range

/-!
Ranges of item indices. `Within` says that a range fits a number of items: it is empty exactly
when there are none, and ends before the last of them otherwise. `visibleRange_within` proves it
of every computed range, whatever the geometry; `Within.size_eq` and `Within.limits_eq` say that
such a range can be counted and enumerated without a fault.
-/
namespace ListWindow

namespace IndexRange

/-- A range that fits `count` items. -/
def Within (count : Nat) : IndexRange → Prop
  | empty => count = 0
  | span first last => first ≤ last ∧ last < count

theorem mem_indices {r : IndexRange} {i : Nat} : i ∈ r.indices ↔ r.contains i = true := by
  cases r with
  | empty => simp [indices, contains]
  | span first last =>
    simp only [indices, contains, List.mem_range'_1, Bool.and_eq_true, decide_eq_true_eq]
    omega

theorem pairwise_indices (r : IndexRange) : r.indices.Pairwise (· < ·) := by
  cases r with
  | empty => simp [indices]
  | span first last => exact List.pairwise_lt_range'

theorem nodup_indices (r : IndexRange) : r.indices.Nodup :=
  r.pairwise_indices.imp Nat.ne_of_lt

theorem mem_indicesBelow {r : IndexRange} {bound i : Nat} :
    i ∈ r.indicesBelow bound ↔ r.contains i = true ∧ i < bound := by
  cases r with
  | empty => simp [indicesBelow, contains]
  | span first last =>
    simp only [indicesBelow, contains, List.mem_range'_1, Bool.and_eq_true, decide_eq_true_eq]
    omega

theorem indices_before {r : IndexRange} {done rest : List Nat} {k : Nat}
    (h : r.indices = done ++ k :: rest) :
    ∃ first last, r = .span first last ∧ first ≤ k ∧ k ≤ last ∧
      done = List.range' first (k - first) := by
  cases r with
  | empty =>
    have hnil : [] = done ++ k :: rest := h
    simp at hnil
  | span first last =>
    obtain ⟨n, hn, rfl, hlater⟩ := List.range'_eq_append_iff.1 h
    obtain ⟨rfl, hpos, _⟩ := List.range'_eq_cons_iff.1 hlater.symm
    refine ⟨first, last, rfl, by omega, by omega, ?_⟩
    rw [Nat.mul_one, Nat.add_sub_cancel_left]

namespace Within

variable {r : IndexRange} {count : Nat}

theorem lt {i : Nat} (h : r.Within count) (hi : r.contains i = true) : i < count := by
  cases r with
  | empty => simp [contains] at hi
  | span first last =>
    simp only [contains, Bool.and_eq_true, decide_eq_true_eq] at hi
    obtain ⟨_, hlast⟩ := h
    omega

theorem lt_of_mem (h : r.Within count) : ∀ i ∈ r.indices, i < count :=
  fun _ hi => h.lt (mem_indices.1 hi)

theorem empty_iff (h : r.Within count) : r = .empty ↔ count = 0 := by
  cases r with
  | empty => simpa [Within] using h
  | span first last =>
    obtain ⟨_, hlast⟩ := h
    simp only [reduceCtorEq, false_iff]
    omega

theorem indicesBelow_eq (h : r.Within count) : r.indicesBelow count = r.indices := by
  cases r with
  | empty => rfl
  | span first last =>
    obtain ⟨_, hlast⟩ := h
    simp only [indicesBelow, indices]
    rw [Nat.min_eq_left (by omega)]

theorem size_eq (h : r.Within count) (hc : count ≤ maxIndex) :
    r.size = .ok r.indices.length := by
  cases r with
  | empty => rfl
  | span first last =>
    obtain ⟨hfirst, hlast⟩ := h
    have hsub : checkedSub last first = .ok (last - first) := by
      rw [checkedSub, if_pos hfirst]
    -- the last index is below the number of items, so their count is an index as well
    have hadd : checkedAdd maxIndex (last - first) 1 = .ok (last - first + 1) := by
      rw [checkedAdd, if_pos (by omega)]
    have hlen : (indices (.span first last)).length = last - first + 1 := by
      simp only [indices, List.length_range']
      omega
    rw [hlen]
    show (do checkedAdd maxIndex (← checkedSub last first) 1) = _
    rw [hsub]
    exact hadd

theorem limits_eq (h : r.Within count) (hc : count ≤ maxIndex) :
    ∃ first stop, r.limits = .ok (first, stop) ∧
      r.indices = List.range' first (stop - first) := by
  cases r with
  | empty => exact ⟨0, 0, rfl, rfl⟩
  | span first last =>
    obtain ⟨_, hlast⟩ := h
    have hadd : checkedAdd maxIndex last 1 = .ok (last + 1) := by
      rw [checkedAdd, if_pos (by omega)]
    refine ⟨first, last + 1, ?_, rfl⟩
    show (do return (first, ← checkedAdd maxIndex last 1)) = _
    rw [hadd]
    rfl

end Within

end IndexRange

/-- Every computed range fits the number of items, whatever the geometry and the margin. -/
theorem visibleRange_within (a : Arithmetic) (g : Geometry) {itemExtent : Scalar}
    (he : (0 : Scalar) < itemExtent) (count overscan : Nat) :
    ∃ r, visibleRange a g itemExtent count overscan = .ok r ∧ r.Within count := by
  by_cases hc : count = 0
  · exact ⟨.empty, by simp [visibleRange, hc], hc⟩
  · refine ⟨_, by rw [visibleRange, if_neg hc, if_neg (not_not_intro he)], ?_⟩
    refine ⟨Nat.min_le_right _ _, Nat.lt_of_le_of_lt (Nat.min_le_right _ _) ?_⟩
    omega

end ListWindow
