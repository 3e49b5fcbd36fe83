import ListWindow.Proofs.DisplayWidth

/-!
Fitting a text into cells. A text that is too wide is cut behind the longest run of first clusters
that leaves a cell for the ellipsis (`LongestWithin`), and what comes of any text is told by one
rule (`Fitted`, `fit_iff`).

The clusters are measured one by one, the text as a whole. So a text that is filled up takes exactly
the cells asked for, and a text that is cut takes them if and only if the clusters that are kept
take together what they take one by one (`width_fit_iff`). Where letters of two clusters melt they
take less (`ligatures_cut_narrow`).
-/
namespace ListWindow.Text

/-! ## Where a text is cut -/

namespace Ruler

/-- The longest run of first clusters that take at most `room` cells, each measured by itself. -/
structure LongestWithin (r : Ruler) (room : Nat) (gs kept : List Cluster) : Prop where
  first : kept <+: gs
  fits : r.clusterWidth kept ≤ room
  longest : ∀ more, more <+: gs → r.clusterWidth more ≤ room → more <+: kept

/-- What a text comes to in so many cells: it is filled up with blanks if it takes no more than they
are, vanishes if there are none, and is cut between two clusters otherwise. -/
inductive Fitted (r : Ruler) (cs : List Char) : Nat → List Char → Prop where
  | filled {cells : Nat} : r.width cs ≤ cells →
      Fitted r cs cells (cs ++ blanks (cells - r.width cs))
  | vanished : 0 < r.width cs → Fitted r cs 0 []
  | cut {room : Nat} {kept : List Cluster} : room + 1 < r.width cs →
      r.LongestWithin room (r.clusters cs) kept →
      Fitted r cs (room + 1) (kept.flatten ++ ellipsis :: blanks (room - r.clusterWidth kept))

variable {r : Ruler} {cs : List Char}

theorem LongestWithin.unique {room : Nat} {gs kept kept' : List Cluster}
    (h : r.LongestWithin room gs kept) (h' : r.LongestWithin room gs kept') : kept = kept' := by
  have hle := h'.longest kept h.first h.fits
  have hge := h.longest kept' h'.first h'.fits
  exact hle.eq_of_length_le hge.length_le

/-- The clusters are taken one after the other as long as there is room, and no later one fits once
one has not. -/
theorem clustersWithin_longest (r : Ruler) (room : Nat) (gs : List Cluster) :
    r.LongestWithin room gs (r.clustersWithin room gs) := by
  induction gs generalizing room with
  | nil => exact ⟨List.nil_prefix, Nat.zero_le _, fun more hmore _ => hmore⟩
  | cons g rest ih =>
    rw [clustersWithin]
    split
    · rename_i hroom
      obtain ⟨hfirst, hfits, hlongest⟩ := ih (room - r.width g)
      refine ⟨(List.prefix_cons_inj g).2 hfirst, ?_, ?_⟩
      · rw [clusterWidth]
        omega
      · intro more hmore hwidth
        cases more with
        | nil => exact List.nil_prefix
        | cons g' more =>
          obtain ⟨rfl, htail⟩ := List.cons_prefix_cons.1 hmore
          rw [clusterWidth] at hwidth
          exact (List.prefix_cons_inj g').2 (hlongest more htail (by omega))
    · rename_i hroom
      refine ⟨List.nil_prefix, Nat.zero_le _, ?_⟩
      intro more hmore hwidth
      cases more with
      | nil => exact List.nil_prefix
      | cons g' more =>
        -- a longer run has the cluster for which there is no room
        obtain ⟨rfl, _⟩ := List.cons_prefix_cons.1 hmore
        rw [clusterWidth] at hwidth
        omega

theorem fitted_fitChars (r : Ruler) (cs : List Char) (cells : Nat) :
    r.Fitted cs cells (r.fitChars cs cells) := by
  unfold fitChars
  split
  · rename_i hwidth
    exact .filled hwidth
  · rename_i hwidth
    cases cells with
    | zero => exact .vanished (Nat.not_le.1 hwidth)
    | succ room => exact .cut (Nat.not_le.1 hwidth) (r.clustersWithin_longest room _)

theorem Fitted.unique {cells : Nat} {out out' : List Char} (h : r.Fitted cs cells out)
    (h' : r.Fitted cs cells out') : out = out' := by
  cases h with
  | filled hwidth =>
    cases h' with
    | filled _ => rfl
    | vanished hwide => omega
    | cut hwide _ => omega
  | vanished hwide =>
    cases h' with
    | filled hwidth => omega
    | vanished _ => rfl
  | cut hwide hkept =>
    cases h' with
    | filled hwidth => omega
    | cut _ hkept' => rw [hkept.unique hkept']

theorem fitChars_eq_iff {cells : Nat} {out : List Char} :
    r.fitChars cs cells = out ↔ r.Fitted cs cells out := by
  constructor
  · rintro rfl
    exact r.fitted_fitChars cs cells
  · exact (r.fitted_fitChars cs cells).unique

theorem LongestWithin.parts {room : Nat} {kept : List Cluster}
    (h : r.LongestWithin room (r.clusters cs) kept) :
    ∃ rest, r.clusters cs = kept ++ rest ∧ kept.flatten ++ rest.flatten = cs := by
  obtain ⟨rest, hrest⟩ := h.first
  refine ⟨rest, hrest.symm, ?_⟩
  rw [← List.flatten_append, hrest, r.flatten_clusters]

end Ruler

/-- Fitting gives what the rule says and nothing else. The clusters that a cut keeps are the first
ones of the text, none of which is split, and the text begins with what they make up. -/
theorem fit_iff (text : String) (cells : Nat) :
    (∀ out : String, fit text cells = out ↔ terminal.Fitted text.toList cells out.toList) ∧
      ∃ kept rest, terminal.LongestWithin (cells - 1) (clusters text.toList) kept ∧
        clusters text.toList = kept ++ rest ∧ kept.flatten ++ rest.flatten = text.toList := by
  constructor
  · intro out
    rw [← Ruler.fitChars_eq_iff, fit, ← String.toList_inj, String.toList_ofList]
  · have hkept := terminal.clustersWithin_longest (cells - 1) (clusters text.toList)
    obtain ⟨rest, hrest, hflat⟩ := hkept.parts
    exact ⟨_, rest, hkept, hrest, hflat⟩

/-! ## How wide it is -/

variable {cs : List Char}

theorem width_filled {cells : Nat} (h : width cs ≤ cells) :
    width (cs ++ blanks (cells - width cs)) = cells := by
  rw [width_append cs (settled_blanks _), width_blanks]
  omega

/-- A text that is cut takes as many cells more or less than asked for as the clusters that are kept
take together more or less than one by one. -/
theorem width_cut (cs : List Char) (room : Nat) :
    width (terminal.cut cs room)
        + terminal.clusterWidth (terminal.clustersWithin room (clusters cs)) =
      room + 1 + width (terminal.clustersWithin room (clusters cs)).flatten := by
  have hfits := (terminal.clustersWithin_longest room (clusters cs)).fits
  have hcut : terminal.cut cs room = (terminal.clustersWithin room (clusters cs)).flatten ++
      ellipsis :: blanks (room - terminal.clusterWidth
        (terminal.clustersWithin room (clusters cs))) := rfl
  rw [hcut, parting_ellipsis.width_append_cons, width_blanks]
  omega

/-- A text comes to the cells asked for if it is filled up, if there are none, or if nothing melts
in what is kept of it. -/
theorem width_fitChars_iff (cs : List Char) (cells : Nat) :
    width (terminal.fitChars cs cells) = cells ↔ width cs ≤ cells ∨ cells = 0 ∨
      width (terminal.clustersWithin (cells - 1) (clusters cs)).flatten =
        terminal.clusterWidth (terminal.clustersWithin (cells - 1) (clusters cs)) := by
  unfold Ruler.fitChars
  split
  · rename_i hwidth
    exact iff_of_true (width_filled hwidth) (.inl hwidth)
  · rename_i hwidth
    cases cells with
    | zero => exact iff_of_true rfl (.inr (.inl rfl))
    | succ room =>
      have hwide : room + 1 < width cs := Nat.not_le.1 hwidth
      have hcut := width_cut cs room
      show width (terminal.cut cs room) = room + 1 ↔ _
      rw [Nat.add_sub_cancel]
      omega

theorem width_fitChars {cells : Nat} (h : Additive (clusters cs)) :
    width (terminal.fitChars cs cells) = cells := by
  have hfirst := (terminal.clustersWithin_longest (cells - 1) (clusters cs)).first
  exact (width_fitChars_iff cs cells).2 (.inr (.inr (h _ hfirst.isInfix)))

/-- What is left of the clusters of a text that is cut to so many cells. -/
def keptClusters (text : String) (cells : Nat) : List Cluster :=
  terminal.clustersWithin (cells - 1) (clusters text.toList)

/-- A text takes exactly the cells that it is fitted into if and only if it is filled up, or there
are no cells, or the clusters that are left of it take together what they take one by one. -/
theorem width_fit_iff (text : String) (cells : Nat) :
    displayWidth (fit text cells) = cells ↔
      displayWidth text ≤ cells ∨ cells = 0 ∨
        width (keptClusters text cells).flatten =
          terminal.clusterWidth (keptClusters text cells) := by
  rw [displayWidth, displayWidth, fit, String.toList_ofList]
  exact width_fitChars_iff text.toList cells

/-- Lam and alef four times, which take one cell each time. Cut to three cells the first two letters
are left, each counted as one cell, but they melt: two cells are taken and not three. -/
theorem ligatures_cut_narrow :
    let text := String.ofList (List.replicate 4 ['\u0644', '\u0627']).flatten
    displayWidth text = 4 ∧ fit text 3 = String.ofList ['\u0644', '\u0627', ellipsis] ∧
      displayWidth (fit text 3) = 2 ∧ displayWidth (fit text 3) ≠ 3 := by
  dsimp only
  rw [displayWidth, displayWidth, fit, String.toList_ofList, String.toList_ofList]
  refine ⟨?_, congrArg String.ofList ?_, ?_, ?_⟩ <;> decide +kernel

end ListWindow.Text
