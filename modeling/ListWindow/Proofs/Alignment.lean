import ListWindow.Proofs.Fitting
import ListWindow.Text.Columns
import Mathlib.Algebra.GroupWithZero.Nat

/-!
Where the cells of a table stand. A line is made of pieces: the fitted values and the gaps between
them. If the pieces add up (`Columns.AddsUp`), every column begins at the same cell in every line
and in the line of the titles, and all lines are equally wide (`Columns.format_aligned`).

With a gap between the columns the pieces add up whatever the values are, because blanks part them;
it is enough that the clusters of each value do. Without one they have to be asked for.
-/
namespace ListWindow.Text

/-! ## Lists with a separator -/

section
variable {α : Type}

theorem intersperse_cons (sep p : α) (behind : List α) :
    (p :: behind).intersperse sep = p :: behind.flatMap fun q => [sep, q] := by
  induction behind generalizing p with
  | nil => rfl
  | cons q rest ih =>
    rw [List.intersperse_cons_cons, ih q]
    rfl

/-- An element has a separator behind each of those before it and in front of each of those behind
it. -/
theorem intersperse_split (sep : α) (before : List α) (p : α) (behind : List α) :
    (before ++ p :: behind).intersperse sep =
      before.flatMap (fun q => [q, sep]) ++ p :: behind.flatMap fun q => [sep, q] := by
  induction before with
  | nil => exact intersperse_cons sep p behind
  | cons q rest ih =>
    obtain ⟨r, others, hothers⟩ : ∃ r others, rest ++ p :: behind = r :: others :=
      List.exists_cons_of_ne_nil (List.append_ne_nil_of_right_ne_nil _ (List.cons_ne_nil _ _))
    rw [List.cons_append, hothers, List.intersperse_cons_cons, ← hothers, ih]
    rfl

end

/-! ## Cells of several pieces -/

theorem Ruler.clusterWidth_append (r : Ruler) (ps qs : List (List Char)) :
    r.clusterWidth (ps ++ qs) = r.clusterWidth ps + r.clusterWidth qs := by
  induction ps with
  | nil => exact (Nat.zero_add _).symm
  | cons p rest ih => rw [List.cons_append, clusterWidth, clusterWidth, ih, Nat.add_assoc]

theorem Ruler.clusterWidth_flatMap {r : Ruler} {n : Nat} {f : List Char → List (List Char)}
    (hf : ∀ p, r.clusterWidth (f p) = r.width p + n) (ps : List (List Char)) :
    r.clusterWidth (ps.flatMap f) = r.clusterWidth ps + n * ps.length := by
  induction ps with
  | nil => rfl
  | cons p rest ih =>
    rw [List.flatMap_cons, clusterWidth_append, hf, ih, clusterWidth, List.length_cons,
      Nat.mul_succ]
    omega

theorem clusterWidth_behind (gap : Nat) (ps : List (List Char)) :
    terminal.clusterWidth (ps.flatMap fun p => [p, blanks gap]) =
      terminal.clusterWidth ps + gap * ps.length :=
  Ruler.clusterWidth_flatMap
    (fun p => by rw [clusterWidth_cons, clusterWidth_cons, width_blanks]; rfl) ps

theorem clusterWidth_before (gap : Nat) (ps : List (List Char)) :
    terminal.clusterWidth (ps.flatMap fun p => [blanks gap, p]) =
      terminal.clusterWidth ps + gap * ps.length :=
  Ruler.clusterWidth_flatMap
    (fun p => by rw [clusterWidth_cons, clusterWidth_cons, width_blanks, Nat.add_comm]; rfl) ps

theorem parted_intersperse (n : Nat) (ps : List (List Char)) :
    (ps.intersperse (blanks (n + 1))).IsChain fun p q => IsGap p ∨ IsGap q := by
  have hgap : IsGap (blanks (n + 1)) := ⟨n, rfl⟩
  cases ps with
  | nil => exact .nil
  | cons p rest =>
    rw [intersperse_cons]
    induction rest generalizing p with
    | nil => exact .singleton p
    | cons q rest ih =>
      exact .cons_cons (.inr hgap) (.cons_cons (.inl hgap) (ih q))

namespace Columns

/-! ## The cells of a line -/

variable {columns : List Column} {values : List String} {t : Columns}

theorem cells_split (before : List Column) (c : Column) (behind : List Column)
    (values : List String) :
    cells (before ++ c :: behind) values =
      cells before values ++ terminal.fitChars (values.getD before.length "").toList c.width ::
        cells behind (values.drop (before.length + 1)) := by
  induction before generalizing values with
  | nil => cases values <;> rfl
  | cons d rest ih =>
    rw [List.cons_append, cells, ih, cells, List.length_cons]
    cases values <;> rfl

theorem cells_take (columns : List Column) (values : List String) :
    cells columns (values.take columns.length) = cells columns values := by
  induction columns generalizing values with
  | nil => rfl
  | cons c rest ih =>
    cases values with
    | nil => rfl
    | cons value values =>
      rw [List.length_cons, List.take_succ_cons, cells, cells]
      exact congrArg _ (ih values)

theorem length_cells (columns : List Column) (values : List String) :
    (cells columns values).length = columns.length := by
  induction columns generalizing values with
  | nil => rfl
  | cons c rest ih => exact congrArg (· + 1) (ih values.tail)

/-- The clusters of every value that has a column add up. -/
def ValuesAddUp (columns : List Column) (values : List String) : Prop :=
  ∀ value ∈ values.take columns.length, Additive (clusters value.toList)

theorem ValuesAddUp.nil (columns : List Column) : ValuesAddUp columns [] := by
  intro value hvalue
  rw [List.take_nil] at hvalue
  contradiction

theorem ValuesAddUp.take (h : ValuesAddUp columns values) (j : Nat) :
    ValuesAddUp (columns.take j) values := by
  intro value hvalue
  exact h value (List.take_subset_take_left values (List.length_take_le' j columns) hvalue)

theorem ValuesAddUp.getD (h : ValuesAddUp columns values) {j : Nat} (hj : j < columns.length) :
    Additive (clusters (values.getD j "").toList) := by
  rw [List.getD_eq_getElem?_getD]
  cases hvalue : values[j]? with
  | none => exact additive_of_settled fun p hp => nomatch hp
  | some value =>
    refine h value (List.mem_of_getElem? (i := j) ?_)
    rw [List.getElem?_take_of_lt hj, hvalue]

theorem ValuesAddUp.clusterWidth_cells (h : ValuesAddUp columns values) :
    terminal.clusterWidth (cells columns values) = cellCount columns := by
  induction columns generalizing values with
  | nil => rfl
  | cons c rest ih =>
    have hrest : ValuesAddUp rest values.tail := by
      cases values with
      | nil => exact .nil rest
      | cons value values => exact fun v hv => h v (List.mem_cons_of_mem _ hv)
    have hvalue := h.getD (j := 0) (Nat.zero_lt_succ _)
    rw [← List.headD_eq_getD] at hvalue
    rw [cells, clusterWidth_cons, cellCount, width_fitChars hvalue, ih hrest]

/-! ## Lines -/

/-- What a line is made of: the fitted values and the gaps between them. -/
def pieces (t : Columns) (values : List String) : List (List Char) :=
  (cells t.columns values).intersperse (blanks t.gap)

/-- The clusters of every value that has a column add up, and so do the pieces of the line if there
is no gap that parts them. -/
structure AddsUp (t : Columns) (values : List String) : Prop where
  texts : ValuesAddUp t.columns values
  line : t.gap = 0 → Additive (t.pieces values)

/-- It is enough that nothing in the values and in the line begins with something special. -/
theorem AddsUp.of_settled
    (htexts : ∀ value ∈ values.take t.columns.length, ∀ p ∈ clusters value.toList, Settled p)
    (hline : ∀ p ∈ t.pieces values, Settled p) : t.AddsUp values :=
  ⟨fun value hvalue => additive_of_settled (htexts value hvalue),
    fun _ => additive_of_settled hline⟩

theorem AddsUp.additive (h : t.AddsUp values) : Additive (t.pieces values) := by
  cases hgap : t.gap with
  | zero => exact h.line hgap
  | succ n =>
    rw [pieces, hgap]
    exact additive_of_parted (parted_intersperse n _)

def start (t : Columns) (j : Nat) : Nat := ((t.columns.take j).map fun c => c.width + t.gap).sum

theorem start_eq (t : Columns) (j : Nat) :
    t.start j = cellCount (t.columns.take j) + t.gap * (t.columns.take j).length := by
  rw [start]
  induction t.columns.take j with
  | nil => rfl
  | cons c rest ih =>
    rw [List.map_cons, List.sum_cons, ih, cellCount, List.length_cons, Nat.mul_succ]
    omega

theorem AddsUp.clusterWidth_pieces (h : t.AddsUp values) :
    terminal.clusterWidth (t.pieces values) = t.width := by
  have hcells := h.texts.clusterWidth_cells
  have hlength := length_cells t.columns values
  rw [width, ← hcells, ← hlength, pieces]
  cases cells t.columns values with
  | nil => rfl
  | cons p rest =>
    rw [intersperse_cons, clusterWidth_cons, clusterWidth_before, clusterWidth_cons,
      List.length_cons, Nat.add_sub_cancel, Nat.add_assoc]

def leading (t : Columns) (values : List String) (j : Nat) : List (List Char) :=
  (cells (t.columns.take j) values).flatMap fun p => [p, blanks t.gap]

theorem AddsUp.clusterWidth_leading (h : t.AddsUp values) (j : Nat) :
    terminal.clusterWidth (t.leading values j) = t.start j := by
  rw [leading, clusterWidth_behind, (h.texts.take j).clusterWidth_cells, length_cells, start_eq]

theorem pieces_split {j : Nat} {c : Column} (hc : t.columns[j]? = some c) (values : List String) :
    ∃ behind, t.pieces values =
      t.leading values j ++ terminal.fitChars (values.getD j "").toList c.width :: behind := by
  obtain ⟨hj, rfl⟩ := List.getElem?_eq_some_iff.1 hc
  have hcells := cells_split (t.columns.take j) t.columns[j] (t.columns.drop (j + 1)) values
  rw [← List.drop_eq_getElem_cons hj, List.take_append_drop,
    List.length_take_of_le (Nat.le_of_lt hj)] at hcells
  rw [pieces, hcells, intersperse_split]
  exact ⟨_, rfl⟩

/-- A line of a table: it takes the cells of the table, and in it every column shows its value,
fitted into its cells, from the cell at which it begins. -/
structure Aligned (t : Columns) (values : List String) (line : String) : Prop where
  width : displayWidth line = t.width
  columns : ∀ (j : Nat) (c : Column), t.columns[j]? = some c → ∃ before behind : String,
    line = before ++ fit (values.getD j "") c.width ++ behind ∧
      displayWidth before = t.start j ∧ displayWidth (fit (values.getD j "") c.width) = c.width

theorem AddsUp.aligned (h : t.AddsUp values) : t.Aligned values (t.format values) := by
  constructor
  · rw [displayWidth, format, String.toList_ofList]
    show Text.width (t.pieces values).flatten = t.width
    rw [h.additive _ List.infix_rfl, h.clusterWidth_pieces]
  · intro j c hc
    obtain ⟨behind, hsplit⟩ := pieces_split hc values
    have hj : j < t.columns.length := (List.getElem?_eq_some_iff.1 hc).1
    have hfirst : t.leading values j <:+: t.pieces values :=
      hsplit ▸ (List.prefix_append _ _).isInfix
    refine ⟨.ofList (t.leading values j).flatten, .ofList behind.flatten, ?_, ?_, ?_⟩
    · show String.ofList (t.pieces values).flatten = _
      rw [hsplit, List.flatten_append, List.flatten_cons, String.ofList_append,
        String.ofList_append, ← String.append_assoc]
      rfl
    · rw [displayWidth, String.toList_ofList, h.additive _ hfirst, h.clusterWidth_leading]
    · rw [displayWidth, fit, String.toList_ofList, width_fitChars (h.texts.getD hj)]

/-- Every line whose pieces add up is aligned, and so is the line of the titles. The values past the
last column do not matter. -/
theorem format_aligned (t : Columns) :
    (∀ values, t.AddsUp values → t.Aligned values (t.format values)) ∧
      (t.AddsUp (t.columns.map (·.title)) → t.Aligned (t.columns.map (·.title)) t.header) ∧
      ∀ values, t.format (values.take t.columns.length) = t.format values := by
  refine ⟨fun values h => h.aligned, fun h => h.aligned, fun values => ?_⟩
  rw [format, format, cells_take]

/-- A name that is cut and a value without a column, and a table of wide letters without a gap and
with a value missing. -/
theorem aligned_names :
    let t : Columns := { columns := [⟨"id", 4⟩, ⟨"name", 6⟩], gap := 1 }
    let u : Columns := { columns := [⟨"言語", 5⟩, ⟨"市", 3⟩], gap := 0 }
    t.AddsUp ["42", "a long name", "-"] ∧
      t.Aligned ["42", "a long name", "-"] "42   a lon…" ∧
      t.Aligned ["id", "name"] "id   name  " ∧
      u.AddsUp ["日本語版"] ∧ u.Aligned ["日本語版"] "日本…   " ∧ u.Aligned ["言語", "市"] "言語 市 " := by
  intro t u
  have ht : t.AddsUp ["42", "a long name", "-"] :=
    .of_settled (by decide +kernel) (by decide +kernel)
  have htitles : t.AddsUp (t.columns.map (·.title)) :=
    .of_settled (by decide +kernel) (by decide +kernel)
  have hu : u.AddsUp ["日本語版"] := .of_settled (by decide +kernel) (by decide +kernel)
  have hutitles : u.AddsUp (u.columns.map (·.title)) :=
    .of_settled (by decide +kernel) (by decide +kernel)
  refine ⟨ht, ?_, ?_, hu, ?_, ?_⟩
  · have hline : t.format ["42", "a long name", "-"] = "42   a lon…" := by decide +kernel
    exact hline ▸ t.format_aligned.1 _ ht
  · have hline : t.header = "id   name  " := by decide +kernel
    exact hline ▸ t.format_aligned.2.1 htitles
  · have hline : u.format ["日本語版"] = "日本…   " := by decide +kernel
    exact hline ▸ u.format_aligned.1 _ hu
  · have hline : u.header = "言語 市 " := by decide +kernel
    exact hline ▸ u.format_aligned.2.1 hutitles

end Columns

end ListWindow.Text
