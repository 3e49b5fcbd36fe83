import ListWindow.Text.Fit
import Mathlib.Data.List.Chain

/-!
How widths add up. The cells of a text are added up from its end, and what a character adds depends
on the text behind it.

1. Some characters take back a cell of the text behind them, but never more than it has
   (`Measure.cells_nonneg`).
2. In front of a text that begins with nothing special every text takes the cells that it takes by
   itself (`width_append`), and a blank or an ellipsis begins such a text whatever is behind it
   (`Parting`).
3. So pieces add up if each begins with nothing special, or if there are blanks between them
   (`additive_of_settled`, `additive_of_parted`).
-/
namespace ListWindow.Text

/-! ## No text takes less than no cells -/

/-- The cells that a character in front of a letter may take back. -/
def Ligature.owed : Ligature → Int
  | khmer | tifinaghTied => 1
  | _ => 0

/-- The cells that a character in front of a shape may take back. -/
def Shape.owed : Shape → Int
  | joinedRegional | joinedOdd => 1
  | ligature letter _ => letter.owed
  | _ => 0

theorem Ligature.owed_nonneg (letter : Ligature) : 0 ≤ letter.owed := by
  cases letter <;> decide

theorem Shape.owed_nonneg (s : Shape) : 0 ≤ s.owed := by
  cases s with
  | joinedRegional | joinedOdd => decide
  | ligature letter tied => exact letter.owed_nonneg
  | _ => exact Int.le_refl 0

theorem khmerLetters_bounds {c : Char} (h : khmerLetters.contains c = true) :
    0x1780 ≤ c.toNat ∧ c.toNat < 0x1780 + 0x30 := by
  simp only [CodeRanges.contains, khmerLetters, CodeRanges.containsCode, Bool.and_eq_true,
    Bool.or_eq_true, decide_eq_true_eq, Bool.false_eq_true, or_false] at h
  omega

theorem charWidth_khmer {c : Char} (h : khmerLetters.contains c = true) : 1 ≤ charWidth c := by
  have hzero : isZeroWidth c = false := by
    obtain ⟨hlow, hhigh⟩ := khmerLetters_bounds h
    obtain ⟨n, hn⟩ := Nat.exists_eq_add_of_le hlow
    have htables : ∀ n < 0x30, (khmerLetters.containsCode (0x1780 + n) &&
        (extenders.containsCode (0x1780 + n) || ignorable.containsCode (0x1780 + n) ||
          hangulEndings.containsCode (0x1780 + n) ||
          silentSigns.containsCode (0x1780 + n))) = false := by
      decide +kernel
    have hclear := htables n (by omega)
    rw [← hn, show khmerLetters.containsCode c.toNat = true from h, Bool.true_and] at hclear
    simp only [isZeroWidth, CodeRanges.contains, hclear, Bool.false_and]
  rw [charWidth, hzero]
  split
  · exact le_rfl
  split
  · decide
  split
  · decide
  split
  · contradiction
  split <;> decide

theorem Shape.owed_ite {p : Prop} [Decidable p] {s t : Shape} {n : Int} (hs : p → s.owed ≤ n)
    (ht : t.owed ≤ n) : (if p then s else t).owed ≤ n := by
  by_cases hp : p
  · rw [if_pos hp]
    exact hs hp
  · rw [if_neg hp]
    exact ht

theorem Shape.owed_of (c : Char) : (Shape.of c).owed ≤ charWidth c := by
  have hwidth : (0 : Int) ≤ charWidth c := Int.natCast_nonneg _
  have hkhmer : khmerLetters.contains c = true → (1 : Int) ≤ charWidth c := fun h =>
    Int.ofNat_le.2 (charWidth_khmer h)
  rw [Shape.of]
  iterate 8 refine owed_ite (fun _ => hwidth) ?_
  refine owed_ite hkhmer ?_
  iterate 5 refine owed_ite (fun _ => hwidth) ?_
  exact hwidth

theorem Shape.joinEmoji?_owed {c : Char} {n : Int} {t : Shape} (h : joinEmoji? c = some (n, t)) :
    t.owed ≤ n := by
  unfold joinEmoji? at h
  split_ifs at h <;> cases h <;> decide

theorem Shape.joinTags?_owed {c : Char} {letters digits : Nat} {n : Int} {t : Shape}
    (h : joinTags? c letters digits = some (n, t)) : t.owed ≤ n := by
  unfold joinTags? at h
  split_ifs at h <;> cases h <;> exact Int.le_refl 0

theorem Shape.meltWith?_owed {c : Char} {letter : Ligature} {tied : Bool} {n : Int} {t : Shape}
    (h : meltWith? c letter tied = some (n, t)) : t.owed ≤ letter.owed + n := by
  unfold meltWith? at h
  split at h
  all_goals first
    | cases h
    | split_ifs at h <;> cases h <;> decide

theorem Shape.ligate?_owed {c : Char} {letter : Ligature} {tied : Bool} {n : Int} {t : Shape}
    (h : ligate? c letter tied = some (n, t)) : t.owed ≤ letter.owed + n := by
  unfold ligate? at h
  split_ifs at h
  · cases h
    exact Int.le_of_eq (Int.add_zero _).symm
  · cases h
    exact Int.le_of_eq (Int.add_zero _).symm
  · exact meltWith?_owed h

/-- A character that combines with a shape takes back no more than the shape owes. -/
theorem Shape.combine?_owed {c : Char} {s t : Shape} {n : Int} (h : s.combine? c = some (n, t)) :
    t.owed ≤ s.owed + n := by
  cases s with
  | plain | lineFeed | joinedKeycap => cases h
  | joinedEmoji =>
    have hadded := joinEmoji?_owed h
    show _ ≤ 0 + n
    omega
  | joinedTags letters digits =>
    have hadded := joinTags?_owed h
    show _ ≤ 0 + n
    omega
  | ligature letter tied => exact ligate?_owed h
  | _ =>
    simp only [combine?, tieEmoji?, pairRegional?] at h
    split_ifs at h <;> cases h <;> decide

namespace Measure

variable {m : Measure} {c : Char}

/-- A measure has the cells that its shape owes. -/
def Covers (m : Measure) : Prop := m.shape.owed ≤ m.cells

theorem Covers.grow (h : m.Covers) {cells : Int} {t : Shape}
    (hcells : t.owed ≤ m.shape.owed + cells) : (m.grow cells t).Covers := by
  have hm : m.shape.owed ≤ m.cells := h
  show t.owed ≤ m.cells + cells
  omega

theorem Covers.grow_fresh (h : m.Covers) {cells : Int} {t : Shape} (hcells : t.owed ≤ cells) :
    (m.grow cells t).Covers := by
  have howed := m.shape.owed_nonneg
  exact h.grow (by omega)

theorem Covers.keep (h : m.Covers) {selectors : Selectors} {t : Shape}
    (ht : t = m.shape ∨ t = .plain) : Covers ⟨m.cells, selectors, t⟩ := by
  rcases ht with rfl | rfl
  · exact h
  · exact Int.le_trans m.shape.owed_nonneg h

theorem Covers.select (h : m.Covers) (selector : Selector) : (m.select selector).Covers := by
  refine h.keep ?_
  unfold Shape.behind
  split
  · exact .inl rfl
  · exact .inr rfl

theorem Covers.consLatin (h : m.Covers) (c : Char) : (consLatin c m).Covers := by
  unfold Measure.consLatin
  split
  · exact h.grow_fresh (Int.le_refl 0)
  · refine h.grow_fresh ?_
    split <;> decide

theorem Covers.consPlain (h : m.Covers) (c : Char) : (consPlain c m).Covers := by
  unfold Measure.consPlain
  split
  · rename_i cells t hcombine
    exact h.grow (Shape.combine?_owed hcombine)
  · exact h.grow_fresh (Shape.owed_of c)

theorem Covers.consOther (h : m.Covers) (c : Char) : (consOther c m).Covers := by
  unfold Measure.consOther
  split
  · exact h.grow_fresh (by decide)
  split
  · exact h.grow_fresh (by decide)
  · exact h.consPlain c

theorem Covers.consSettled (h : m.Covers) (c : Char) : (consSettled c m).Covers := by
  unfold Measure.consSettled
  split
  · exact h.consLatin c
  split
  · exact h.select _
  split
  · exact h.select _
  split
  · exact h.select _
  · exact h.consOther c

theorem Covers.cons (h : m.Covers) (c : Char) : (cons c m).Covers := by
  unfold Measure.cons
  split
  · split
    · refine h.grow_fresh ?_
      split <;> decide
    · refine Covers.consSettled (h.keep ?_) c
      unfold Shape.withoutSelector
      split
      · exact .inl rfl
      · exact .inr rfl
  · exact h.consSettled c

theorem covers_of (cs : List Char) : (Measure.of cs).Covers := by
  induction cs with
  | nil => exact Int.le_refl 0
  | cons c rest ih => exact ih.cons c

/-- No text takes less than no cells. -/
theorem cells_nonneg (cs : List Char) : 0 ≤ (Measure.of cs).cells :=
  Int.le_trans (Shape.owed_nonneg _) (covers_of cs)

/-! ## Texts one behind the other -/

def shift (n : Int) (m : Measure) : Measure := { m with cells := m.cells + n }

theorem grow_shift (n : Int) (m : Measure) (cells : Int) (t : Shape) :
    (m.shift n).grow cells t = (m.grow cells t).shift n := by
  simp only [grow, shift, Int.add_right_comm]

theorem select_shift (n : Int) (m : Measure) (selector : Selector) :
    (m.shift n).select selector = (m.select selector).shift n := rfl

theorem consSettled_shift (n : Int) (m : Measure) (c : Char) :
    consSettled c (m.shift n) = (consSettled c m).shift n := by
  have hshape : (m.shift n).shape = m.shape := rfl
  have hselectors : (m.shift n).selectors = m.selectors := rfl
  simp only [consSettled, consLatin, consOther, consPlain, hshape, hselectors, grow_shift,
    select_shift]
  split_ifs <;> first | rfl | split <;> rfl

/-- The cells behind a character make no difference to what it adds. -/
theorem cons_shift (n : Int) (m : Measure) (c : Char) :
    cons c (m.shift n) = (cons c m).shift n := by
  have hshape : (m.shift n).shape = m.shape := rfl
  have hselectors : (m.shift n).selectors = m.selectors := rfl
  simp only [cons, hshape, hselectors, grow_shift, consSettled_shift]
  split
  · split
    · rfl
    · exact consSettled_shift n ⟨m.cells, _, _⟩ c
  · rfl

theorem foldr_shift (n : Int) (m : Measure) (cs : List Char) :
    cs.foldr cons (m.shift n) = (cs.foldr cons m).shift n := by
  induction cs with
  | nil => rfl
  | cons c rest ih => rw [List.foldr_cons, List.foldr_cons, ih, cons_shift]

/-- In front of a text that begins with nothing special, a text adds what it has by itself. -/
theorem of_append {xs ys : List Char} {n : Int} (h : Measure.of ys = nothing.shift n) :
    Measure.of (xs ++ ys) = (Measure.of xs).shift n := by
  rw [Measure.of, List.foldr_append, ← Measure.of, h, foldr_shift]
  rfl

end Measure

/-- A text that begins with nothing special: all that what is in front of it sees of it is its
cells. -/
def Settled (cs : List Char) : Prop := ∃ n, Measure.of cs = Measure.nothing.shift n

variable {xs ys cs : List Char} {c : Char}

theorem settled_iff :
    Settled cs ↔ (Measure.of cs).selectors = .none ∧ (Measure.of cs).shape = .plain := by
  constructor
  · rintro ⟨n, hn⟩
    rw [hn]
    exact ⟨rfl, rfl⟩
  · rintro ⟨hselectors, hshape⟩
    refine ⟨(Measure.of cs).cells, ?_⟩
    rw [Measure.shift, Measure.nothing, ← hselectors, ← hshape, Int.zero_add]

instance : Decidable (Settled cs) := decidable_of_iff' _ settled_iff

theorem Settled.nil : Settled [] := ⟨0, rfl⟩

theorem Settled.append (hx : Settled xs) (hy : Settled ys) : Settled (xs ++ ys) := by
  obtain ⟨m, hm⟩ := hx
  obtain ⟨n, hn⟩ := hy
  refine ⟨m + n, ?_⟩
  rw [Measure.of_append hn, hm]
  simp only [Measure.shift, Int.add_assoc]

/-- Every text takes the cells that it takes by itself in front of one that begins with nothing
special. -/
theorem width_append (xs : List Char) (hy : Settled ys) :
    width (xs ++ ys) = width xs + width ys := by
  obtain ⟨n, hn⟩ := hy
  have hxs := Measure.cells_nonneg xs
  have hys := Measure.cells_nonneg ys
  have hcells : (Measure.of (xs ++ ys)).cells = (Measure.of xs).cells + (Measure.of ys).cells := by
    rw [Measure.of_append hn, hn]
    simp only [Measure.shift, Measure.nothing, Int.zero_add]
  rw [width, hcells, Int.toNat_add hxs hys]
  rfl

/-! ## Characters that part a text -/

/-- A character of one cell that what is behind it does not see, and that hides it from what is in
front. -/
def Parting (c : Char) : Prop :=
  ∀ m : Measure, Measure.cons c m = Measure.nothing.shift (m.cells + 1)

theorem Parting.settled (hc : Parting c) (cs : List Char) : Settled (c :: cs) := ⟨_, hc _⟩

theorem Parting.width_cons (hc : Parting c) (cs : List Char) : width (c :: cs) = width cs + 1 := by
  have hcs := Measure.cells_nonneg cs
  have hcells : (Measure.of (c :: cs)).cells = (Measure.of cs).cells + 1 := by
    show (Measure.cons c (Measure.of cs)).cells = _
    rw [hc]
    simp only [Measure.shift, Measure.nothing, Int.zero_add]
  rw [width, hcells, Int.toNat_add hcs (by decide)]
  rfl

/-- A character parts a text if it is no base of a selector and adds its cell to whatever it does
not combine with. -/
theorem Parting.of_fresh (hbase : variationBases.contains c = false)
    (hfresh : ∀ m, Measure.consSettled c m = m.grow 1 .plain) : Parting c := by
  have hgrow : ∀ m : Measure, m.grow 1 .plain = Measure.nothing.shift (m.cells + 1) := by
    intro m
    simp only [Measure.grow, Measure.shift, Measure.nothing, Int.zero_add]
  intro m
  rw [Measure.cons]
  split
  · rw [if_neg (by simp [hbase]), hfresh, hgrow]
  · rw [hfresh, hgrow]

theorem parting_blank : Parting ' ' :=
  .of_fresh (by decide +kernel) fun _ => rfl

theorem Shape.combine?_ellipsis (s : Shape) : s.combine? ellipsis = none := by
  have hemoji : emojiPresentation.contains ellipsis = false := by decide +kernel
  have hbase : skinToneBases.contains ellipsis = false := by decide +kernel
  have htone : skinTones.contains ellipsis = false := by decide +kernel
  have hzero : isJoinTransparent ellipsis = false := by decide +kernel
  cases s with
  | skinTone => simp only [combine?, hbase]; rfl
  | joinedEmoji => simp only [combine?, joinEmoji?, hemoji, htone]; rfl
  | alef => simp only [combine?, hzero]; rfl
  | ligature letter tied => cases letter <;> cases tied <;> rfl
  | _ => rfl

theorem parting_ellipsis : Parting ellipsis := by
  refine .of_fresh (by decide +kernel) fun m => ?_
  have htext : textBases.contains ellipsis = false := by decide +kernel
  have hquote : isCurlyQuote ellipsis = false := by decide
  have hwidth : charWidth ellipsis = 1 := by decide +kernel
  have hshape : Shape.of ellipsis = .plain := by decide +kernel
  have hother : m.consSettled ellipsis = m.consOther ellipsis := rfl
  rw [hother, Measure.consOther, htext, hquote, Bool.and_false, Bool.and_false,
    if_neg Bool.false_ne_true, if_neg Bool.false_ne_true, Measure.consPlain,
    Shape.combine?_ellipsis, hwidth, hshape]
  rfl

theorem Parting.width_append_cons (hc : Parting c) (xs ys : List Char) :
    width (xs ++ c :: ys) = width xs + 1 + width ys := by
  rw [width_append xs (hc.settled ys), hc.width_cons]
  omega

theorem width_blanks_append (n : Nat) (cs : List Char) :
    width (blanks n ++ cs) = n + width cs := by
  induction n with
  | zero => exact (Nat.zero_add _).symm
  | succ n ih =>
    show width (' ' :: (blanks n ++ cs)) = _
    rw [parting_blank.width_cons, ih]
    omega

@[simp] theorem width_blanks (n : Nat) : width (blanks n) = n := by
  have hnil : width [] = 0 := rfl
  have happend := width_blanks_append n []
  rwa [List.append_nil, hnil] at happend

theorem settled_blanks (n : Nat) : Settled (blanks n) := by
  cases n with
  | zero => exact .nil
  | succ n => exact parting_blank.settled _

/-! ## Pieces of a text -/

theorem clusterWidth_cons (g : Cluster) (rest : List Cluster) :
    terminal.clusterWidth (g :: rest) = width g + terminal.clusterWidth rest := rfl

/-- Pieces that add up: every run of neighbours takes the cells that its pieces take by themselves.
-/
def Additive (pieces : List (List Char)) : Prop :=
  ∀ run, run <:+: pieces → width run.flatten = terminal.clusterWidth run

variable {pieces : List (List Char)}

theorem Settled.flatten (h : ∀ p ∈ pieces, Settled p) : Settled pieces.flatten := by
  induction pieces with
  | nil => exact .nil
  | cons p rest ih =>
    rw [List.flatten_cons]
    exact (h p List.mem_cons_self).append (ih fun q hq => h q (List.mem_cons_of_mem _ hq))

theorem additive_of_settled (h : ∀ p ∈ pieces, Settled p) : Additive pieces := by
  intro run hrun
  have hsettled : ∀ p ∈ run, Settled p := fun p hp => h p (hrun.subset hp)
  clear hrun
  induction run with
  | nil => rfl
  | cons p rest ih =>
    have hrest : ∀ q ∈ rest, Settled q := fun q hq => hsettled q (List.mem_cons_of_mem _ hq)
    rw [List.flatten_cons, width_append p (.flatten hrest), ih hrest, clusterWidth_cons]

/-- Blanks that part what is on both sides of them. -/
def IsGap (cs : List Char) : Prop := ∃ n, cs = blanks (n + 1)

/-- Pieces with blanks between them add up, whatever they are. -/
theorem additive_of_parted (h : pieces.IsChain fun p q => IsGap p ∨ IsGap q) :
    Additive pieces := by
  intro run hrun
  have hchain := h.infix hrun
  clear hrun
  induction run with
  | nil => rfl
  | cons p rest ih =>
    have hrest := ih hchain.tail
    rw [List.flatten_cons, clusterWidth_cons, ← hrest]
    cases rest with
    | nil => exact width_append p .nil
    | cons q rest =>
      obtain ⟨n, rfl⟩ | ⟨n, rfl⟩ := (List.isChain_cons_cons.1 hchain).1
      · rw [width_blanks_append, width_blanks]
      · exact width_append p (parting_blank.settled _)

end ListWindow.Text
