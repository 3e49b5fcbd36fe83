import ListWindow.Proofs.Pacing
import Mathlib.Data.List.DropRight

/-!
What becomes of the reasons that a throttle is given. `Throttle.run` does any operations in any
order, at times that may also go back, and writes down what waited before each of them and what it
answered. `Entry.Tells` says once what an entry tells of its operation, and `Throttle.Accounts` what
the whole log tells of the throttle: all reasons asked for have been handed out, have been forgotten
by a reset, or wait, and none else; and the last release since a reset says when the next one is
due. `Throttle.conserves` reads this off for the end of any run.
-/
namespace ListWindow

namespace Reasons

def all (sets : List Reasons) : Reasons := sets.foldr union none

instance : Std.Associative union := ⟨fun r s t => congrArg mk (UInt8.or_assoc r.bits s.bits t.bits)⟩

instance : Std.Commutative union := ⟨fun r s => congrArg mk (UInt8.or_comm r.bits s.bits)⟩

@[simp] theorem union_none (r : Reasons) : r.union none = r := congrArg mk UInt8.or_zero

@[simp] theorem none_union (r : Reasons) : none.union r = r := congrArg mk UInt8.zero_or

theorem all_concat (sets : List Reasons) (r : Reasons) :
    all (sets ++ [r]) = (all sets).union r := by
  induction sets with
  | nil =>
    show r.union none = none.union r
    rw [union_none, none_union]
  | cons s sets ih =>
    calc s.union (all (sets ++ [r]))
      _ = s.union ((all sets).union r) := by rw [ih]
      _ = (s.union (all sets)).union r := by ac_rfl

end Reasons

namespace Throttle

/-- What a caller can do with a throttle. -/
inductive Op where
  | request (reasons : Reasons)
  | poll (now : Instant)
  | take (now : Instant)
  | discard
  | reset

def perform (t : Throttle) : Op → Throttle × Option Reasons
  | .request reasons => (t.request reasons, none)
  | .poll now => t.poll now
  | .take now => t.take now
  | .discard => (t.discard.1, some t.discard.2)
  | .reset => (t.reset, none)

/-- One operation of a run, with what waited before it and what it handed out. -/
structure Entry where
  op : Op
  before : Reasons
  answer : Option Reasons

def record (x : Throttle × List Entry) (op : Op) : Throttle × List Entry :=
  ((x.1.perform op).1, x.2 ++ [⟨op, x.1.pending, (x.1.perform op).2⟩])

/-- Do some operations with a new throttle, and write them down. -/
def run (frame : Nat) (ops : List Op) : Throttle × List Entry := ops.foldl record ({ frame }, [])

namespace Entry

def asked (e : Entry) : Reasons :=
  match e.op with
  | .request reasons => reasons
  | _ => .none

def handed (e : Entry) : Reasons := e.answer.getD .none

/-- The reasons that a reset forgets. -/
def forgotten (e : Entry) : Reasons :=
  match e.op with
  | .reset => e.before
  | _ => .none

def resets (e : Entry) : Bool :=
  match e.op with
  | .reset => true
  | _ => false

/-- Nothing waits any more: a release, a discard or a reset. -/
def clears (e : Entry) : Bool :=
  match e.op with
  | .request _ => false
  | .poll _ | .take _ => e.answer.isSome
  | .discard | .reset => true

/-- The release of an entry. That of a poll is paced. -/
def release? (e : Entry) : Option Release :=
  match e.op, e.answer with
  | .poll now, some _ => some ⟨now, true⟩
  | .take now, some _ => some ⟨now, false⟩
  | _, _ => none

/-- What an entry tells of the throttle before and after it. -/
structure Tells (e : Entry) (t t' : Throttle) : Prop where
  frame : t'.frame = t.frame
  pending : t'.pending = if e.clears then .none else t.pending.union e.asked
  answer : ∀ reasons ∈ e.answer, reasons = e.before
  /-- What goes out and what stays is what was there before and what is asked for. -/
  conserved : (e.handed.union e.forgotten).union t'.pending = t.pending.union e.asked
  frames : t'.frames = t.frames + e.release?.toList.length
  released : ∀ x ∈ e.release?, e.answer = some t.pending ∧ t.hasPending = true ∧
    (x.paced = true → t.frameOver x.time = true)
  last : t'.lastRelease =
    if e.resets then none else (e.release?.map Release.time).or t.lastRelease

end Entry

variable {t t' : Throttle} {e : Entry} {frame : Nat} {log : List Entry}

theorem poll_cases (now : Instant) (t : Throttle) :
    (t.poll now = (t, none) ∧ (t.hasPending && t.frameOver now) = false) ∨
      t.poll now = ((t.release now).1, some t.pending) ∧ t.hasPending = true ∧
        t.frameOver now = true := by
  rw [poll]
  rcases hready : t.hasPending && t.frameOver now with _ | _
  · exact .inl ⟨rfl, rfl⟩
  · exact .inr ⟨rfl, Bool.and_eq_true_iff.1 hready⟩

theorem take_cases (now : Instant) (t : Throttle) :
    (t.take now = (t, none) ∧ t.hasPending = false) ∨
      t.take now = ((t.release now).1, some t.pending) ∧ t.hasPending = true := by
  rw [take]
  rcases hpending : t.hasPending with _ | _
  · exact .inl ⟨rfl, rfl⟩
  · exact .inr ⟨rfl, rfl⟩

theorem tells_quiet (t : Throttle) (op : Op)
    (hclears : (Entry.mk op t.pending none).clears = false) :
    Entry.Tells ⟨op, t.pending, none⟩ t
      { t with pending := t.pending.union (Entry.mk op t.pending none).asked } := by
  have hkind : (Entry.mk op t.pending none).release? = none ∧
      (Entry.mk op t.pending none).forgotten = .none ∧
      (Entry.mk op t.pending none).resets = false := by
    cases op with
    | request _ | poll _ | take _ => exact ⟨rfl, rfl, rfl⟩
    | discard | reset => cases hclears
  obtain ⟨hrelease, hforgotten, hresets⟩ := hkind
  refine ⟨rfl, ?_, ?_, ?_, ?_, ?_, ?_⟩
  · rw [hclears, if_neg Bool.false_ne_true]
  · intro reasons hreasons
    cases hreasons
  · rw [hforgotten, Entry.handed, Option.getD_none, Reasons.none_union, Reasons.none_union]
  · rw [hrelease]
    rfl
  · rw [hrelease]
    intro x hx
    cases hx
  · rw [hrelease, hresets, if_neg Bool.false_ne_true]
    rfl

theorem tells_release (t : Throttle) (op : Op) {x : Release}
    (hrelease : (Entry.mk op t.pending (some t.pending)).release? = some x)
    (hpending : t.hasPending = true) (hpaced : x.paced = true → t.frameOver x.time = true) :
    Entry.Tells ⟨op, t.pending, some t.pending⟩ t (t.release x.time).1 := by
  have hkind : (Entry.mk op t.pending (some t.pending)).clears = true ∧
      (Entry.mk op t.pending (some t.pending)).asked = .none ∧
      (Entry.mk op t.pending (some t.pending)).forgotten = .none ∧
      (Entry.mk op t.pending (some t.pending)).resets = false := by
    cases op with
    | poll _ | take _ => exact ⟨rfl, rfl, rfl, rfl⟩
    | request _ | discard | reset => cases hrelease
  obtain ⟨hclears, hasked, hforgotten, hresets⟩ := hkind
  refine ⟨rfl, ?_, ?_, ?_, ?_, ?_, ?_⟩
  · rw [hclears, if_pos rfl]
    rfl
  · rintro _ ⟨rfl⟩
    rfl
  · rw [hforgotten, hasked, Entry.handed, Option.getD_some, Reasons.union_none]
    exact Reasons.union_none _
  · rw [hrelease]
    rfl
  · rw [hrelease]
    rintro _ ⟨rfl⟩
    exact ⟨rfl, hpending, hpaced⟩
  · rw [hrelease, hresets, if_neg Bool.false_ne_true]
    rfl

/-- What an operation does is what its entry tells. -/
theorem perform_tells (t : Throttle) (op : Op) :
    Entry.Tells ⟨op, t.pending, (t.perform op).2⟩ t (t.perform op).1 := by
  have hnothing : ∀ {β : Type} {P : β → Prop}, ∀ x ∈ (none : Option β), P x := by
    intro β P x hx
    cases hx
  -- a poll or take that waits asks for nothing, so what waited waits on
  have hwaits : ({ t with pending := t.pending.union .none } : Throttle) = t := by
    rw [Reasons.union_none]
  cases op with
  | request reasons => exact tells_quiet t (.request reasons) rfl
  | poll now =>
    rcases poll_cases now t with ⟨hwait, _⟩ | ⟨hrelease, hpending, hover⟩
    · have hquiet := tells_quiet t (.poll now) rfl
      rw [Entry.asked, hwaits] at hquiet
      rw [perform, hwait]
      exact hquiet
    · rw [perform, hrelease]
      exact tells_release t (.poll now) rfl hpending fun _ => hover
  | take now =>
    rcases take_cases now t with ⟨hwait, _⟩ | ⟨hrelease, hpending⟩
    · have hquiet := tells_quiet t (.take now) rfl
      rw [Entry.asked, hwaits] at hquiet
      rw [perform, hwait]
      exact hquiet
    · rw [perform, hrelease]
      exact tells_release t (.take now) rfl hpending fun hpaced =>
        absurd hpaced Bool.false_ne_true
  | discard =>
    refine ⟨rfl, rfl, ?_, ?_, rfl, hnothing, rfl⟩
    · rintro _ ⟨rfl⟩
      rfl
    · simp [perform, Entry.handed, Entry.forgotten, Entry.asked, discard]
  | reset =>
    refine ⟨rfl, rfl, hnothing, ?_, rfl, hnothing, rfl⟩
    simp [perform, Entry.handed, Entry.forgotten, Entry.asked, reset]

/-! ## The account of a run -/

/-- The releases since the last reset, or since the throttle was made. -/
def recent (log : List Entry) : List Release :=
  (log.rtakeWhile (!·.resets)).filterMap Entry.release?

/-- What the log of a run tells of its throttle. -/
structure Accounts (frame : Nat) (log : List Entry) (t : Throttle) : Prop where
  throttle : t.frame = frame
  pending : t.pending = .all ((log.rtakeWhile (!·.clears)).map Entry.asked)
  conserved : ((Reasons.all (log.map Entry.handed)).union
    (.all (log.map Entry.forgotten))).union t.pending = .all (log.map Entry.asked)
  frames : t.frames = (log.filterMap Entry.release?).length
  released : ∀ e ∈ log, e.release?.isSome = true →
    ∃ reasons, e.answer = some reasons ∧ reasons.isEmpty = false
  last : t.lastRelease = (recent log).getLast?.map Release.time
  apart : 0 < frame → (recent log).IsChain (Release.Apart frame)

theorem Accounts.nil (frame : Nat) : Accounts frame [] { frame } :=
  ⟨rfl, rfl, (Reasons.union_none _).trans (Reasons.union_none _), rfl,
    fun _ he => absurd he List.not_mem_nil, rfl, fun _ => .nil⟩

theorem recent_concat (log : List Entry) (e : Entry) :
    recent (log ++ [e]) = if e.resets then [] else recent log ++ e.release?.toList := by
  rw [recent, List.rtakeWhile_concat]
  rcases e.resets with _ | _
  · simp only [Bool.not_false, if_true, Bool.false_eq_true, if_false, List.filterMap_append, recent]
    rcases hrelease : e.release? with _ | x <;> simp [hrelease]
  · rfl

/-- One more operation keeps the account. -/
theorem Accounts.concat (h : Accounts frame log t) (he : e.Tells t t') :
    Accounts frame (log ++ [e]) t' where
  throttle := he.frame.trans h.throttle
  pending := by
    rw [he.pending, List.rtakeWhile_concat]
    rcases e.clears with _ | _
    · simp only [Bool.not_false, if_true, Bool.false_eq_true, if_false, List.map_append,
        List.map_singleton, Reasons.all_concat, h.pending]
    · rfl
  conserved := by
    simp only [List.map_append, List.map_singleton, Reasons.all_concat]
    rw [← h.conserved]
    generalize Reasons.all (log.map Entry.handed) = handed
    generalize Reasons.all (log.map Entry.forgotten) = forgotten
    calc ((handed.union e.handed).union (forgotten.union e.forgotten)).union t'.pending
      _ = (handed.union forgotten).union ((e.handed.union e.forgotten).union t'.pending) := by
        ac_rfl
      _ = (handed.union forgotten).union (t.pending.union e.asked) := by rw [he.conserved]
      _ = ((handed.union forgotten).union t.pending).union e.asked := by ac_rfl
  frames := by
    rw [he.frames, h.frames, List.filterMap_append, List.length_append]
    rcases hrelease : e.release? with _ | x <;> simp [hrelease]
  released := by
    intro x hx hsome
    rcases List.mem_append.1 hx with hx | hx
    · exact h.released x hx hsome
    · obtain rfl := List.mem_singleton.1 hx
      obtain ⟨r, hr⟩ := Option.isSome_iff_exists.1 hsome
      obtain ⟨hanswer, hpending, _⟩ := he.released r hr
      exact ⟨_, hanswer, by simpa [hasPending] using hpending⟩
  last := by
    rw [he.last, recent_concat, h.last]
    rcases e.resets with _ | _
    · rcases e.release? with _ | x <;> simp
    · rfl
  apart := by
    intro hframe
    rw [recent_concat]
    rcases e.resets with _ | _
    · rcases hrelease : e.release? with _ | x
      · simpa using h.apart hframe
      · -- a poll has waited for the end of the frame of the release before
        refine (h.apart hframe).append (.singleton x) ?_
        rintro last hlast y ⟨rfl⟩ hpaced
        have hover := (he.released x hrelease).2.2 hpaced
        rw [frameOver_iff (h.throttle ▸ hframe), h.last, h.throttle] at hover
        exact hover last.time (Option.mem_map_of_mem _ hlast)
    · exact .nil

theorem run_accounts (frame : Nat) (ops : List Op) :
    Accounts frame (run frame ops).2 (run frame ops).1 := by
  induction ops using List.reverseRecOn with
  | nil => exact .nil frame
  | append_singleton ops op ih =>
    rw [run, List.foldl_append]
    exact ih.concat (perform_tells _ op)

/-! ## When the next release is due -/

theorem Accounts.free (h : Accounts frame log t) (hpending : t.hasPending = true)
    (hnone : recent log = []) (now : Instant) :
    (t.poll now).2 = some t.pending ∧ t.deadline now = .ok (some now) := by
  have hlast : t.lastRelease = none := by
    rw [h.last, hnone]
    rfl
  have hover : t.frameOver now = true := by rw [frameOver, hlast]
  constructor
  · rw [poll, hpending, hover]
    rfl
  · rw [deadline, if_pos hpending, hlast]

/-- With something waiting, a poll releases it exactly from the deadline on. -/
theorem Accounts.due (h : Accounts frame log t) (hpending : t.hasPending = true)
    (hframe : 0 < frame) {x : Release} (hx : (recent log).getLast? = some x) :
    (∀ now, (t.poll now).2 = if x.time + frame ≤ now then some t.pending else none) ∧
    (x.time + frame ≤ lastInstant → ∀ now, t.deadline now = .ok (some (x.time + frame))) := by
  have hlast : t.lastRelease = some x.time := by
    rw [h.last, hx]
    rfl
  constructor
  · intro now
    have hover : t.frameOver now = decide (x.time + frame ≤ now) := by
      rw [Bool.eq_iff_iff, decide_eq_true_iff, frameOver_iff (h.throttle ▸ hframe), hlast,
        h.throttle]
      simp
    rw [poll, hpending, hover, Bool.true_and]
    by_cases hdue : x.time + frame ≤ now
    · rw [if_pos hdue, if_pos (decide_eq_true hdue)]
      rfl
    · rw [if_neg hdue, if_neg (by simpa using hdue)]
  · intro hfits now
    rw [deadline, if_pos hpending, hlast, h.throttle]
    simp [Instant.after, hfits, Except.map]

end Throttle

/-- Unless the clock goes back before a release that is not paced, every paced release adds a frame
to the time since the first of them. -/
theorem Release.apart_frames {frame : Nat} {x : Release} {later : List Release}
    (h : (x :: later).IsChain (Apart frame))
    (hclock : (x :: later).IsChain fun x y => y.paced = false → x.time ≤ y.time) {m : Nat}
    {y : Release} (hy : (later.filter Release.paced)[m]? = some y) :
    x.time + ((m + 1) * frame : Nat) ≤ y.time := by
  induction later generalizing x m with
  | nil => cases hy
  | cons next rest ih =>
    obtain ⟨hnext, hrest⟩ := List.isChain_cons_cons.1 h
    obtain ⟨hback, hclock⟩ := List.isChain_cons_cons.1 hclock
    rcases hpaced : next.paced with _ | _
    · rw [List.filter_cons_of_neg (by rw [hpaced]; exact Bool.false_ne_true)] at hy
      exact Int.le_trans (Int.add_le_add_right (hback hpaced) _) (ih hrest hclock hy)
    · rw [List.filter_cons_of_pos hpaced] at hy
      have hone : x.time + frame ≤ next.time := hnext hpaced
      cases m with
      | zero =>
        cases hy
        rwa [Nat.zero_add, Nat.one_mul]
      | succ m =>
        calc x.time + ((m + 1 + 1) * frame : Nat)
          _ = x.time + frame + ((m + 1) * frame : Nat) := by
            rw [Nat.succ_mul (m + 1), Int.natCast_add, Int.add_assoc, Int.add_comm (frame : Int)]
          _ ≤ next.time + ((m + 1) * frame : Nat) := Int.add_le_add_right hone _
          _ ≤ y.time := ih hrest hclock hy

/-- Reasons are neither lost nor made up, whatever is done with a throttle and at whatever times.

What waits is what has been asked for since the last release, discard or reset. What is handed out
is all that waits, so that with what resets forget and what still waits it is all that has been
asked for. Every frame that is counted has handed out something.

While something waits, a poll before the first release since a reset hands it out, and later one
does so exactly from the deadline on: a frame after the last release. So paced releases keep a frame
apart, unless the clock goes back before a release that is not paced. -/
theorem Throttle.conserves (frame : Nat) (ops : List Op) :
    let t := (run frame ops).1
    let log := (run frame ops).2
    (t.pending = .all ((log.rtakeWhile (!·.clears)).map Entry.asked) ∧
      (∀ op reasons, (t.perform op).2 = some reasons → reasons = t.pending) ∧
      ((Reasons.all (log.map Entry.handed)).union
        (.all (log.map Entry.forgotten))).union t.pending = .all (log.map Entry.asked)) ∧
    (t.frames = (log.filterMap Entry.release?).length ∧
      ∀ e ∈ log, e.release?.isSome = true →
        ∃ reasons, e.answer = some reasons ∧ reasons.isEmpty = false) ∧
    (t.hasPending = true →
      (recent log = [] → ∀ now,
        (t.poll now).2 = some t.pending ∧ t.deadline now = .ok (some now)) ∧
      (0 < frame → ∀ x, (recent log).getLast? = some x →
        (∀ now, (t.poll now).2 = if x.time + frame ≤ now then some t.pending else none) ∧
        (x.time + frame ≤ lastInstant → ∀ now, t.deadline now = .ok (some (x.time + frame))))) ∧
    (0 < frame → ∀ before x later, recent log = before ++ x :: later →
      ((x :: later).IsChain fun x y => y.paced = false → x.time ≤ y.time) →
      ∀ (m : Nat) (y : Release), (later.filter Release.paced)[m]? = some y →
        x.time + ((m + 1) * frame : Nat) ≤ y.time) := by
  have h := run_accounts frame ops
  refine ⟨⟨h.pending, fun op => (perform_tells _ op).answer, h.conserved⟩, ⟨h.frames, h.released⟩,
    fun hpending => ⟨h.free hpending, fun hframe x => h.due hpending hframe⟩, ?_⟩
  intro hframe before x later hrecent hclock m y hy
  have hapart := h.apart hframe
  rw [hrecent] at hapart
  exact Release.apart_frames hapart.right_of_append hclock hy

/-- Reasons that come within a frame are released together at the end of it. -/
example :
    let t := (Throttle.run 16 [.request .scroll, .poll 100, .request .resize, .request .scroll]).1
    (t.poll 115).2 = none ∧ (t.poll 116).2 = some (Reasons.scroll.union .resize) := by
  decide

end ListWindow
