import ListWindow.Window.Builder
import Mathlib.Logic.Relation

/-!
Runs of a window. `Request` lists what a caller can ask of a window and `Scene.perform` does it.
A run starts from a window that was built in some world; in every step either the caller asks for
something, or others change the world in a way that is open to them. Only requests in which the
caller's functions do not give up belong to a run.
-/
namespace ListWindow

variable {κ σ α ε : Type}

/-- What a caller can ask of a window. A direct pass is the same whether the caller has scrolled,
resized or merely wants one. -/
inductive Request (α : Type) where
  | setItems (now : Instant) (items : Array α)
  | updateAt (index : Nat) (item : α)
  | scrollToIndex (index : Nat)
  | pump (now : Instant)
  | flush (now : Instant)
  | render
  | destroy

/-- Collections have no more items than there are item indices. -/
def Request.Fits : Request α → Prop
  | setItems _ items => items.size ≤ maxIndex
  | _ => True

inductive Answer where
  | stats (outcome : Except Fault Stats)
  | pass (outcome : Except Fault (Option Stats))
  | update (outcome : Except Fault (Except Error UpdateOutcome))
  | offset (offset : Scalar)
  | silent

namespace Answer

def fault? : Answer → Option Fault
  | .stats (.error fault) | .pass (.error fault) | .update (.error fault) => some fault
  | _ => none

/-- The statistics of a pass, where the answer gives them. -/
def stats? : Answer → Option Stats
  | .stats (.ok st) | .pass (.ok (some st)) => some st
  | _ => none

/-- Whether a pass was run to its end. -/
def ranPass : Answer → Bool
  | .stats (.ok _) | .pass (.ok (some _)) | .update (.ok (.ok .rerendered)) => true
  | _ => false

end Answer

/-- Faults of the caller's own functions. -/
def Fault.ofCaller : Fault → Bool
  | createFailed _ | updateFailed _ => true
  | _ => false

namespace Scene

variable [Container κ]

def perform (a : Arithmetic) (cb : Callbacks σ α ε) (r : Request α) (s : Scene κ σ α ε) :
    Answer × Scene κ σ α ε :=
  match r with
  | .setItems now items => let (outcome, s) := s.setItems a cb now items; (.stats outcome, s)
  | .updateAt index item => let (outcome, s) := s.updateAt a cb index item; (.update outcome, s)
  | .scrollToIndex index => let (offset, s) := s.scrollToIndex a index; (.offset offset, s)
  | .pump now => let (outcome, s) := s.pump a cb now; (.pass outcome, s)
  | .flush now => let (outcome, s) := s.flush a cb now; (.pass outcome, s)
  | .render => let (outcome, s) := s.render a cb; (.stats outcome, s)
  | .destroy => (.silent, s.destroy)

/-- The caller's functions do not give up in a request. -/
def Unbroken (a : Arithmetic) (cb : Callbacks σ α ε) (r : Request α) (s : Scene κ σ α ε) : Prop :=
  ∀ fault, (s.perform a cb r).1.fault? = some fault → fault.ofCaller = false

/-- One step of a run, and whether it ran a pass. -/
inductive Step (a : Arithmetic) (cb : Callbacks σ α ε) (outside : World κ σ → World κ σ → Prop) :
    Bool → Scene κ σ α ε → Scene κ σ α ε → Prop where
  | ask {s : Scene κ σ α ε} (r : Request α) : r.Fits → s.Unbroken a cb r →
      Step a cb outside (!s.window.isDestroyed && (s.perform a cb r).1.ranPass) s
        (s.perform a cb r).2
  | outside {s : Scene κ σ α ε} {w : World κ σ} : outside s.world w →
      Step a cb outside false s { s with world := w }

end Scene

/-- The scene of a window just built in a world that satisfies `start`, from no more items than
there are item indices. -/
def Built [Container κ] (a : Arithmetic) (cb : Callbacks σ α ε) (start : World κ σ → Prop)
    (s : Scene κ σ α ε) : Prop :=
  ∃ (b : Builder σ α ε) (w : World κ σ), start w ∧ b.items.size ≤ maxIndex ∧
    (∃ surface, b.parts = .ok (surface, cb)) ∧ b.build a w = (.ok (.ok s.window), s.world)

/-- The scenes of all runs: a window is built in a world that satisfies `start`, and steps are
taken from there, between which the world may change as `outside` allows. -/
def Reachable [Container κ] (a : Arithmetic) (cb : Callbacks σ α ε) (start : World κ σ → Prop)
    (outside : World κ σ → World κ σ → Prop) (s : Scene κ σ α ε) : Prop :=
  ∃ s₀, Built a cb start s₀ ∧
    Relation.ReflTransGen (fun x y => ∃ ran, Scene.Step a cb outside ran x y) s₀ s

/-- The scenes of all runs in which a pass has just ended: that of a window just built, and those
after a step that ran a pass. -/
def JustDrawn [Container κ] (a : Arithmetic) (cb : Callbacks σ α ε) (start : World κ σ → Prop)
    (outside : World κ σ → World κ σ → Prop) (s : Scene κ σ α ε) : Prop :=
  Built a cb start s ∨
    ∃ s₀, Reachable a cb start outside s₀ ∧ Scene.Step a cb outside true s₀ s

/-- The steps since a pass. -/
def SincePass [Container κ] (a : Arithmetic) (cb : Callbacks σ α ε)
    (outside : World κ σ → World κ σ → Prop) : Scene κ σ α ε → Scene κ σ α ε → Prop :=
  Relation.ReflTransGen (Scene.Step a cb outside false)

/-- Others may do with the world whatever they want. -/
def anything (_ _ : World κ σ) : Prop := True

def anywhere (_ : World κ σ) : Prop := True

section Induction

variable [Container κ] {a : Arithmetic} {cb : Callbacks σ α ε} {start : World κ σ → Prop}
  {outside : World κ σ → World κ σ → Prop}

/-- What holds of a window just built and is kept by every step holds in every run. -/
theorem Reachable.invariant {P : Scene κ σ α ε → Prop} (hbuilt : ∀ s, Built a cb start s → P s)
    (hstep : ∀ ran s s', Scene.Step a cb outside ran s s' → P s → P s') {s : Scene κ σ α ε}
    (h : Reachable a cb start outside s) : P s := by
  obtain ⟨s₀, hs₀, hrun⟩ := h
  induction hrun with
  | refl => exact hbuilt _ hs₀
  | tail _ hlast ih =>
    obtain ⟨ran, hlast⟩ := hlast
    exact hstep ran _ _ hlast ih

theorem Reachable.step {s s' : Scene κ σ α ε} {ran : Bool} (h : Reachable a cb start outside s)
    (hstep : Scene.Step a cb outside ran s s') : Reachable a cb start outside s' := by
  obtain ⟨s₀, hs₀, hrun⟩ := h
  exact ⟨s₀, hs₀, hrun.tail ⟨ran, hstep⟩⟩

theorem JustDrawn.reachable {s : Scene κ σ α ε} (h : JustDrawn a cb start outside s) :
    Reachable a cb start outside s := by
  rcases h with hbuilt | ⟨s₀, hreach, hstep⟩
  · exact ⟨s, hbuilt, .refl⟩
  · exact hreach.step hstep

theorem Reachable.since_pass {s : Scene κ σ α ε} (h : Reachable a cb start outside s) :
    ∃ drawn, JustDrawn a cb start outside drawn ∧ SincePass a cb outside drawn s := by
  obtain ⟨s₀, hs₀, hrun⟩ := h
  induction hrun with
  | refl => exact ⟨s₀, .inl hs₀, .refl⟩
  | tail hbefore hlast ih =>
    obtain ⟨ran, hlast⟩ := hlast
    obtain ⟨drawn, hdrawn, hsince⟩ := ih
    cases ran with
    | false => exact ⟨drawn, hdrawn, hsince.tail hlast⟩
    | true => exact ⟨_, .inr ⟨_, ⟨s₀, hs₀, hbefore⟩, hlast⟩, .refl⟩

end Induction

end ListWindow
