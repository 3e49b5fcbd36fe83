import ListWindow.Range
import ListWindow.Registry

/-!
One pass over the registry. Indices that stay in the range keep their element, which is brought up
to date; indices that enter get a new one; all others are dropped. Without an update function an
element that stays cannot be brought up to date, so it is made anew.
-/
namespace ListWindow

/-- The caller's functions. They may keep a state of their own, and may give up: `create` by
having no element, `update` by answering `false` beside the element as it left it. -/
structure Callbacks (σ α ε : Type) where
  create : σ → α → Nat → σ × Option ε
  update : Option (σ → ε → α → Nat → σ × ε × Bool) := none

/-- What a pass did. -/
structure Stats where
  range : IndexRange := .empty
  created : Nat := 0
  reused : Nat := 0
  dropped : Nat := 0
  deriving DecidableEq, Repr, Inhabited

def Stats.rendered (s : Stats) : Nat := s.created + s.reused

/-- The rest of a pass: the entries it made in ascending order, what it left of the entries from
before, the state of the caller, and why it broke off if it did. -/
structure Progress (σ ε : Type) where
  made : List (Rendered ε)
  left : Registry ε
  caller : σ
  created : Nat := 0
  reused : Nat := 0
  fault : Option Fault := none

variable {σ α ε : Type}

/-- Go through the indices still to do, in order, with what is left of the entries from before. -/
def Progress.run (cb : Callbacks σ α ε) (items : Array α) :
    List Nat → Registry ε → σ → Progress σ ε
  | [], left, caller => { made := [], left, caller }
  | i :: rest, left, caller =>
    match items[i]? with
    | none => { made := [], left, caller }
    | some item =>
      let (left, old) := left.remove i
      match old, cb.update with
      | some e, some update =>
        match update caller e.element item i with
        | (caller, element, true) =>
          let later := run cb items rest left caller
          { later with made := { e with element } :: later.made, reused := later.reused + 1 }
        | (caller, _, false) => { made := [], left, caller, fault := some (.updateFailed i) }
      | _, _ =>
        match cb.create caller item i with
        | (caller, some element) =>
          let later := run cb items rest left caller
          { later with made := ⟨i, element⟩ :: later.made, created := later.created + 1 }
        | (caller, none) => { made := [], left, caller, fault := some (.createFailed i) }

/-- What a pass leaves: its outcome, the registry and the state of the caller. -/
structure Pass (σ ε : Type) where
  outcome : Except Fault Stats
  registry : Registry ε
  caller : σ

/-- Bring the registry to a range of the items. A pass that breaks off leaves the entries it had
made by then and nothing from before. -/
def reconcile (cb : Callbacks σ α ε) (items : Array α) (range : IndexRange) (registry : Registry ε)
    (caller : σ) : Pass σ ε :=
  match range.size with
  | .error fault => ⟨.error fault, registry, caller⟩
  | .ok _ =>
    match range.limits with
    | .error fault => ⟨.error fault, {}, caller⟩
    | .ok _ =>
      let pass := Progress.run cb items (range.indicesBelow items.size) registry caller
      let outcome := match pass.fault with
        | some fault => .error fault
        | none => .ok
          { range, created := pass.created, reused := pass.reused, dropped := pass.left.size }
      ⟨outcome, { entries := pass.made }, pass.caller⟩

end ListWindow
