import ListWindow.Fault
import ListWindow.Scalar.Basic

/-!
The extent of one item. It starts from a configured value and may be replaced once, by the measured
extent of an element that is already on display.
-/
namespace ListWindow

/-- The stages in the life of a window. -/
inductive Phase where
  | uninitialized
  | ready
  | destroyed
  deriving DecidableEq, Repr, Inhabited

def Phase.name : Phase → String
  | uninitialized => "Uninitialized"
  | ready => "Ready"
  | destroyed => "Destroyed"

/-- Finite and above zero, as every item extent has to be. -/
def Scalar.isExtent (x : Scalar) : Bool := x.isFinite && Scalar.lt 0 x

/-- The item extent in use, whether it was measured, and the stage of life. -/
structure ExtentEstimator where
  extent : Scalar
  measured : Bool := false
  phase : Phase := .uninitialized
  deriving DecidableEq, Repr

namespace ExtentEstimator

def start (extent : Scalar) : Except Fault ExtentEstimator :=
  if extent.isExtent then .ok { extent } else .error .defaultExtentNotPositive

/-- Take the first sample offered; a sample that cannot be an extent leaves the configured one.
Later samples change nothing. -/
def measure (e : ExtentEstimator) (sample : Option Scalar) : ExtentEstimator :=
  match e.phase with
  | .uninitialized =>
    match sample with
    | some x =>
      if x.isExtent then { extent := x, measured := true, phase := .ready }
      else { e with phase := .ready }
    | none => { e with phase := .ready }
  | _ => e

/-- Note that a pass has run. Destruction is final. -/
def markReady (e : ExtentEstimator) : ExtentEstimator :=
  match e.phase with
  | .destroyed => e
  | _ => { e with phase := .ready }

def markDestroyed (e : ExtentEstimator) : ExtentEstimator := { e with phase := .destroyed }

end ExtentEstimator

end ListWindow
