import ListWindow.Text.Cluster
import ListWindow.Text.Width

/-!
Fitting a text into a number of terminal cells. A text that is short enough is filled up with
blanks; a longer one is cut between two clusters and ends in an ellipsis. What a cluster is and how
wide a text is are given by a ruler, so that fitting does not depend on them; `terminal` is the one
in use.
-/
namespace ListWindow.Text

def blanks (n : Nat) : List Char := List.replicate n ' '

/-- The mark of a text that was cut. -/
def ellipsis : Char := '\u2026'

/-- How a text is parted into clusters, and the cells that a text takes. -/
structure Ruler where
  clusters : List Char → List Cluster
  width : List Char → Nat
  flatten_clusters : ∀ cs, (clusters cs).flatten = cs

namespace Ruler

/-- The first clusters that take at most `room` cells together, each measured by itself. -/
def clustersWithin (r : Ruler) (room : Nat) : List Cluster → List Cluster
  | [] => []
  | g :: rest =>
    if r.width g ≤ room then g :: r.clustersWithin (room - r.width g) rest else []

def clusterWidth (r : Ruler) : List Cluster → Nat
  | [] => 0
  | g :: rest => r.width g + r.clusterWidth rest

/-- Cut a text that takes more than `room + 1` cells. -/
def cut (r : Ruler) (cs : List Char) (room : Nat) : List Char :=
  let kept := r.clustersWithin room (r.clusters cs)
  kept.flatten ++ ellipsis :: blanks (room - r.clusterWidth kept)

/-- Fit a text into `cells` cells. -/
def fitChars (r : Ruler) (cs : List Char) (cells : Nat) : List Char :=
  if r.width cs ≤ cells then cs ++ blanks (cells - r.width cs)
  else
    match cells with
    | 0 => []
    | room + 1 => r.cut cs room

end Ruler

def terminal : Ruler := ⟨clusters, width, flatten_clusters⟩

def displayWidth (s : String) : Nat := width s.toList

/-- Fit a string into `cells` cells of a terminal. -/
def fit (s : String) (cells : Nat) : String := String.ofList (terminal.fitChars s.toList cells)

end ListWindow.Text
