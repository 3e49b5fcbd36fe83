/-!
The registry of rendered elements: for each rendered index the element that shows it. Entries are
kept in ascending order of their indices, and no index has two.
-/
namespace ListWindow

/-- An element with the index it was made for. -/
structure Rendered (ε : Type) where
  index : Nat
  element : ε
  deriving DecidableEq, Repr

structure Registry (ε : Type) where
  entries : List (Rendered ε) := []
  deriving DecidableEq, Repr

namespace Registry

variable {ε : Type}

instance : Inhabited (Registry ε) := ⟨{}⟩

def size (r : Registry ε) : Nat := r.entries.length

def isEmpty (r : Registry ε) : Bool := r.entries.isEmpty

def get? (i : Nat) (r : Registry ε) : Option (Rendered ε) := r.entries.find? (·.index == i)

def contains (i : Nat) (r : Registry ε) : Bool := (r.get? i).isSome

def element? (i : Nat) (r : Registry ε) : Option ε := (r.get? i).map (·.element)

/-- Put an entry at its place, in exchange for one with the same index. -/
def insertSorted (e : Rendered ε) : List (Rendered ε) → List (Rendered ε)
  | [] => [e]
  | x :: rest =>
    if e.index < x.index then e :: x :: rest
    else if e.index = x.index then e :: rest
    else x :: insertSorted e rest

/-- Add an entry and tell which one it replaced. -/
def insert (e : Rendered ε) (r : Registry ε) : Registry ε × Option (Rendered ε) :=
  ({ entries := insertSorted e r.entries }, r.get? e.index)

def remove (i : Nat) (r : Registry ε) : Registry ε × Option (Rendered ε) :=
  ({ entries := r.entries.filter (·.index != i) }, r.get? i)

/-- Change the element of an index in place. -/
def modify (i : Nat) (f : ε → ε) (r : Registry ε) : Registry ε :=
  { entries := r.entries.map fun e => if e.index = i then { e with element := f e.element } else e }

/-- Drop the entries at or past `len` and tell how many there were. -/
def truncate (len : Nat) (r : Registry ε) : Registry ε × Nat :=
  let kept := r.entries.filter (·.index < len)
  ({ entries := kept }, r.size - kept.length)

def indices (r : Registry ε) : List Nat := r.entries.map (·.index)

end Registry

end ListWindow
