import ListWindow.Scalar.Basic

/-!
Bounded event channels. A scroll area sends the changes of its viewport into channels, and whoever
listens takes them out in the order in which they came. A full channel drops what is sent: the
listener reads the geometry afresh anyway, so the events already waiting cover the dropped one.
-/
namespace ListWindow

/-- A change of a viewport. -/
inductive ViewportEvent where
  | scroll (offset : Scalar)
  | resize (extent : Scalar)
  deriving DecidableEq, Repr

/-- One channel: room for `capacity` waiting events, while somebody listens. -/
structure Channel where
  capacity : Nat
  queue : List ViewportEvent := []
  listening : Bool := true
  deriving DecidableEq, Repr, Inhabited

namespace Channel

def ofCapacity (capacity : Nat) : Channel := { capacity := max capacity 1 }

/-- Send an event. It waits at the end of the queue when there is room and is dropped otherwise;
the answer is whether anybody listens. -/
def send (event : ViewportEvent) (c : Channel) : Channel × Bool :=
  if c.listening then
    if c.queue.length < c.capacity then ({ c with queue := c.queue ++ [event] }, true)
    else (c, true)
  else (c, false)

def receive (c : Channel) : Channel × Option ViewportEvent :=
  match c.queue with
  | [] => (c, none)
  | event :: rest => ({ c with queue := rest }, some event)

def drain (c : Channel) : Channel × List ViewportEvent := ({ c with queue := [] }, c.queue)

/-- Stop listening: what waits is lost. -/
def close (c : Channel) : Channel := { c with queue := [], listening := false }

end Channel

/-- All channels ever opened; a channel is known by its place. -/
abbrev Channels := Array Channel

namespace Channels

/-- Open a channel and tell its place. -/
def openWith (capacity : Nat) (cs : Channels) : Channels × Nat :=
  (cs.push (.ofCapacity capacity), cs.size)

def send (id : Nat) (event : ViewportEvent) (cs : Channels) : Channels × Bool :=
  match cs[id]? with
  | none => (cs, false)
  | some c => (cs.setIfInBounds id (c.send event).1, (c.send event).2)

def receive (id : Nat) (cs : Channels) : Channels × Option ViewportEvent :=
  match cs[id]? with
  | none => (cs, none)
  | some c => (cs.setIfInBounds id c.receive.1, c.receive.2)

def drain (id : Nat) (cs : Channels) : Channels × List ViewportEvent :=
  match cs[id]? with
  | none => (cs, [])
  | some c => (cs.setIfInBounds id c.drain.1, c.drain.2)

def close (id : Nat) (cs : Channels) : Channels :=
  match cs[id]? with
  | none => cs
  | some c => cs.setIfInBounds id c.close

end Channels

end ListWindow
