import ListWindow.Event.Channel

/-!
The list of those who want to hear of viewport changes. Each entry has a handle of its own and
names the channel that is sent to; one channel may be listed several times.
-/
namespace ListWindow

/-- A handle and the channel it stands for. -/
structure Subscription where
  handle : UInt32
  channel : Nat
  deriving DecidableEq, Repr

/-- The listed subscriptions in the order of their registration, and the next handle to give. -/
structure Subscribers where
  entries : List Subscription := []
  nextHandle : UInt32 := 0
  deriving DecidableEq, Repr, Inhabited

namespace Subscribers

/-- List a channel. Handles count up and start again after the last one. -/
def add (channel : Nat) (s : Subscribers) : Subscribers × UInt32 :=
  ({ entries := s.entries ++ [⟨s.nextHandle, channel⟩], nextHandle := s.nextHandle + 1 },
    s.nextHandle)

/-- Take an entry off the list; the answer is whether it was there. -/
def remove (handle : UInt32) (s : Subscribers) : Subscribers × Bool :=
  let kept := s.entries.filter (·.handle != handle)
  ({ s with entries := kept }, kept.length != s.entries.length)

/-- Send an event to the channels of some entries in order, and keep those that are heard. -/
def announce (event : ViewportEvent) : List Subscription → Channels → List Subscription × Channels
  | [], cs => ([], cs)
  | entry :: rest, cs =>
    let (cs, heard) := cs.send entry.channel event
    let (kept, cs) := announce event rest cs
    (if heard then entry :: kept else kept, cs)

/-- Send an event to every listed channel, and drop the entries that nobody hears. -/
def broadcast (event : ViewportEvent) (s : Subscribers) (cs : Channels) : Subscribers × Channels :=
  let (kept, cs) := announce event s.entries cs
  ({ s with entries := kept }, cs)

def size (s : Subscribers) : Nat := s.entries.length

end Subscribers

end ListWindow
