import ListWindow.Event.Subscribers

/-!
Scroll areas. A window watches a scroll area through this interface: it reads where the area is
scrolled to and how large its viewport is, moves it, tells it how large the content is, and
subscribes to its changes. `ScrollArea` is the plain one, which holds whatever it is set to;
`SilentArea` tells nobody.
-/
namespace ListWindow

/-- What a window needs of the scroll area it watches. -/
class Container (κ : Type) where
  scrollOffset : κ → Scalar
  viewportExtent : κ → Scalar
  /-- Move the area, which tells its subscribers as for any other scroll. -/
  setScrollOffset : Arithmetic → Scalar → κ → Channels → κ × Channels
  /-- Learn how large the content is. -/
  setContentExtent : Arithmetic → Scalar → κ → κ
  subscribe : Nat → κ → κ × UInt32
  unsubscribe : UInt32 → κ → κ

/-- A scroll area that is scrolled and sized at will. -/
structure ScrollArea where
  offset : Scalar := 0
  extent : Scalar := 0
  content : Scalar := 0
  subscribers : Subscribers := {}
  deriving DecidableEq, Repr, Inhabited

namespace ScrollArea

/-- Scroll anywhere, and tell. -/
def scrollTo (offset : Scalar) (s : ScrollArea) (cs : Channels) : ScrollArea × Channels :=
  let (subscribers, cs) := s.subscribers.broadcast (.scroll offset) cs
  ({ s with offset, subscribers }, cs)

/-- Change the viewport, and tell. -/
def resize (extent : Scalar) (s : ScrollArea) (cs : Channels) : ScrollArea × Channels :=
  let (subscribers, cs) := s.subscribers.broadcast (.resize extent) cs
  ({ s with extent, subscribers }, cs)

instance : Container ScrollArea where
  scrollOffset s := s.offset
  viewportExtent s := s.extent
  setScrollOffset _ offset s cs := s.scrollTo offset cs
  setContentExtent _ extent s := { s with content := extent }
  subscribe channel s :=
    let (subscribers, handle) := s.subscribers.add channel
    ({ s with subscribers }, handle)
  unsubscribe handle s := { s with subscribers := (s.subscribers.remove handle).1 }

end ScrollArea

/-- A scroll area that keeps its size, tells nobody of its moves and ignores the content. -/
structure SilentArea where
  offset : Scalar := 0
  extent : Scalar := 0
  deriving DecidableEq, Repr, Inhabited

instance : Container SilentArea where
  scrollOffset s := s.offset
  viewportExtent s := s.extent
  setScrollOffset _ offset s cs := ({ s with offset }, cs)
  setContentExtent _ _ s := s
  subscribe _ s := (s, 0)
  unsubscribe _ s := s

end ListWindow
