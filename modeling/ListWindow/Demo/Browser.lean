import ListWindow.Demo.Customers
import ListWindow.Screen.Paint
import ListWindow.Screen.Viewport
import ListWindow.Window.Builder

/-!
A browser for a long list of customers: a header line, the rows in the viewport, and a status line.
Input comes in batches, each later than the frame of the batch before. After a batch the window is
pumped and, if anything has changed, the screen is drawn. A pass that has to wait for the end of the
frame is drawn before the next batch.
-/
namespace ListWindow.Demo

open ListWindow.Screen

/-- A browser with its terminal's size and its clock. -/
structure Browser where
  scene : Scene Viewport Unit Customer Row
  width : Nat
  height : Nat
  /-- Rows edited so far. -/
  edits : Nat := 0
  /-- Whether the screen has to be drawn. -/
  changed : Bool := true
  now : Instant := 0

namespace Browser

def customerCount : Nat := 100000

/-- Rows are made from customers, and changed in place. -/
def callbacks : Callbacks Unit Customer Row where
  create s c index := (s, some (rowOf index c))
  update := some fun s row c index => (s, row.replace (rowText columns c) (rowStyle index c), true)

/-- The window of a browser. Its rows are as high as the header. -/
def builder : Builder Unit Customer Row :=
  let surface := seeded { text := columns.header }
  { surface := some surface
    sample := firstExtent? .binary64 surface
    attached := true
    create := some callbacks.create
    update := callbacks.update
    items := customers customerCount
    config := { overscan := 8 } }

/-- The browser of a window that has been built, if it was. -/
def opened (width height : Nat) :
    Except Fault (Except Error (Window Customer Row)) × World Viewport Unit →
      Except Fault (Option Browser)
  | (.error fault, _) => .error fault
  | (.ok (.error _), _) => .ok none
  | (.ok (.ok window), world) => .ok (some { scene := ⟨window, world⟩, width, height })

/-- Open a browser on a terminal of the given size. Two lines are kept for header and status. -/
def start (width height : Nat) : Except Fault (Option Browser) :=
  opened width height (builder.build .binary64 ⟨Viewport.ofTerminal height 2, #[], ()⟩)

def topIndex (b : Browser) : Nat := b.scene.world.container.offset.toNat maxIndex

def jump (b : Browser) : Browser :=
  { b with scene := (b.scene.scrollToIndex .binary64 (b.scene.window.items.size / 2)).2 }

/-- Give the customer at the top another name. -/
def edit (b : Browser) : Except Fault Browser :=
  match b.scene.window.items[b.topIndex]? with
  | none => .ok b
  | some customer =>
    let edits := b.edits + 1
    let edited := { customer with name := s!"edited #{edits}" }
    match b.scene.updateAt .binary64 callbacks b.topIndex edited with
    | (.error fault, _) => .error fault
    | (.ok _, scene) => .ok { b with scene, edits, changed := true }

/-- Keep the first half of the list, as it was made up. -/
def halve (b : Browser) : Except Fault Browser :=
  let items := customers (max (b.scene.window.items.size / 2) 1)
  match b.scene.setItems .binary64 callbacks b.now items with
  | (.error fault, _) => .error fault
  | (.ok _, scene) => .ok { b with scene, changed := true }

def navigate (event : InputEvent) (b : Browser) : Browser :=
  let world := b.scene.world
  match world.container.apply .binary64 event world.channels with
  | none => b
  | some (container, channels) =>
    { b with scene := { b.scene with world := { world with container, channels } } }

/-- Act on an event; the answer is `none` when the browser is to be closed. -/
def handle (event : InputEvent) (b : Browser) : Except Fault (Option Browser) :=
  match event with
  | .key (.char 'q') _ | .key .escape _ | .shutdown => .ok none
  | .key (.char 'm') _ => .ok (some b.jump)
  | .key (.char 'e') _ => b.edit.map some
  | .key (.char 'h') _ => b.halve.map some
  | .resize width height => .ok (some { b.navigate event with width, height, changed := true })
  | _ => .ok (some (b.navigate event))

/-- Act on events in order, up to one that closes the browser. -/
def handleAll : List InputEvent → Browser → Except Fault (Option Browser)
  | [], b => .ok (some b)
  | event :: rest, b => do
    match ← b.handle event with
    | none => return none
    | some b => handleAll rest b

def headerStyle : Style :=
  { foreground := some .white, background := some ⟨40, 80, 120⟩, modifiers := .bold }

def statusStyle : Style := { foreground := some ⟨160, 160, 160⟩, modifiers := .dim }

def status (b : Browser) : String :=
  let w := b.scene.window
  let offset := b.scene.world.container.offset.plainText
  s!" rows {w.items.size}  rendered {w.registry.size}  range {w.range.describe}  "
    ++ s!"offset {offset}  extent {(w.totalExtent .binary64).plainText}"

/-- A line at the top left of an area. -/
def lineAt (area : Rect) (style : Style) (text : String) : Frame :=
  .moveTo area.x area.y :: style.commands ++ [.text (Text.fit text area.width)]

def draw (b : Browser) : Except Fault Frame := do
  let (header, rest) ← (Rect.ofSize b.width b.height).splitAt 1
  let (body, footer) ← rest.splitAt (rest.height - 1)
  let rows ← paint .binary64 b.scene.world.container.offset body b.scene.window.surface
  return lineAt header headerStyle columns.header ++ rows ++ lineAt footer statusStyle b.status
    ++ [.resetAttributes]

/-- Pump the window, and draw if anything has changed. -/
def refresh (b : Browser) : Except Fault (Browser × List Frame) := do
  let (pass, scene) := b.scene.pump .binary64 callbacks b.now
  let released ← pass
  let changed := b.changed || released.isSome
  let b := { b with scene, changed := false }
  if changed then return (b, [← b.draw]) else return (b, [])

/-- Wait for the end of the frame if a pass waits for it. -/
def settle (b : Browser) : Except Fault (Browser × List Frame) := do
  match ← b.scene.deadline b.now with
  | none => return (b, [])
  | some deadline => refresh { b with now := max b.now deadline }

def nextFrame (b : Browser) : Browser :=
  { b with now := b.now + b.scene.window.throttle.frame + 1 }

/-- Browse through batches of input until one closes the browser, or all are used up. The answer is
the frames drawn, and the number of batches left. -/
def browse : List (List InputEvent) → Browser → Except Fault (List Frame × Nat)
  | [], _ => .ok ([], 0)
  | batch :: rest, b => do
    match ← handleAll batch b.nextFrame with
    | none => return ([], rest.length)
    | some b =>
      let (b, drawn) ← b.refresh
      let (b, late) ← b.settle
      let (frames, left) ← browse rest b
      return (drawn ++ late ++ frames, left)

end Browser

/-- A whole session on a terminal of the given size. -/
def session (width height : Nat) (batches : List (List InputEvent)) :
    Except Fault (List Frame × Nat) := do
  match ← Browser.start width height with
  | none => return ([], batches.length)
  | some b => b.browse batches

end ListWindow.Demo
