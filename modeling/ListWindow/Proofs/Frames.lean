import ListWindow.Proofs.Browsing
import ListWindow.Proofs.Painting
import ListWindow.Proofs.Partition

/-!
Every frame of a browser tiles the screen and shows the present customers. It is a header, the lines
of the viewport, each with the row of the customer there or blank, and a status line
(`Browser.Tiles`); no line is blank whose customer the last pass has seen. This holds of every frame
of every run that a terminal allows (`frames_tile`).
-/
namespace ListWindow.Demo

open ListWindow.Screen

namespace Browser

variable {b b' : Browser}

/-! ## A frame -/

def body (b : Browser) : Rect :=
  { y := min 1 b.height, width := b.width, height := b.height - 2 }

def lines (b : Browser) (rows : List PlacedRow) : List ((Nat × Nat) × Pen × String) :=
  ((0, 0), headerStyle.pen, Text.fit columns.header b.width) ::
    (rows.map (rowPrint b.body) ++ (clearedLines (b.height - 2) rows).map (blankPrint b.body)) ++
    [((0, min 1 b.height + (b.height - 2)), statusStyle.pen, Text.fit b.status b.width)]

/-- The rows of the window on the lines between header and status line. -/
def rowsShown (b : Browser) : List PlacedRow :=
  paintedRows .binary64 b.scene.world.container.offset (b.height - 2) b.scene.window.surface

theorem screen_split (hfits : b.height ≤ maxCell) :
    let top := min 1 b.height
    (Rect.ofSize b.width b.height).splitAt 1 =
      .ok ({ width := b.width, height := top },
        { y := top, width := b.width, height := b.height - top }) ∧
    Rect.splitAt { y := top, width := b.width, height := b.height - top } (b.height - top - 1) =
      .ok (b.body, { y := top + (b.height - 2), width := b.width, height := min 1 (b.height - 1) })
    := by
  have hscreen : (Rect.ofSize b.width b.height).y + (Rect.ofSize b.width b.height).height ≤
      maxCell := by
    show 0 + b.height ≤ _
    omega
  have hrest : min 1 b.height + (b.height - min 1 b.height) ≤ maxCell := by omega
  have hbody : min (b.height - min 1 b.height - 1) (b.height - min 1 b.height) = b.height - 2 := by
    omega
  have hfooter : b.height - min 1 b.height - (b.height - 2) = min 1 (b.height - 1) := by omega
  constructor
  · rw [Rect.splitAt_eq hscreen, Rect.ofSize, Nat.zero_add]
  · rw [Rect.splitAt_eq hrest]
    dsimp only
    rw [hbody, hfooter]
    rfl

theorem read_lineAt (r : Reading) (area : Rect) (style : Style) (text : String) :
    r.read (lineAt area style text) =
      r.written [((area.x, area.y), style.pen, Text.fit text area.width)] style.pen :=
  r.read_line area.x area.y style _

/-- A frame is drawn on a screen of any height. It reads as the header, the rows of the window or
blanks, and the status line. -/
theorem draw_reads (hfits : b.height ≤ maxCell) :
    ∃ frame, b.draw = .ok frame ∧ ∀ r : Reading, ∃ pen,
      r.read frame = r.written (b.lines b.rowsShown) pen := by
  have hbody : b.body.y + b.body.height ≤ maxCell := by
    show min 1 b.height + (b.height - 2) ≤ _
    omega
  obtain ⟨painted, hpaint, hreads⟩ := paint_reads .binary64 b.scene.world.container.offset hbody
    b.scene.window.surface
  obtain ⟨hfirst, hsecond⟩ := screen_split hfits
  refine ⟨lineAt { width := b.width, height := min 1 b.height } headerStyle columns.header ++
    painted ++
    lineAt
      { y := min 1 b.height + (b.height - 2), width := b.width, height := min 1 (b.height - 1) }
      statusStyle b.status ++ [.resetAttributes], ?_, fun r => ⟨{}, ?_⟩⟩
  · rw [draw, hfirst]
    simp only [bind, Except.bind, hsecond, hpaint]
    rfl
  · rw [Reading.read_append, Reading.read_append, Reading.read_append, read_lineAt, hreads _ rfl,
      read_lineAt, Reading.written_append, Reading.written_append]
    rfl

/-! ## The lines of a frame -/

theorem Sound.top (h : b.Sound) :
    b.topIndex ≤ customerCount ∧ b.scene.world.container.offset.IsWhole b.topIndex := by
  obtain ⟨top, hlimit, hoffset⟩ := h.line.offset
  have hindex : top ≤ maxIndex := hlimit.trans (by decide)
  have htop : b.topIndex = top := by
    rw [topIndex, Scalar.toNat_finite maxIndex hoffset.finite, hoffset.value, Int.floor_intCast,
      Int.toNat_natCast, min_eq_left hindex]
  rw [htop]
  exact ⟨hlimit, hoffset⟩

theorem Sound.element (h : b.Sound) {e : Rendered Row} (he : e ∈ b.scene.window.registry.entries) :
    ∃ c, b.scene.window.items[e.index]? = some c ∧ e.element = rowOf e.index c :=
  h.reach.fresh callbacks_shows e he

/-- The rows shown are those of the registry between the top and the bottom of the body. -/
theorem Sound.rowsShown_eq (h : b.Sound) :
    b.rowsShown =
      (b.scene.window.registry.entries.filterMap (lineIn? b.topIndex (b.height - 2))).filter
        (·.line < b.height - 2) := by
  have hrows : ∀ e ∈ b.scene.window.registry.entries, e.element.height = 1 := by
    intro e he
    obtain ⟨c, _, hrow⟩ := h.element he
    rw [hrow]
    rfl
  obtain ⟨hlimit, htop⟩ := h.top
  have hfits := h.fits
  have hsize := h.size
  have hroom := room.2.2
  rw [rowsShown, paintedRows, visibleRows_lines Arithmetic.holds_binary64 h.reach.consistent
    h.extent hrows htop (by omega) (by omega)]

theorem Sound.mem_rowsShown (h : b.Sound) {p : PlacedRow} :
    p ∈ b.rowsShown ↔ ∃ e ∈ b.scene.window.registry.entries,
      e.index = b.topIndex + p.line ∧ p.line < b.height - 2 ∧
        p = ⟨p.line, e.index, e.element⟩ := by
  rw [h.rowsShown_eq, List.mem_filter, List.mem_filterMap, decide_eq_true_iff]
  constructor
  · rintro ⟨⟨e, he, hplaced⟩, hline⟩
    obtain ⟨hin, rfl⟩ := lineIn?_eq_some.1 hplaced
    have hindex : e.index = b.topIndex + (e.index - b.topIndex) := by omega
    exact ⟨e, he, hindex, hline, rfl⟩
  · rintro ⟨e, he, hindex, hline, hp⟩
    have hsub : e.index - b.topIndex = p.line := by omega
    refine ⟨⟨e, he, lineIn?_eq_some.2 ⟨by omega, ?_⟩⟩, hline⟩
    rw [hsub]
    exact hp

theorem Sound.rowsShown_nodup (h : b.Sound) : (b.rowsShown.map (·.line)).Nodup := by
  have hindices : b.scene.window.registry.entries.Pairwise fun e e' => e.index ≠ e'.index :=
    List.pairwise_map.1 h.reach.consistent.nodup
  rw [h.rowsShown_eq, List.Nodup, List.pairwise_map]
  refine List.Pairwise.filter _ (List.Pairwise.filterMap _ ?_ hindices)
  intro e e' hne p hp p' hp'
  obtain ⟨hin, rfl⟩ := lineIn?_eq_some.1 hp
  obtain ⟨hin', rfl⟩ := lineIn?_eq_some.1 hp'
  show e.index - b.topIndex ≠ e'.index - b.topIndex
  omega

/-- On line `k` below the header stands the row of the customer `k` below the top. -/
def ShowsRow (b : Browser) (r : Reading) (k : Nat) : Prop :=
  ∃ c, b.scene.window.items[b.topIndex + k]? = some c ∧
    ⟨some (0, k + 1), (rowStyle (b.topIndex + k) c).pen, Text.fit (rowText columns c) b.width⟩ ∈
      r.prints

def ShowsBlank (b : Browser) (r : Reading) (k : Nat) : Prop :=
  ⟨some (0, k + 1), Style.plain.pen, String.ofList (Text.blanks b.width)⟩ ∈ r.prints

/-- A frame of a browser tiles its screen and shows the present customers. -/
structure Tiles (b : Browser) (r : Reading) : Prop where
  /-- It moves the cursor and writes, and does nothing else. -/
  others : r.others = []
  /-- The cursor goes to the start of every line once, and nowhere else. -/
  moves : r.moves.Perm ((List.range b.height).map fun y => (0, y))
  /-- A text is written wherever it goes. -/
  places : r.prints.map (·.place) = r.moves.map some
  header : ⟨some (0, 0), headerStyle.pen, Text.fit columns.header b.width⟩ ∈ r.prints
  status : ⟨some (0, b.height - 1), statusStyle.pen, Text.fit b.status b.width⟩ ∈ r.prints
  /-- The viewport is at the start of a line. -/
  top : b.scene.world.container.offset.toRat = b.topIndex
  body : ∀ k, k + 2 < b.height → b.ShowsRow r k ∨ b.ShowsBlank r k
  /-- What the last pass has seen is shown. -/
  seen : b.scene.window.geometry = Container.geometry b.scene.world.container →
    ∀ k, k + 2 < b.height → b.topIndex + k < b.scene.window.items.size → b.ShowsRow r k

theorem Sound.body_lines (h : b.Sound) :
    (b.rowsShown.map (·.line) ++ clearedLines (b.height - 2) b.rowsShown).Perm
      (List.range (b.height - 2)) :=
  painted_lines h.rowsShown_nodup fun _ hp => by
    obtain ⟨_, _, _, hline, _⟩ := h.mem_rowsShown.1 hp
    exact hline

theorem Sound.lines_perm (h : b.Sound) (hheight : 2 ≤ b.height) :
    ((b.lines b.rowsShown).map (·.1)).Perm ((List.range b.height).map fun y => (0, y)) := by
  obtain ⟨n, hn⟩ : ∃ n, b.height = n + 2 := ⟨b.height - 2, by omega⟩
  have hbody : b.height - 2 = n := by omega
  have htop : min 1 b.height = 1 := by omega
  have hrange : (List.range b.height).map (fun y => ((0 : Nat), y)) =
      (0, 0) :: (List.range n).map (fun y => (0, 1 + y)) ++ [(0, 1 + n)] := by
    rw [hn, List.range_succ, List.range_succ_eq_map]
    simp [Function.comp_def, Nat.add_comm]
  have hlines : (b.lines b.rowsShown).map (·.1) =
      (0, 0) :: (b.rowsShown.map (·.line) ++ clearedLines (b.height - 2) b.rowsShown).map
        (fun y => (0, 1 + y)) ++ [(0, 1 + n)] := by
    simp [lines, htop, hbody, rowPrint, blankPrint, body, Function.comp_def]
  rw [hrange, hlines, ← hbody]
  exact ((h.body_lines.map _).cons _).append_right _

theorem mem_prints {texts : List ((Nat × Nat) × Pen × String)} {place : Nat × Nat} {pen : Pen}
    {text : String} (h : (place, pen, text) ∈ texts) (r : Reading) (last : Pen) :
    ⟨some place, pen, text⟩ ∈ (r.written texts last).prints :=
  List.mem_append_right _ (List.mem_map_of_mem h)

theorem Sound.shows_row (h : b.Sound) (hheight : 2 ≤ b.height) {p : PlacedRow}
    (hp : p ∈ b.rowsShown) (r : Reading) (last : Pen) :
    b.ShowsRow (r.written (b.lines b.rowsShown) last) p.line := by
  obtain ⟨e, he, hindex, _, hrow⟩ := h.mem_rowsShown.1 hp
  obtain ⟨c, hc, helement⟩ := h.element he
  rw [hindex] at hc helement
  refine ⟨c, hc, mem_prints ?_ r last⟩
  have hprint : rowPrint b.body p ∈ b.lines b.rowsShown :=
    List.mem_append_left _
      (List.mem_cons_of_mem _ (List.mem_append_left _ (List.mem_map_of_mem hp)))
  have htop : b.body.y = 1 := Nat.min_eq_left (by omega)
  rwa [rowPrint, show p.row = _ from (congrArg PlacedRow.row hrow).trans helement, htop,
    Nat.add_comm] at hprint

theorem shows_blank (hheight : 2 ≤ b.height) {k : Nat}
    (hk : k ∈ clearedLines (b.height - 2) b.rowsShown) (r : Reading) (last : Pen) :
    b.ShowsBlank (r.written (b.lines b.rowsShown) last) k := by
  refine mem_prints ?_ r last
  have hprint : blankPrint b.body k ∈ b.lines b.rowsShown :=
    List.mem_append_left _
      (List.mem_cons_of_mem _ (List.mem_append_right _ (List.mem_map_of_mem hk)))
  have htop : b.body.y = 1 := Nat.min_eq_left (by omega)
  rwa [blankPrint, htop, Nat.add_comm] at hprint

/-- An index in sight that the last pass has seen is on its line. -/
theorem Sound.shows_seen (h : b.Sound)
    (hseen : b.scene.window.geometry = Container.geometry b.scene.world.container) {k : Nat}
    (hk : k + 2 < b.height) (hitem : b.topIndex + k < b.scene.window.items.size) :
    ∃ p ∈ b.rowsShown, p.line = k := by
  have hs := h.reach.consistent
  have hsize := h.size
  have hlines := h.lines
  have hcovered := contains_inSight Arithmetic.holds_binary64 room.2.1 h.reach.sampled h.extent
    h.size h.line h.top.2 hseen (hsize.trans (by decide)) (by omega) hitem
  obtain ⟨element, helement⟩ :=
    Option.isSome_iff_exists.1 ((hs.element?_isSome _).trans hcovered)
  have hentry := Registry.mem_of_get? (Registry.element?_eq_some.1 helement)
  refine ⟨⟨k, b.topIndex + k, element⟩, h.mem_rowsShown.2 ⟨_, hentry, rfl, ?_, rfl⟩, rfl⟩
  show k < b.height - 2
  omega

/-- What a sound browser draws on a screen of two lines or more tiles it, whatever colours were in
force before. -/
theorem Sound.tiles (h : b.Sound) (hheight : 2 ≤ b.height) {frame : Frame}
    (hdraw : b.draw = .ok frame) (pen : Pen) : b.Tiles (Reading.read { pen } frame) := by
  obtain ⟨drawn, hdrawn, hreads⟩ := draw_reads h.fits
  obtain rfl := Except.ok.inj (hdrawn.symm.trans hdraw)
  obtain ⟨last, hread⟩ := hreads { pen }
  have hlines : ∀ k, k + 2 < b.height →
      (∃ p ∈ b.rowsShown, p.line = k) ∨ k ∈ clearedLines (b.height - 2) b.rowsShown := by
    intro k hk
    have hmem := h.body_lines.mem_iff.2 (List.mem_range.2 (show k < b.height - 2 by omega))
    exact (List.mem_append.1 hmem).imp List.mem_map.1 id
  rw [hread]
  refine
    { others := rfl
      moves := h.lines_perm hheight
      places := ?_
      header := mem_prints List.mem_cons_self _ _
      status := ?_
      top := h.top.2.value
      body := ?_
      seen := ?_ }
  · simp [Reading.written, Function.comp_def]
  · refine mem_prints ?_ _ _
    have hlast : min 1 b.height + (b.height - 2) = b.height - 1 := by omega
    rw [lines, hlast]
    exact List.mem_append_right _ List.mem_cons_self
  · intro k hk
    rcases hlines k hk with ⟨p, hp, rfl⟩ | hcleared
    · exact .inl (h.shows_row hheight hp _ _)
    · exact .inr (shows_blank hheight hcleared _ _)
  · intro hseen k hk hitem
    obtain ⟨p, hp, rfl⟩ := h.shows_seen hseen hk hitem
    exact h.shows_row hheight hp _ _

/-! ## Runs -/

/-- Looking for changes draws a sound browser as it is then, or nothing if nothing has changed. -/
theorem Sound.refresh (h : b.Sound) :
    ∃ b' drawn, b.refresh = .ok (b', Option.toList drawn) ∧ b'.Sound ∧ b'.size = b.size ∧
      (∀ frame ∈ drawn, b'.draw = .ok frame) ∧ (b.changed → drawn.isSome) ∧
      (Begins b.scene → Begins b'.scene) := by
  obtain ⟨pass, scene, hpump, hsteady, hbegins⟩ := h.pump
  let after : Browser := { b with scene, changed := false }
  have hafter : after.Sound := hsteady
  obtain ⟨frame, hdraw, _⟩ := draw_reads (b := after) hafter.fits
  rw [Browser.refresh, hpump]
  rcases hchanged : b.changed || pass.isSome with _ | _
  · refine ⟨after, none, ?_, hafter, rfl, by simp, ?_, hbegins⟩
    · simp [bind, Except.bind, hchanged, pure, Except.pure, after]
    · intro hb
      rw [hb] at hchanged
      cases hchanged
  · refine ⟨after, some frame, ?_, hafter, rfl, ?_, fun _ => rfl, hbegins⟩
    · simp only [bind, Except.bind, hchanged, if_true]
      rw [show Browser.draw { b with scene, changed := false } = .ok frame from hdraw]
      rfl
    · rintro _ ⟨rfl⟩
      exact hdraw

/-- A run on a terminal that had the size `initial` when it was opened: the size that the screen has
now, and the browser. Time may pass at any point. -/
inductive Ran (initial : Nat × Nat) : Nat × Nat → Browser → Prop where
  | start {b : Browser} (h : Browser.start initial.1 initial.2 = .ok (some b)) :
      Ran initial initial b
  | wait {size : Nat × Nat} {b : Browser} (h : Ran initial size b) (now : Instant) :
      Ran initial size { b with now }
  | handle {size : Nat × Nat} {b b' : Browser} {event : InputEvent} (h : Ran initial size b)
      (hreported : event.Reported) (hhandle : b.handle event = .ok (some b')) :
      Ran initial (screenAfter size event) b'
  | refresh {size : Nat × Nat} {b b' : Browser} {frames : List Frame} (h : Ran initial size b)
      (hrefresh : b.refresh = .ok (b', frames)) : Ran initial size b'

/-- A frame that some run presents, while the screen has the given size, and the browser that the
frame shows. -/
def Presents (initial size : Nat × Nat) (b : Browser) (frame : Frame) : Prop :=
  ∃ b₀ frames, Ran initial size b₀ ∧ b₀.refresh = .ok (b, frames) ∧ frame ∈ frames

variable {initial size : Nat × Nat}

theorem Ran.sound (hfits : initial.2 ≤ maxCell) (h : Ran initial size b) :
    b.Sound ∧ b.size = size := by
  induction h with
  | start hstart =>
    obtain ⟨b, hb, hsize, _, hsound, _⟩ := start_sound initial.1 hfits
    obtain rfl := Option.some.inj (Except.ok.inj (hb.symm.trans hstart))
    exact ⟨hsound, hsize⟩
  | wait _ now ih => exact ih
  | handle _ hreported hhandle ih =>
    obtain ⟨hsound, hsize⟩ := ih
    obtain ⟨next, hnext, hafter⟩ := hsound.handle hreported
    obtain rfl := Except.ok.inj (hnext.symm.trans hhandle)
    rw [← hsize]
    exact hafter _ rfl
  | refresh _ hrefresh ih =>
    obtain ⟨hsound, hsize⟩ := ih
    obtain ⟨after, drawn, hafter, hsound', hsize', _⟩ := hsound.refresh
    obtain ⟨rfl, rfl⟩ := Prod.mk.inj (Except.ok.inj (hafter.symm.trans hrefresh))
    exact ⟨hsound', hsize'.trans hsize⟩

theorem Presents.drawn (hfits : initial.2 ≤ maxCell) {frame : Frame}
    (h : Presents initial size b frame) : b.Sound ∧ b.size = size ∧ b.draw = .ok frame := by
  obtain ⟨b₀, frames, hran, hrefresh, hframe⟩ := h
  obtain ⟨hsound, hsize⟩ := hran.sound hfits
  obtain ⟨after, drawn, hafter, hsound', hsize', hdrawn, _⟩ := hsound.refresh
  obtain ⟨rfl, rfl⟩ := Prod.mk.inj (Except.ok.inj (hafter.symm.trans hrefresh))
  exact ⟨hsound', hsize'.trans hsize, hdrawn frame (Option.mem_toList.1 hframe)⟩

theorem parts_of_ok {α β : Type} {x : Except Fault α} {f : α → Except Fault β} {result : β}
    (h : (x >>= f) = .ok result) : ∃ value, x = .ok value ∧ f value = .ok result := by
  cases x with
  | error fault => cases h
  | ok value => exact ⟨value, rfl, h⟩

theorem Ran.handleAll (h : Ran initial size b) {events : List InputEvent}
    (hreported : ∀ event ∈ events, event.Reported)
    (hhandle : handleAll events b = .ok (some b')) :
    Ran initial (events.foldl screenAfter size) b' := by
  induction events generalizing size b with
  | nil =>
    obtain rfl := Option.some.inj (Except.ok.inj hhandle)
    exact h
  | cons event rest ih =>
    rw [Browser.handleAll] at hhandle
    obtain ⟨_ | next, hevent, hrest⟩ := parts_of_ok hhandle
    · cases hrest
    · exact ih (h.handle (hreported event List.mem_cons_self) hevent)
        (fun e he => hreported e (List.mem_cons_of_mem _ he)) hrest

theorem Ran.settle (h : Ran initial size b) {frames : List Frame}
    (hsettle : b.settle = .ok (b', frames)) :
    Ran initial size b' ∧ ∀ frame ∈ frames, Presents initial size b' frame := by
  rw [Browser.settle] at hsettle
  obtain ⟨_ | deadline, _, hrest⟩ := parts_of_ok hsettle
  · obtain ⟨rfl, rfl⟩ := Prod.mk.inj (Except.ok.inj hrest)
    exact ⟨h, fun _ hframe => absurd hframe List.not_mem_nil⟩
  · exact ⟨(h.wait _).refresh hrest, fun frame hframe => ⟨_, _, h.wait _, hrest, hframe⟩⟩

/-- Browsing through batches is a run, and presents every frame that it draws. -/
theorem Ran.browse (h : Ran initial size b) {batches : List (List InputEvent)}
    (hreported : ∀ batch ∈ batches, ∀ event ∈ batch, event.Reported) {frames : List Frame}
    {left : Nat} (hbrowse : b.browse batches = .ok (frames, left)) :
    ∀ frame ∈ frames, ∃ size shown, Presents initial size shown frame := by
  induction batches generalizing size b frames left with
  | nil =>
    obtain ⟨rfl, _⟩ := Prod.mk.inj (Except.ok.inj hbrowse)
    exact fun _ hframe => absurd hframe List.not_mem_nil
  | cons batch rest ih =>
    rw [Browser.browse] at hbrowse
    obtain ⟨_ | next, hbatch, hdraws⟩ := parts_of_ok hbrowse
    · obtain ⟨rfl, _⟩ := Prod.mk.inj (Except.ok.inj hdraws)
      exact fun _ hframe => absurd hframe List.not_mem_nil
    · obtain ⟨⟨refreshed, drawn⟩, hrefresh, hlater⟩ := parts_of_ok hdraws
      obtain ⟨⟨settled, late⟩, hsettle, hlast⟩ := parts_of_ok hlater
      obtain ⟨⟨others, _⟩, hothers, hresult⟩ := parts_of_ok hlast
      obtain ⟨rfl, _⟩ := Prod.mk.inj (Except.ok.inj hresult)
      have hnext := (h.wait _).handleAll (hreported batch List.mem_cons_self) hbatch
      obtain ⟨hsettled, hlate⟩ := (hnext.refresh hrefresh).settle hsettle
      intro frame hframe
      rcases List.mem_append.1 hframe with hframe | hframe
      · rcases List.mem_append.1 hframe with hframe | hframe
        · exact ⟨_, refreshed, _, _, hnext, hrefresh, hframe⟩
        · exact ⟨_, settled, hlate frame hframe⟩
      · exact ih hsettled (fun batch hmem => hreported batch (List.mem_cons_of_mem _ hmem)) hothers
          frame hframe

end Browser

/-- Every frame of a browser tiles the screen and shows the present customers.

A browser can be opened on any terminal and is to be drawn at once, and nothing that a terminal can
report, at whatever times the browser looks for changes, makes it break off. Whatever has happened
so far, it has the size of the screen, and a frame that it presents on a screen of two lines or more
tiles that screen, whatever colours were in force before. The frames of a session are of this kind.
-/
theorem frames_tile (initial : Nat × Nat) (hfits : initial.2 ≤ maxCell) :
    (∃ b, Browser.start initial.1 initial.2 = .ok (some b) ∧ b.changed = true) ∧
      (∀ size b, Browser.Ran initial size b →
        (∀ event : InputEvent, event.Reported → ∃ next, b.handle event = .ok next) ∧
          ∃ b' drawn, b.refresh = .ok (b', Option.toList drawn) ∧ (b.changed → drawn.isSome)) ∧
      (∀ size b frame, Browser.Presents initial size b frame → b.size = size ∧
        (2 ≤ size.2 → ∀ pen, b.Tiles (Reading.read { pen } frame))) ∧
      ∀ batches : List (List InputEvent),
        (∀ batch ∈ batches, ∀ event ∈ batch, event.Reported) →
        ∀ frames left, session initial.1 initial.2 batches = .ok (frames, left) →
        ∀ frame ∈ frames, ∃ size b, Browser.Presents initial size b frame := by
  obtain ⟨b₀, hstart, _, hchanged, _⟩ := Browser.start_sound initial.1 hfits
  refine ⟨⟨b₀, hstart, hchanged⟩, ?_, ?_, ?_⟩
  · intro size b hran
    obtain ⟨hsound, _⟩ := hran.sound hfits
    obtain ⟨b', drawn, hrefresh, _, _, _, hchanged, _⟩ := hsound.refresh
    refine ⟨fun event hreported => ?_, b', drawn, hrefresh, hchanged⟩
    obtain ⟨next, hnext, _⟩ := hsound.handle hreported
    exact ⟨next, hnext⟩
  · intro size b frame hpresents
    obtain ⟨hsound, rfl, hdraw⟩ := hpresents.drawn hfits
    exact ⟨rfl, fun hheight pen => hsound.tiles hheight hdraw pen⟩
  · intro batches hreported frames left hsession
    rw [session, hstart] at hsession
    exact (Browser.Ran.start hstart).browse hreported hsession

/-- The first frame on a screen of five lines shows the first three customers: the pass that built
the window has seen the viewport. -/
theorem frames_tile_first :
    5 ≤ maxCell ∧ ∃ b frame, Browser.Presents (20, 5) (20, 5) b frame ∧ b.topIndex = 0 ∧
      ∀ pen, b.Tiles (Reading.read { pen } frame) ∧
        ∀ k < 3, b.ShowsRow (Reading.read { pen } frame) k := by
  have hfits : (20, 5).2 ≤ maxCell := by decide
  obtain ⟨_, _, htiles, _⟩ := frames_tile (20, 5) hfits
  obtain ⟨b₀, hstart, _, hchanged, hsound, hbegins⟩ := Browser.start_sound 20 hfits
  obtain ⟨b, drawn, hrefresh, _, _, _, hdrawn, hbegins'⟩ := hsound.refresh
  obtain ⟨frame, rfl⟩ := Option.isSome_iff_exists.1 (hdrawn hchanged)
  have hpresents : Browser.Presents (20, 5) (20, 5) b frame :=
    ⟨b₀, _, .start hstart, hrefresh, List.mem_cons_self⟩
  obtain ⟨hsize, hall⟩ := htiles (20, 5) b frame hpresents
  obtain ⟨htop, hseen, hitems⟩ := hbegins' hbegins
  have hheight : b.height = 5 := congrArg Prod.snd hsize
  have hindex : b.topIndex = 0 := by
    have hzero : (0 : Rat) = b.topIndex :=
      (congrArg Scalar.toRat htop).symm.trans (hall (by decide) {}).top
    exact_mod_cast hzero.symm
  refine ⟨hfits, b, frame, hpresents, hindex, fun pen => ⟨hall (by decide) pen, fun k hk => ?_⟩⟩
  refine (hall (by decide) pen).seen hseen k (by omega) ?_
  rw [hindex, hitems, Browser.customerCount]
  omega

end ListWindow.Demo
