import ListWindow.Config
import ListWindow.Container
import ListWindow.Demo.Browser
import ListWindow.Demo.Customers
import ListWindow.Event.Channel
import ListWindow.Event.Subscribers
import ListWindow.Extent
import ListWindow.Fault
import ListWindow.Range
import ListWindow.Reconcile
import ListWindow.Registry
import ListWindow.Scalar.Basic
import ListWindow.Scalar.Bits
import ListWindow.Scalar.Decimal
import ListWindow.Scalar.Rounding
import ListWindow.Screen.Command
import ListWindow.Screen.Paint
import ListWindow.Screen.Rect
import ListWindow.Screen.Session
import ListWindow.Screen.Sink
import ListWindow.Screen.Style
import ListWindow.Screen.Viewport
import ListWindow.Spacer
import ListWindow.Surface
import ListWindow.Text.CharWidth
import ListWindow.Text.Cluster
import ListWindow.Text.CodeRanges
import ListWindow.Text.Columns
import ListWindow.Text.Emoji
import ListWindow.Text.Fit
import ListWindow.Text.Shape
import ListWindow.Text.Width
import ListWindow.Throttle
import ListWindow.Window.Basic
import ListWindow.Window.Builder
import ListWindow.Proofs.Alignment
import ListWindow.Proofs.Announcement
import ListWindow.Proofs.Bounds
import ListWindow.Proofs.Browsing
import ListWindow.Proofs.Building
import ListWindow.Proofs.Channel
import ListWindow.Proofs.Clamping
import ListWindow.Proofs.Commons
import ListWindow.Proofs.Conservation
import ListWindow.Proofs.Content
import ListWindow.Proofs.Coverage
import ListWindow.Proofs.Decoding
import ListWindow.Proofs.Delivery
import ListWindow.Proofs.Departure
import ListWindow.Proofs.DisplayWidth
import ListWindow.Proofs.Drawing
import ListWindow.Proofs.Edit
import ListWindow.Proofs.Ensemble
import ListWindow.Proofs.Exact
import ListWindow.Proofs.Fitting
import ListWindow.Proofs.Footprint
import ListWindow.Proofs.FrameRate
import ListWindow.Proofs.Frames
import ListWindow.Proofs.Invariant
import ListWindow.Proofs.Landing
import ListWindow.Proofs.Layout
import ListWindow.Proofs.Lines
import ListWindow.Proofs.Monotonicity
import ListWindow.Proofs.Pacing
import ListWindow.Proofs.PaintedArea
import ListWindow.Proofs.Painting
import ListWindow.Proofs.Partition
import ListWindow.Proofs.Pass
import ListWindow.Proofs.Range
import ListWindow.Proofs.Reconcile
import ListWindow.Proofs.Recovery
import ListWindow.Proofs.Recycling
import ListWindow.Proofs.Rows
import ListWindow.Proofs.UpToDate
import ListWindow.Proofs.Viewport
import ListWindow.Proofs.Watch
