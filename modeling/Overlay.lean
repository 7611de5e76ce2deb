import Overlay.Desktop.Basic
import Overlay.Proofs.Compositor.DoubleBuffer
import Overlay.Proofs.Compositor.Order
import Overlay.Proofs.Compositor.Place
import Overlay.Proofs.Compositor.Repair
import Overlay.Proofs.Compositor.Schedule
import Overlay.Proofs.Desktop.Arrangement
import Overlay.Proofs.Desktop.Basic
import Overlay.Proofs.Desktop.Binding
import Overlay.Proofs.Desktop.Chrome
import Overlay.Proofs.Desktop.Refusal
import Overlay.Proofs.Geometry.Hull
import Overlay.Proofs.Geometry.Overlap
import Overlay.Proofs.Guarded.Surface
import Overlay.Proofs.Log.Delivery
import Overlay.Proofs.Options.Background
import Overlay.Proofs.Pointer.Gesture
import Overlay.Proofs.Pointer.Removal
import Overlay.Proofs.Surface.Memory
import Overlay.Proofs.Surface.Move
import Overlay.Proofs.Surface.Relay
import Overlay.Proofs.Surface.RowCopy
import Overlay.Proofs.Surface.Shapes
import Overlay.Proofs.Window.Scroll
