import Overlay.Layer.Basic

/-!
This module contains the stack of layers: all layers that exist, and the order of those that are visible.
-/

namespace Overlay

structure LayerStack where
  /-- The layers that exist, oldest first. -/
  layers : List Layer
  /-- The layers that are visible, bottom first. -/
  order : List LayerId
  /-- The number given out last. -/
  lastId : LayerId
  deriving DecidableEq

namespace LayerStack

def empty : LayerStack := ⟨[], [], 0⟩

def find? (s : LayerStack) (id : LayerId) : Option Layer := s.layers.find? (·.id == id)

def add (s : LayerStack) : LayerStack :=
  { s with layers := s.layers ++ [.blank (s.lastId + 1)], lastId := s.lastId + 1 }

def erase (s : LayerStack) (id : LayerId) : LayerStack :=
  { s with
    layers := s.layers.filter (·.id != id)
    order := s.order.filter (· != id) }

def modify (s : LayerStack) (id : LayerId) (f : Layer → Layer) : LayerStack :=
  { s with layers := s.layers.map fun l => if l.id == id then f l else l }

/-- How many layers lie below a layer; `none` while it is hidden. -/
def height? (s : LayerStack) (id : LayerId) : Option Nat := s.order.findIdx? (· == id)

def hide (s : LayerStack) (id : LayerId) : LayerStack := { s with order := s.order.erase id }

/-- Puts a layer at a height among the other visible ones, or on top of them if there are fewer. -/
def place (s : LayerStack) (id : LayerId) (height : Nat) : LayerStack :=
  let others := s.order.erase id
  { s with order := others.insertIdx (min height others.length) id }

def visible (s : LayerStack) : List Layer := s.order.filterMap s.find?

def topmostAt? (s : LayerStack) (windows : Windows) (p : Point) (except : LayerId) : Option Layer :=
  ((s.order.reverse.filter (· != except)).filterMap s.find?).find? fun l =>
    (l.bounds? windows).any (·.contains p)

end LayerStack
end Overlay
