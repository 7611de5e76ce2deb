import Overlay.Log.Level

/-!
This module contains the logger: a level that lines must reach, the backend that receives them, and a
count of the lines that came before there was one.
-/

namespace Overlay
namespace Log

structure Delivery where
  backend : String
  line : String
  deriving DecidableEq

structure Logger where
  /-- The least urgent level that is let through. -/
  level : Level
  backend : Option String
  /-- How many admitted lines found no backend. -/
  dropped : Nat
  /-- What the backends received, oldest line first. -/
  delivered : List Delivery
  deriving DecidableEq

namespace Logger

def fresh : Logger where
  level := .info
  backend := none
  dropped := 0
  delivered := []

def register (log : Logger) (backend : String) : Logger := { log with backend := some backend }

def setLevel (log : Logger) (level : Level) : Logger := { log with level := level }

def resetLevel (log : Logger) : Logger := log.setLevel .info

def admits (log : Logger) (level : Level) : Bool := decide (level.rank ≤ log.level.rank)

def dispatch (log : Logger) (line : String) : Logger :=
  match log.backend with
  | some backend => { log with delivered := log.delivered ++ [⟨backend, line⟩] }
  | none => { log with dropped := log.dropped + 1 }

def write (log : Logger) (level : Level) (line : String) : Logger :=
  if log.admits level then log.dispatch line else log

end Logger
end Log
end Overlay
