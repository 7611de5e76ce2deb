/-!
This module contains the levels of log lines, from the most to the least urgent.
-/

namespace Overlay
namespace Log

inductive Level where
  | error
  | warn
  | info
  | debug
  | trace
  deriving DecidableEq

namespace Level

def rank : Level → Nat
  | .error => 0
  | .warn => 1
  | .info => 2
  | .debug => 3
  | .trace => 4

def name : Level → String
  | .error => "error"
  | .warn => "warn"
  | .info => "info"
  | .debug => "debug"
  | .trace => "trace"

def all : List Level := [.error, .warn, .info, .debug, .trace]

def ofName? (text : List Char) : Option Level :=
  all.find? fun level => level.name.toList == text.map Char.toLower

end Level
end Log
end Overlay
