/-!
This module contains the numerals of command-line values: digits of some base after an optional sign.
-/

namespace Overlay
namespace Text

def digit? (base : Nat) (c : Char) : Option Nat :=
  let value? :=
    if '0' ≤ c ∧ c ≤ '9' then
      some (c.toNat - '0'.toNat)
    else if 'a' ≤ c ∧ c ≤ 'z' then
      some (c.toNat - 'a'.toNat + 10)
    else if 'A' ≤ c ∧ c ≤ 'Z' then
      some (c.toNat - 'A'.toNat + 10)
    else
      none
  value?.filter (· < base)

def digits? (base : Nat) (text : List Char) : Option Nat :=
  text.foldlM (fun value c => (digit? base c).map (value * base + ·)) 0

/-- Reads a numeral without a minus sign: at least one digit, after at most one plus sign. -/
def natural? (base : Nat) (text : List Char) : Option Nat :=
  match text with
  | '+' :: rest => if rest.isEmpty then none else digits? base rest
  | _ => if text.isEmpty then none else digits? base text

def integer? (text : List Char) : Option Int :=
  match text with
  | '-' :: rest => if rest.isEmpty then none else (digits? 10 rest).map fun n => -(n : Int)
  | _ => (natural? 10 text).map fun n => (n : Int)

end Text
end Overlay
