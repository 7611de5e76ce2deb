import Overlay.Options
import Overlay.Proofs.Text.Numeral

/-!
This module contains the values of options: how colours, points and levels are written, and which texts are
read as them. A colour may also be written with a plus sign in place of a leading zero.
-/

namespace Overlay

namespace Color

def hexByte (byte : UInt8) : List Char :=
  [Nat.digitChar (byte.toNat / 16), Nat.digitChar (byte.toNat % 16)]

def hex (color : Color) : List Char := hexByte color.r ++ hexByte color.g ++ hexByte color.b

theorem length_of_spelled {digits : List Char} {color : Color}
    (spelled : digits.map Char.toLower = color.hex) : digits.length = 6 :=
  (List.length_map _).symm.trans (congrArg List.length spelled)

theorem ofWord_bytes (color : Color) :
    ofWord (UInt32.ofNat ((color.r.toNat * 256 + color.g.toNat) * 256 + color.b.toNat)) = color := by
  have := color.r.toNat_lt
  have := color.g.toNat_lt
  have := color.b.toNat_lt
  apply Color.ext <;> apply UInt8.toNat_inj.mp <;> simp [ofWord, Nat.shiftRight_eq_div_pow] <;> omega

end Color

namespace Text

theorem digits?_pair {front : List Char} {c c' : Char} {n : Nat} :
    digits? 16 (front ++ [c, c']) = some n
      ↔
    ∃ m byte, digits? 16 front = some m ∧ [c, c'].map Char.toLower = Color.hexByte byte
      ∧ n = m * 256 + byte.toNat := by
  rw [List.append_cons, digits?_append, digits?_append]
  simp only [Option.bind_eq_some_iff, Option.map_eq_some_iff, digit?_eq_some_iff, Color.hexByte,
    List.map_cons, List.map_nil, List.cons.injEq, and_true]
  constructor
  . rintro ⟨_, ⟨m, read, d, ⟨small, lower⟩, rfl⟩, d', ⟨small', lower'⟩, rfl⟩
    have byte : (UInt8.ofNat (d * 16 + d')).toNat = d * 16 + d' := by
      simp only [UInt8.toNat_ofNat']
      omega
    have high : (d * 16 + d') / 16 = d := by omega
    have low : (d * 16 + d') % 16 = d' := by omega
    refine ⟨m, UInt8.ofNat (d * 16 + d'), read, ?_, ?_⟩
    . rw [byte, high, low]
      exact ⟨lower, lower'⟩
    . rw [byte]
      omega
  . rintro ⟨m, byte, read, ⟨lower, lower'⟩, rfl⟩
    have := byte.toNat_lt
    refine ⟨_, ⟨m, read, byte.toNat / 16, ⟨by omega, lower⟩, rfl⟩, byte.toNat % 16, ⟨by omega, lower'⟩, ?_⟩
    omega

theorem digits?_hex {digits : List Char} (six : digits.length = 6) {color : Color} :
    (digits? 16 digits).map (fun n => Color.ofWord (UInt32.ofNat n)) = some color
      ↔
    digits.map Char.toLower = color.hex := by
  match digits, six with
  | [a, b, c, d, e, f], _ =>
    have pairs : [a, b, c, d, e, f] = ([] ++ [a, b] ++ [c, d]) ++ [e, f] := rfl
    rw [pairs, Option.map_eq_some_iff]
    constructor
    . rintro ⟨_, read, rfl⟩
      obtain ⟨_, blue, read_front, lower_blue, rfl⟩ := digits?_pair.mp read
      obtain ⟨_, green, read_red, lower_green, rfl⟩ := digits?_pair.mp read_front
      obtain ⟨_, red, ⟨⟩, lower_red, rfl⟩ := digits?_pair.mp read_red
      have color := Color.ofWord_bytes ⟨red, green, blue⟩
      rw [Nat.zero_mul, Nat.zero_add, color, List.map_append, List.map_append, List.nil_append, lower_red,
        lower_green, lower_blue]
      rfl
    . intro lower
      rw [List.map_append, List.map_append, List.nil_append] at lower
      obtain ⟨lower_front, lower_blue⟩ := List.append_inj' lower rfl
      obtain ⟨lower_red, lower_green⟩ := List.append_inj lower_front rfl
      have start : digits? 16 [] = some 0 := rfl
      have red := digits?_pair.mpr ⟨0, color.r, start, lower_red, rfl⟩
      have green := digits?_pair.mpr ⟨_, color.g, red, lower_green, rfl⟩
      have blue := digits?_pair.mpr ⟨_, color.b, green, lower_blue, rfl⟩
      refine ⟨_, blue, ?_⟩
      rw [Nat.zero_mul, Nat.zero_add]
      exact Color.ofWord_bytes color

theorem natural?_hex {digits : List Char} (six : digits.length = 6) {color : Color} :
    (natural? 16 digits).map (fun n => Color.ofWord (UInt32.ofNat n)) = some color
      ↔
    digits.map Char.toLower = color.hex
      ∨ ∃ rest, digits = '+' :: rest ∧ ('0' :: rest).map Char.toLower = color.hex := by
  unfold natural?
  split
  . next rest =>
    have signed : ('+' :: rest).map Char.toLower ≠ color.hex := by
      simp [Color.hex, Color.hexByte]
    have nonempty : rest.isEmpty = false := by
      cases rest with
      | nil => simp at six
      | cons => rfl
    -- A plus sign counts as a leading zero.
    have zero : digits? 16 rest = digits? 16 ('0' :: rest) := rfl
    have six : ('0' :: rest).length = 6 := six
    rw [nonempty, zero, if_neg Bool.false_ne_true, digits?_hex six, or_iff_right signed]
    simp
  . next unsigned =>
    have nonempty : digits.isEmpty = false := by
      cases digits with
      | nil => simp at six
      | cons => rfl
    have other : ¬∃ rest, digits = '+' :: rest ∧ ('0' :: rest).map Char.toLower = color.hex := by
      rintro ⟨rest, signed, _⟩
      exact unsigned rest signed
    rw [nonempty, if_neg Bool.false_ne_true, digits?_hex six, or_iff_left other]

end Text

namespace Setting

def marks : List (List Char) := ["".toList, "#".toList, "0x".toList]

/-- The ways to write a colour: as its six digits in any case, after a mark or after none. Where the first
digit is a zero, a plus sign may take its place. -/
inductive ColorText (color : Color) : List Char → Prop where
  | spelled {mark digits : List Char} (marked : mark ∈ marks)
    (spelled : digits.map Char.toLower = color.hex) : ColorText color (mark ++ digits)
  | signed {mark digits : List Char} (marked : mark ∈ marks)
    (spelled : ('0' :: digits).map Char.toLower = color.hex) : ColorText color (mark ++ '+' :: digits)

def unmarked (text : List Char) : List Char :=
  match text with
  | '0' :: 'x' :: rest => rest
  | '#' :: rest => rest
  | _ => text

theorem color?_eq (text : List Char) :
    color? text =
      if (unmarked text).length = 6 then
        (Text.natural? 16 (unmarked text)).map fun n => Color.ofWord (UInt32.ofNat n)
      else
        none := rfl

theorem exists_mark (text : List Char) : ∃ mark ∈ marks, text = mark ++ unmarked text := by
  unfold unmarked
  split
  . exact ⟨"0x".toList, by simp [marks], rfl⟩
  . exact ⟨"#".toList, by simp [marks], rfl⟩
  . exact ⟨"".toList, by simp [marks], rfl⟩

theorem unmarked_append {mark digits : List Char} (marked : mark ∈ marks)
    (plain : unmarked digits = digits) : unmarked (mark ++ digits) = digits := by
  simp only [marks, List.mem_cons, List.not_mem_nil, or_false] at marked
  rcases marked with rfl | rfl | rfl
  . exact plain
  . rfl
  . rfl

theorem unmarked_of_spelled {digits : List Char} {color : Color}
    (spelled : digits.map Char.toLower = color.hex) : unmarked digits = digits := by
  unfold unmarked
  split
  . simp [Color.hex, Color.hexByte] at spelled
  . simp [Color.hex, Color.hexByte] at spelled
  . rfl

theorem color?_eq_some_iff {text : List Char} {color : Color} :
    color? text = some color ↔ ColorText color text := by
  rw [color?_eq]
  constructor
  . intro read
    obtain ⟨mark, marked, split⟩ := exists_mark text
    rw [split]
    by_cases six : (unmarked text).length = 6
    . rw [if_pos six, Text.natural?_hex six] at read
      rcases read with spelled | ⟨rest, signed, spelled⟩
      . exact .spelled marked spelled
      . rw [signed]
        exact .signed marked spelled
    . rw [if_neg six] at read
      contradiction
  . rintro (⟨marked, spelled⟩ | ⟨marked, spelled⟩)
    . have six := Color.length_of_spelled spelled
      rw [unmarked_append marked (unmarked_of_spelled spelled), if_pos six, Text.natural?_hex six]
      exact .inl spelled
    . next digits =>
      have zero_six := Color.length_of_spelled spelled
      have six : ('+' :: digits).length = 6 := zero_six
      rw [unmarked_append marked rfl, if_pos six, Text.natural?_hex six]
      exact .inr ⟨_, rfl, spelled⟩

def pointText (p : Point) : List Char := p.x.val.repr.toList ++ ',' :: p.y.val.repr.toList

theorem coord?_repr (c : Coord) : coord? c.val.repr.toList = some c := by
  rw [coord?, Text.integer?_repr, Option.bind_some, Coord.ofInt?, dif_pos ⟨c.least_le, c.le_greatest⟩]

theorem not_comma_of_mem_repr (n : Int) : ∀ c ∈ n.repr.toList, (c != ',') = true := by
  intro c mem
  rcases Text.mem_repr mem with rfl | digit
  . rfl
  . rw [bne_iff_ne]
    rintro rfl
    contradiction

theorem point?_pointText (p : Point) : point? (pointText p) = some p := by
  have digits := not_comma_of_mem_repr p.x.val
  unfold point? pointText
  rw [List.dropWhile_append_of_pos digits, List.takeWhile_append_of_pos digits]
  simp [coord?_repr]

theorem ofName?_eq_some_iff {name : List Char} {level : Log.Level} :
    Log.Level.ofName? name = some level ↔ name.map Char.toLower = level.name.toList := by
  unfold Log.Level.ofName?
  constructor
  . intro found
    have named := List.find?_some found
    exact (beq_iff_eq.mp named).symm
  . intro named
    rw [named]
    cases level <;> rfl

end Setting

end Overlay
