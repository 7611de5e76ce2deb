import Overlay.Proofs.Options.CommandLine

/-!
This module contains which values of the background option are colours. These are the six hexadecimal digits of
a colour, bare or after a mark, but also five digits after a plus sign. A word with any other value is ignored.
-/

namespace Overlay
namespace Options

open Setting (ColorText color? color?_eq_some_iff marks)

theorem color?_eq_none {text : List Char} (other : ∀ color, ¬ColorText color text) : color? text = none := by
  rw [Option.eq_none_iff_forall_ne_some]
  intro color read
  exact other color (color?_eq_some_iff.mp read)

section

variable {line line' : String} {before after : List (List Char)} {value : List Char}
variable (spaced : Text.Spaced line.toList (before ++ (Field.background.key ++ value) :: after))
  (without : Text.Spaced line'.toList (before ++ after))
include spaced

theorem background_of_read {color : Color} (colored : ColorText color value)
    (rejected : ∀ later color', Field.background.key ++ later ∈ after → ¬ColorText color' later) :
    (ofCommandLine line).background = color := by
  have given : Field.background.value? (Field.background.key ++ value) = some color :=
    (Field.value?_append .background value).trans (color?_eq_some_iff.mpr colored)
  have silent : after.filterMap Field.background.value? = [] := by
    rw [List.filterMap_eq_nil_iff]
    intro word mem
    rw [Field.value?_eq_none_iff]
    rintro later rfl
    exact color?_eq_none fun color' => rejected later color' mem
  have last := Field.get_ofCommandLine spaced .background
  rw [List.filterMap_append, List.filterMap_cons_some given, silent, List.getLast?_concat] at last
  exact last

include without

theorem ofCommandLine_of_background {color : Color} (background : (ofCommandLine line).background = color) :
    ofCommandLine line = { ofCommandLine line' with background := color } := by
  have other {f : Field} (other : .background ≠ f) : f.get (ofCommandLine line) = f.get (ofCommandLine line') := by
    rw [f.get_ofCommandLine spaced, f.get_ofCommandLine without, List.filterMap_append,
      List.filterMap_cons_none (Field.value?_other other value), List.filterMap_append]
  apply Field.ext
  intro f
  cases f with
  | background => exact background
  | cursor => exact other nofun
  | level => exact other nofun

theorem ofCommandLine_of_overridden {later : List Char} {color : Color}
    (mem : Field.background.key ++ later ∈ after) (colored : ColorText color later) :
    ofCommandLine line = ofCommandLine line' := by
  have given : Field.background.value? (Field.background.key ++ later) = some color :=
    (Field.value?_append .background later).trans (color?_eq_some_iff.mpr colored)
  have nonempty : after.filterMap Field.background.value? ≠ [] :=
    List.ne_nil_of_mem (List.mem_filterMap.mpr ⟨_, mem, given⟩)
  have last := Field.get_ofCommandLine spaced .background
  have last' := Field.get_ofCommandLine without .background
  rw [List.append_cons, List.filterMap_append, List.getLast?_append_of_ne_nil _ nonempty] at last
  rw [List.filterMap_append, List.getLast?_append_of_ne_nil _ nonempty] at last'
  exact ofCommandLine_of_background spaced without (last.trans last'.symm)

/-- Compared with the line without it, a word with the key of the background sets the background to the colour
that its value is read as, unless a later word does so. It changes nothing else, and nothing at all if its value
is not read. A value is read just if it is six hexadecimal digits or five after a plus sign, bare or after a mark,
and then as the colour that the digits spell. -/
theorem background_read_iff :
    (∀ color, color? value = some color ↔ ColorText color value)
    ∧ (∀ color, ColorText color value →
      (∀ later color', Field.background.key ++ later ∈ after → ¬ColorText color' later) →
      ofCommandLine line = { ofCommandLine line' with background := color })
    ∧ (∀ later color', Field.background.key ++ later ∈ after → ColorText color' later →
      ofCommandLine line = ofCommandLine line')
    ∧ ((∀ color, ¬ColorText color value) → ofCommandLine line = ofCommandLine line') := by
  refine ⟨fun color => color?_eq_some_iff, ?_, ?_, ?_⟩
  . intro color colored rejected
    exact ofCommandLine_of_background spaced without (background_of_read spaced colored rejected)
  . intro later color' mem colored
    exact ofCommandLine_of_overridden spaced without mem colored
  . intro other
    have silent : Ignored (Field.background.key ++ value) := ignored_of_rejected (color?_eq_none other)
    exact (Alike.ignored before after silent).ofCommandLine_eq spaced without

end

theorem background_read_iff_marked :
    ofCommandLine "klog=info desktop.bg=#A0b1C2 desktop.bg=##A0b1C2"
      = { ofCommandLine "klog=info desktop.bg=##A0b1C2" with background := ⟨0xA0, 0xB1, 0xC2⟩ } := by
  have spaced : Text.Spaced "klog=info desktop.bg=#A0b1C2 desktop.bg=##A0b1C2".toList
      (["klog=info".toList] ++ (Field.background.key ++ "#A0b1C2".toList) :: ["desktop.bg=##A0b1C2".toList]) :=
    Text.words_eq_iff.mp (by decide)
  have without : Text.Spaced "klog=info desktop.bg=##A0b1C2".toList
      (["klog=info".toList] ++ ["desktop.bg=##A0b1C2".toList]) := Text.words_eq_iff.mp (by decide)
  have colored : ColorText ⟨0xA0, 0xB1, 0xC2⟩ ("#".toList ++ "A0b1C2".toList) := .spelled (by decide) (by decide)
  apply (background_read_iff spaced without).2.1 _ colored
  intro later color' mem colored'
  have same : Field.background.key ++ later = Field.background.key ++ "##A0b1C2".toList := List.mem_singleton.mp mem
  rw [List.append_cancel_left same] at colored'
  have unread : color? "##A0b1C2".toList = none := by decide
  rw [color?_eq_some_iff.mpr colored'] at unread
  exact Option.some_ne_none color' unread

/-- Five digits after a plus sign do not write out a colour, but are read as one all the same. -/
theorem background_signed :
    (∀ color : Color, ¬Field.Written .background color "+12345".toList)
      ∧ ofCommandLine "desktop.bg=+12345" = { ofCommandLine "" with background := ⟨0x01, 0x23, 0x45⟩ } := by
  refine ⟨?_, by decide⟩
  have text : "+12345".toList = ['+', '1', '2', '3', '4', '5'] := by decide
  rw [text]
  intro color written
  generalize split : ['+', '1', '2', '3', '4', '5'] = written_text at written
  cases written with
  | background marked spelled =>
    simp only [marks, List.mem_cons, List.not_mem_nil, or_false] at marked
    rcases marked with rfl | rfl | rfl
    . subst split
      simp [Color.hex, Color.hexByte] at spelled
    . simp at split
    . simp at split

end Options
end Overlay
