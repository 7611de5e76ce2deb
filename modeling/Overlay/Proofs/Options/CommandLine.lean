import Mathlib.Data.List.Basic
import Overlay.Proofs.Options.Value
import Overlay.Proofs.Text.Words

/-!
This module contains what a command line says: each option is set by the last of its words that can be read,
and nothing else on the line matters. A line that ends with all options written out is read as these options.
-/

namespace Overlay
namespace Options

inductive Field where
  | background
  | cursor
  | level
  deriving DecidableEq

namespace Field

abbrev Value : Field → Type
  | .background => Color
  | .cursor => Point
  | .level => Log.Level

def all : List Field := [.background, .cursor, .level]

def key : Field → List Char
  | .background => "desktop.bg=".toList
  | .cursor => "mouse.pos=".toList
  | .level => "klog=".toList

def read? : (f : Field) → List Char → Option f.Value
  | .background => Setting.color?
  | .cursor => Setting.point?
  | .level => Log.Level.ofName?

def get : (f : Field) → Options → f.Value
  | .background => Options.background
  | .cursor => Options.cursor
  | .level => Options.level

def setting : (f : Field) → f.Value → Setting
  | .background => Setting.background
  | .cursor => Setting.cursor
  | .level => Setting.level

def ofSetting? : (f : Field) → Setting → Option f.Value
  | .background, .background color => some color
  | .cursor, .cursor position => some position
  | .level, .level least => some least
  | .background, _ | .cursor, _ | .level, _ => none

def value? (f : Field) (word : List Char) : Option f.Value := (f.key.isPrefixOf? word).bind f.read?

def opens (f : Field) (word : List Char) : Bool := (f.key.isPrefixOf? word).isSome

inductive Written : (f : Field) → f.Value → List Char → Prop where
  | background {color : Color} {mark digits : List Char} (marked : mark ∈ Setting.marks)
    (spelled : digits.map Char.toLower = color.hex) : Written .background color (mark ++ digits)
  | cursor (position : Point) : Written .cursor position (Setting.pointText position)
  | level {least : Log.Level} {name : List Char} (named : name.map Char.toLower = least.name.toList) :
    Written .level least name

inductive LastRead (f : Field) (words : List (List Char)) : f.Value → Prop where
  | read {before after : List (List Char)} {text : List Char} {value : f.Value}
    (split : words = before ++ (f.key ++ text) :: after) (read : f.read? text = some value)
    (rejected : ∀ later, f.key ++ later ∈ after → f.read? later = none) : LastRead f words value
  | standard (rejected : ∀ text, f.key ++ text ∈ words → f.read? text = none) :
    LastRead f words (f.get .standard)

variable {f g : Field}

theorem ext {o o' : Options} (same : ∀ f : Field, f.get o = f.get o') : o = o' := by
  cases o
  cases o'
  have color := same .background
  have position := same .cursor
  have least := same .level
  simp only [get] at color position least
  rw [color, position, least]

theorem Written.read {value : f.Value} {text : List Char} (written : f.Written value text) :
    f.read? text = some value := by
  cases written with
  | background marked spelled => exact Setting.color?_eq_some_iff.mpr (.spelled marked spelled)
  | cursor position => exact Setting.point?_pointText position
  | level named => exact Setting.ofName?_eq_some_iff.mpr named

theorem value?_eq_some_iff {word : List Char} {value : f.Value} :
    f.value? word = some value ↔ ∃ text, word = f.key ++ text ∧ f.read? text = some value := by
  simp [value?, Option.bind_eq_some_iff, eq_comm (a := word)]

theorem value?_eq_none_iff {word : List Char} :
    f.value? word = none ↔ ∀ text, word = f.key ++ text → f.read? text = none := by
  simp [value?, Option.bind_eq_none_iff, eq_comm (a := word)]

@[simp]
theorem isPrefixOf?_key (f : Field) (text : List Char) : f.key.isPrefixOf? (f.key ++ text) = some text :=
  List.isPrefixOf?_eq_some_iff_append_eq.mpr rfl

theorem isPrefixOf?_other (other : g ≠ f) (text : List Char) : f.key.isPrefixOf? (g.key ++ text) = none := by
  cases f <;> cases g <;> first | contradiction | rfl

theorem value?_append (f : Field) (text : List Char) : f.value? (f.key ++ text) = f.read? text := by
  simp [value?]

theorem value?_other (other : g ≠ f) (text : List Char) : f.value? (g.key ++ text) = none := by
  simp [value?, isPrefixOf?_other other]

theorem value?_of_unopened {word : List Char} (unopened : f.key.isPrefixOf? word = none) :
    f.value? word = none := by
  rw [value?, unopened, Option.bind_none]

theorem ofSetting?_setting (f : Field) (value : f.Value) : f.ofSetting? (f.setting value) = some value := by
  cases f <;> rfl

theorem ofSetting?_other (other : g ≠ f) (value : g.Value) : f.ofSetting? (g.setting value) = none := by
  cases f <;> cases g <;> first | contradiction | rfl

theorem bind_ofSetting? (f g : Field) (text : List Char) :
    ((g.read? text).map g.setting).bind f.ofSetting? = f.value? (g.key ++ text) := by
  by_cases same : g = f
  . subst same
    rw [value?_append, Option.bind_map]
    cases g.read? text with
    | none => rfl
    | some value => exact ofSetting?_setting g value
  . rw [value?_other same, Option.bind_map]
    cases g.read? text with
    | none => rfl
    | some value => exact ofSetting?_other same value

theorem ofWord?_bind (f : Field) (word : List Char) :
    (Setting.ofWord? word).bind f.ofSetting? = f.value? word := by
  unfold Setting.ofWord?
  split
  . next text opened =>
    rw [← List.isPrefixOf?_eq_some_iff_append_eq.mp opened]
    exact bind_ofSetting? f .background text
  . next first =>
    split
    . next text opened =>
      rw [← List.isPrefixOf?_eq_some_iff_append_eq.mp opened]
      exact bind_ofSetting? f .cursor text
    . next second =>
      split
      . next text opened =>
        rw [← List.isPrefixOf?_eq_some_iff_append_eq.mp opened]
        exact bind_ofSetting? f .level text
      . next third =>
        symm
        cases f with
        | background => exact value?_of_unopened first
        | cursor => exact value?_of_unopened second
        | level => exact value?_of_unopened third

theorem get_apply (f : Field) (options : Options) (setting : Setting) :
    f.get (options.apply setting) = (f.ofSetting? setting).getD (f.get options) := by
  cases f <;> cases setting <;> rfl

theorem get_foldl (f : Field) (options : Options) (settings : List Setting) :
    f.get (settings.foldl apply options) =
      ((settings.filterMap f.ofSetting?).getLast?).getD (f.get options) := by
  induction settings generalizing options with
  | nil => rfl
  | cons setting settings ih =>
    rw [List.foldl_cons, ih, get_apply]
    cases read : f.ofSetting? setting with
    | none => rw [List.filterMap_cons_none read, Option.getD_none]
    | some value => simp [List.filterMap_cons_some read, List.getLast?_cons]

theorem get_ofCommandLine {line : String} {words : List (List Char)} (spaced : Text.Spaced line.toList words)
    (f : Field) :
    f.get (ofCommandLine line) = ((words.filterMap f.value?).getLast?).getD (f.get standard) := by
  have each : (fun word => (Setting.ofWord? word).bind f.ofSetting?) = f.value? := funext f.ofWord?_bind
  rw [ofCommandLine, spaced.words_eq, get_foldl, List.filterMap_filterMap, each]

theorem lastRead_getLast? (f : Field) (words : List (List Char)) :
    f.LastRead words (((words.filterMap f.value?).getLast?).getD (f.get standard)) := by
  rw [List.getLast?_filterMap]
  cases found : words.reverse.findSome? f.value? with
  | none =>
    apply LastRead.standard
    intro text mem
    rw [← value?_append]
    exact List.findSome?_eq_none_iff.mp found _ (List.mem_reverse.mpr mem)
  | some value =>
    obtain ⟨after, word, before, split, given, rejected⟩ := List.findSome?_eq_some_iff.mp found
    obtain ⟨text, rfl, read⟩ := value?_eq_some_iff.mp given
    have split : words = before.reverse ++ (f.key ++ text) :: after.reverse := by
      rw [← List.reverse_reverse words, split]
      simp
    apply LastRead.read split read
    intro later mem
    rw [← value?_append]
    exact rejected _ (List.mem_reverse.mp mem)

end Field

def Ignored (word : List Char) : Prop :=
  ∀ (f : Field) (text : List Char), word = f.key ++ text → f.read? text = none

/-- Whether two lists of words say the same, since they differ in words that say nothing, and in the order of
words that do not have the same key. -/
inductive Alike : List (List Char) → List (List Char) → Prop where
  | ignored {word : List Char} (before after : List (List Char)) (ignored : Ignored word) :
    Alike (before ++ word :: after) (before ++ after)
  | permuted {words words' : List (List Char)} (perm : words.Perm words')
    (order : ∀ f : Field, words.filter f.opens = words'.filter f.opens) : Alike words words'
  | symm {words words' : List (List Char)} (alike : Alike words words') : Alike words' words
  | trans {words words' words'' : List (List Char)} (alike : Alike words words')
    (alike' : Alike words' words'') : Alike words words''

theorem Field.filterMap_value? (f : Field) (words : List (List Char)) :
    words.filterMap f.value? = (words.filter f.opens).filterMap f.value? := by
  rw [List.filterMap_filter]
  congr
  funext word
  cases opened : f.key.isPrefixOf? word with
  | none => simp [opens, opened, value?_of_unopened opened]
  | some text => simp [opens, opened]

theorem Alike.filterMap_eq {words words' : List (List Char)} (alike : Alike words words') (f : Field) :
    words.filterMap f.value? = words'.filterMap f.value? := by
  induction alike with
  | ignored before after ignored =>
    have silent : f.value? _ = none := Field.value?_eq_none_iff.mpr (ignored f)
    rw [List.filterMap_append, List.filterMap_cons_none silent, List.filterMap_append]
  | permuted perm order => rw [f.filterMap_value?, order f, ← f.filterMap_value?]
  | symm alike ih => exact ih.symm
  | trans alike alike' ih ih' => exact ih.trans ih'

theorem Alike.ofCommandLine_eq {line line' : String} {words words' : List (List Char)}
    (alike : Alike words words') (spaced : Text.Spaced line.toList words)
    (spaced' : Text.Spaced line'.toList words') : ofCommandLine line = ofCommandLine line' := by
  apply Field.ext
  intro f
  rw [f.get_ofCommandLine spaced, f.get_ofCommandLine spaced', alike.filterMap_eq f]

theorem ignored_of_rejected {f : Field} {text : List Char} (rejected : f.read? text = none) :
    Ignored (f.key ++ text) := by
  intro g text' split
  rw [← Field.value?_append, ← split]
  by_cases same : f = g
  . subst same
    rw [Field.value?_append, rejected]
  . exact Field.value?_other same text

theorem filterMap_written {options : Options} {text : Field → List Char}
    (written : ∀ f : Field, f.Written (f.get options) (text f)) {given : List (List Char)}
    (perm : given.Perm (Field.all.map fun f => f.key ++ text f)) (f : Field) :
    given.filterMap f.value? = [f.get options] := by
  have once : (Field.all.map fun f => f.key ++ text f).filterMap f.value? = [f.get options] := by
    have read := (f.value?_append (text f)).trans (written f).read
    cases f <;> simp [Field.all, read, Field.value?_other]
  rw [← List.perm_singleton, ← once]
  exact perm.filterMap f.value?

/-- Each option has the value of the last of the words of the line that has its key and can be read, or the
standard value if there is none. Blanks, words that say nothing, and the order of words with different keys do
not matter. A line that ends with all options written out, in any order, is read as just these options. -/
theorem last_read_word_counts :
    (∀ line : String, ∃ words, (∀ words', Text.Spaced line.toList words' ↔ words' = words)
      ∧ ∀ f : Field, f.LastRead words (f.get (ofCommandLine line)))
    ∧ (∀ (line line' : String) (words words' : List (List Char)), Text.Spaced line.toList words →
      Text.Spaced line'.toList words' → Alike words words' → ofCommandLine line = ofCommandLine line')
    ∧ ∀ (line : String) (others given : List (List Char)) (options : Options) (text : Field → List Char),
      Text.Spaced line.toList (others ++ given) → given.Perm (Field.all.map fun f => f.key ++ text f) →
      (∀ f : Field, f.Written (f.get options) (text f)) → ofCommandLine line = options := by
  refine ⟨?_, ?_, ?_⟩
  . intro line
    refine ⟨Text.words line.toList, ?_, ?_⟩
    . intro words
      rw [← Text.words_eq_iff, eq_comm]
    . intro f
      rw [f.get_ofCommandLine (Text.words_eq_iff.mp rfl)]
      exact f.lastRead_getLast? _
  . intro line line' words words' spaced spaced' alike
    exact alike.ofCommandLine_eq spaced spaced'
  . intro line others given options text spaced perm written
    apply Field.ext
    intro f
    rw [f.get_ofCommandLine spaced, List.filterMap_append, filterMap_written written perm f]
    simp

theorem last_read_word_counts_overridden :
    ofCommandLine "klog=info desktop.bg=#0080FF  mouse.pos=-2147483648,7 klog=TRACE desktop.bg=0xFFeeDD"
      = ⟨⟨0xFF, 0xEE, 0xDD⟩, ⟨.clamp (-2147483648), 7⟩, .trace⟩
    ∧ ofCommandLine "quiet klog=debug\tdesktop.bg=12345" = ofCommandLine " klog=debug" := by
  constructor
  . let text : Field → List Char
      | .background => "0x".toList ++ "FFeeDD".toList
      | .cursor => Setting.pointText ⟨.clamp (-2147483648), 7⟩
      | .level => "TRACE".toList
    apply last_read_word_counts.2.2 _ ["klog=info".toList, "desktop.bg=#0080FF".toList]
      ["mouse.pos=-2147483648,7".toList, "klog=TRACE".toList, "desktop.bg=0xFFeeDD".toList] _ text
    . exact Text.words_eq_iff.mp (by decide)
    . decide
    . intro f
      cases f with
      | background => exact .background (by decide) (by decide)
      | cursor => exact .cursor _
      | level => exact .level (by decide)
  . have silent : Ignored "quiet".toList := by
      rintro f text split
      cases f <;> cases split
    have rejected : Ignored (Field.background.key ++ "12345".toList) := ignored_of_rejected (by decide)
    apply last_read_word_counts.2.1 _ _ ["quiet".toList, "klog=debug".toList, "desktop.bg=12345".toList]
      ["klog=debug".toList]
    . exact Text.words_eq_iff.mp (by decide)
    . exact Text.words_eq_iff.mp (by decide)
    . exact .trans (.ignored [] _ silent) (.ignored ["klog=debug".toList] [] rejected)

end Options
end Overlay
