import Overlay.Text.Blank

/-!
This module contains the words of a text as a relation: a text consists of words and of blanks, of which at
least one stands between any two words. Every text is read in just one way.
-/

namespace Overlay
namespace Text

def IsWord (word : List Char) : Prop := word ≠ [] ∧ ∀ c ∈ word, isBlank c = false

inductive Spaced : List Char → List (List Char) → Prop where
  | nil : Spaced [] []
  | blank {c : Char} {text : List Char} {words : List (List Char)} (blank : isBlank c = true)
    (rest : Spaced text words) : Spaced (c :: text) words
  | last {word : List Char} (proper : IsWord word) : Spaced word [word]
  | word {word : List Char} {c : Char} {text : List Char} {words : List (List Char)}
    (proper : IsWord word) (blank : isBlank c = true) (rest : Spaced text words) :
    Spaced (word ++ c :: text) (word :: words)

variable {text word : List Char} {ws ws' : List (List Char)}

theorem IsWord.cons {c : Char} (solid : isBlank c = false) (proper : IsWord word) : IsWord (c :: word) := by
  simpa [IsWord, solid] using proper.2

theorem isWord_singleton {c : Char} (solid : isBlank c = false) : IsWord [c] := by
  simp [IsWord, solid]

theorem words_of_isWord (proper : IsWord word) : words word = [word] := by
  simp [words, List.splitOnP_eq_singleton proper.2, proper.1]

theorem words_append_blank {c : Char} (blank : isBlank c = true) (front rest : List Char) :
    words (front ++ c :: rest) = words front ++ words rest := by
  rw [words, words, words, List.splitOnP_append_cons _ _ blank, List.filter_append]

theorem words_cons_blank {c : Char} (blank : isBlank c = true) (rest : List Char) :
    words (c :: rest) = words rest := by
  simpa [words] using words_append_blank blank [] rest

theorem Spaced.words_eq (spaced : Spaced text ws) : words text = ws := by
  induction spaced with
  | nil => rfl
  | blank blank rest ih => rw [words_cons_blank blank, ih]
  | last proper => exact words_of_isWord proper
  | word proper blank rest ih =>
    rw [words_append_blank blank, words_of_isWord proper, ih]
    rfl

theorem Spaced.exists_cons {c : Char} (solid : isBlank c = false) (spaced : Spaced text ws) :
    ∃ ws', Spaced (c :: text) ws' := by
  cases spaced with
  | nil => exact ⟨_, .last (isWord_singleton solid)⟩
  | blank blank rest => exact ⟨_, .word (isWord_singleton solid) blank rest⟩
  | last proper => exact ⟨_, .last (proper.cons solid)⟩
  | word proper blank rest => exact ⟨_, .word (proper.cons solid) blank rest⟩

theorem exists_spaced (text : List Char) : ∃ ws, Spaced text ws := by
  induction text with
  | nil => exact ⟨_, .nil⟩
  | cons c text ih =>
    obtain ⟨ws, spaced⟩ := ih
    cases solid : isBlank c with
    | true => exact ⟨_, .blank solid spaced⟩
    | false => exact spaced.exists_cons solid

theorem words_eq_iff : words text = ws ↔ Spaced text ws := by
  constructor
  . rintro rfl
    obtain ⟨ws, spaced⟩ := exists_spaced text
    rw [spaced.words_eq]
    exact spaced
  . exact Spaced.words_eq

end Text
end Overlay
