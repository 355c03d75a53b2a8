import Mathlib.Data.List.DropRight
import ThemeBlocks.Text.Class

/-! What trimming leaves of a text: all of it but the blanks in front of the first character that can be
seen and behind the last one. -/

namespace ThemeBlocks.Text

variable {drop : Char → Bool} {text told : List Char}

structure IsTrimmed (drop : Char → Bool) (text told : List Char) : Prop where
  around : ∃ front back, text = front ++ (told ++ back) ∧ (∀ c ∈ front, drop c) ∧ ∀ c ∈ back, drop c
  first : ∀ c ∈ told.head?, drop c = false
  last : ∀ c ∈ told.getLast?, drop c = false

theorem isTrimmed_trimWhere (drop : Char → Bool) (text : List Char) :
    IsTrimmed drop text (trimWhere drop text) := by
  change IsTrimmed drop text ((text.dropWhile drop).rdropWhile drop)
  refine ⟨⟨text.takeWhile drop, (text.dropWhile drop).rtakeWhile drop, ?_, ?_, ?_⟩, ?_, ?_⟩
  · rw [List.rdropWhile_append_rtakeWhile, List.takeWhile_append_dropWhile]
  · intro c hc
    exact List.mem_takeWhile_imp hc
  · intro c hc
    exact List.mem_rtakeWhile_imp hc
  · intro c hc
    obtain ⟨back, hback⟩ := List.rdropWhile_prefix drop (l := text.dropWhile drop)
    have hfirst := List.head?_dropWhile_not drop text
    rw [← hback, List.head?_append, Option.mem_def.1 hc] at hfirst
    simpa using hfirst
  · intro c hc
    obtain ⟨hne, rfl⟩ := List.mem_getLast?_eq_getLast hc
    simpa using List.rdropWhile_last_not drop _ hne

namespace IsTrimmed

theorem eq_nil_iff (h : IsTrimmed drop text told) : told = [] ↔ ∀ c ∈ text, drop c := by
  obtain ⟨front, back, rfl, hfront, hback⟩ := h.around
  constructor
  · rintro rfl c hc
    rcases List.mem_append.1 hc with hc | hc
    · exact hfront c hc
    · exact hback c hc
  · intro hall
    cases told with
    | nil => rfl
    | cons c told =>
      have hdrop := hall c (by simp)
      rw [h.first c rfl] at hdrop
      cases hdrop

end IsTrimmed

end ThemeBlocks.Text
