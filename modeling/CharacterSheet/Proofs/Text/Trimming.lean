import CharacterSheet.Text.Basic
import Mathlib.Data.List.DropRight
import Mathlib.Data.List.Infix

/-!
# Trimming

A text is trimmed if it is empty or neither begins nor ends with a blank. Trimming takes away blanks
only, and what it leaves is trimmed.
-/

namespace CharacterSheet.Text

/-! ## Leading blanks -/

/-- Blanks at the beginning do not matter for what is left without them. -/
theorem trimStartChars_append_of_blanks {gap : List Char} (h : ∀ c ∈ gap, isBlank c = true)
    (s : List Char) : trimStartChars (gap ++ s) = trimStartChars s :=
  List.dropWhile_append_of_pos h

/-- Nothing is trimmed in front of a text that does not begin with a blank. -/
theorem trimStartChars_eq_self_iff {s : List Char} :
    trimStartChars s = s ↔ ∀ h : s ≠ [], isBlank (s.head h) = false := by
  cases s with
  | nil => simp [trimStartChars]
  | cons c rest =>
    rw [trimStartChars, List.dropWhile_eq_self_iff]
    simp

theorem trimStartChars_append {u : List Char} (hne : u ≠ []) (h : trimStartChars u = u)
    (v : List Char) : trimStartChars (u ++ v) = u ++ v := by
  have hhead := trimStartChars_eq_self_iff.mp h
  rw [trimStartChars_eq_self_iff]
  intro happend
  rw [List.head_append_of_ne_nil hne]
  exact hhead hne

/-! ## Trailing blanks -/

/-- Nothing is trimmed behind a text that does not end with a blank. -/
theorem trimEndChars_eq_self_iff {s : List Char} :
    trimEndChars s = s ↔ ∀ h : s ≠ [], isBlank (s.getLast h) = false := by
  have h := List.rdropWhile_eq_self_iff (p := isBlank) (l := s)
  simp only [Bool.not_eq_true] at h
  exact h

theorem trimEndChars_of_trimChars {s : List Char} (h : trimChars s = s) : trimEndChars s = s := by
  have hend : trimChars s <+: trimStartChars s := List.rdropWhile_prefix _ _
  have hstart : trimStartChars s = s := by
    rw [h] at hend
    exact (List.dropWhile_suffix _).eq_of_length_le hend.length_le
  rwa [trimChars, hstart] at h

/-! ## Both ends -/

/-- Trimming keeps what is no blank. -/
theorem mem_trimChars {s : List Char} {c : Char} (hc : c ∈ s) (hblank : isBlank c = false) :
    c ∈ trimChars s := by
  have hstart : c ∈ trimStartChars s := by
    -- only blanks are taken away in front, and only blanks behind
    rw [← List.takeWhile_append_dropWhile (p := isBlank) (l := s), List.mem_append] at hc
    rcases hc with hc | hc
    · rw [List.mem_takeWhile_imp hc] at hblank
      cases hblank
    · exact hc
  have hsplit : trimChars s ++ (trimStartChars s).rtakeWhile isBlank = trimStartChars s :=
    List.rdropWhile_append_rtakeWhile
  rw [← hsplit, List.mem_append] at hstart
  rcases hstart with hc | hc
  · exact hc
  · rw [List.mem_rtakeWhile_imp hc] at hblank
    cases hblank

theorem mem_of_mem_trimChars {s : List Char} {c : Char} (hc : c ∈ trimChars s) : c ∈ s :=
  (List.dropWhile_suffix _).subset ((List.rdropWhile_prefix _ _).subset hc)

/-- Nothing is left of a text of blanks, and of no other one. -/
theorem trimChars_eq_nil_iff {s : List Char} : trimChars s = [] ↔ ∀ c ∈ s, isBlank c = true := by
  constructor
  · intro h c hc
    by_contra hblank
    have hmem := mem_trimChars hc (by simpa using hblank)
    rw [h] at hmem
    cases hmem
  · intro h
    exact List.rdropWhile_eq_nil_iff.mpr fun c hc => h c ((List.dropWhile_suffix _).subset hc)

/-- A text that is not empty is trimmed if it has no blank at either end. -/
theorem trimChars_eq_self {s : List Char} (hne : s ≠ []) (hhead : isBlank (s.head hne) = false)
    (hlast : isBlank (s.getLast hne) = false) : trimChars s = s := by
  have hstart : trimStartChars s = s := trimStartChars_eq_self_iff.mpr fun _ => hhead
  rw [trimChars, hstart]
  exact trimEndChars_eq_self_iff.mpr fun _ => hlast

/-- What begins with no blank and ends with another character than a blank is trimmed. -/
theorem trimChars_append_concat {u : List Char} (hne : u ≠ []) (hu : trimStartChars u = u)
    {c : Char} (hc : isBlank c = false) (v : List Char) :
    trimChars (u ++ (v ++ [c])) = u ++ (v ++ [c]) := by
  rw [trimChars, trimStartChars_append hne hu, ← List.append_assoc]
  exact List.rdropWhile_concat_neg _ _ _ (by simp [hc])

/-- Trimming a second time changes nothing. -/
theorem trimChars_trimChars (s : List Char) : trimChars (trimChars s) = trimChars s := by
  by_cases hne : trimChars s = []
  · rw [hne]
    rfl
  · have hstart : trimChars s <+: trimStartChars s := List.rdropWhile_prefix _ _
    refine trimChars_eq_self hne ?_ ?_
    · rw [hstart.head hne]
      exact List.head_dropWhile_not _ _
    · rw [← Bool.not_eq_true]
      exact List.rdropWhile_last_not _ _ hne

end CharacterSheet.Text
