import CharacterSheet.Proofs.Text.Numeral
import CharacterSheet.Proofs.Value.IntegerTexts

/-!
# Counts behind a separator

A text is divided at its last separator, so no other one stands behind it. What stands there is a
count if it is a whole number of 32 bits.
-/

namespace CharacterSheet.Text

/-! ## The last separator -/

/-- What stands before the last separator and behind it. -/
theorem splitLast?_eq_some_iff {separator : Char} {s front back : String} :
    splitLast? separator s = some (front, back) ↔
      s.toList = front.toList ++ separator :: back.toList ∧ separator ∉ back.toList := by
  rw [splitLast?]
  constructor
  · intro h
    split at h
    · cases h
    next c rest hdrop =>
    obtain rfl : c = separator := by
      have hc := List.head?_dropWhile_not (· != separator) s.toList.reverse
      rw [hdrop] at hc
      simpa using hc
    simp only [Option.some.injEq, Prod.mk.injEq] at h
    obtain ⟨rfl, rfl⟩ := h
    rw [String.toList_ofList, String.toList_ofList]
    constructor
    -- the text was read backwards: what is taken is free of the separator, which comes next
    · have hsplit := List.takeWhile_append_dropWhile (p := (· != c)) (l := s.toList.reverse)
      rw [hdrop] at hsplit
      have hreverse := congrArg List.reverse hsplit
      simpa using hreverse.symm
    · intro hmem
      exact absurd (List.mem_takeWhile_imp (List.mem_reverse.mp hmem)) (by simp)
  · rintro ⟨hs, hback⟩
    have hfree : ∀ c ∈ back.toList.reverse, (c != separator) = true := by
      intro c hc
      rw [bne_iff_ne]
      rintro rfl
      exact hback (List.mem_reverse.mp hc)
    have hreverse : s.toList.reverse =
        back.toList.reverse ++ separator :: front.toList.reverse := by
      rw [hs]
      simp
    simp [hreverse, List.dropWhile_append_of_pos hfree, List.takeWhile_append_of_pos hfree]

/-- A text without the separator is not split. -/
theorem splitLast?_eq_none_iff {separator : Char} {s : String} :
    splitLast? separator s = none ↔ separator ∉ s.toList := by
  have hdrop : s.toList.reverse.dropWhile (· != separator) = [] ↔ separator ∉ s.toList := by
    simp only [List.dropWhile_eq_nil_iff, List.mem_reverse, bne_iff_ne]
    exact ⟨fun h hmem => h separator hmem rfl, fun h c hc heq => h (heq ▸ hc)⟩
  rw [splitLast?, ← hdrop]
  split
  · next hnil => exact iff_of_true rfl hnil
  · next hcons => exact iff_of_false nofun (by rw [hcons]; exact List.cons_ne_nil _ _)

/-! ## Counts in text -/

/-- A text is a whole number in Latin digits, behind one sign or none. -/
inductive IsInteger : List Char → Int → Prop where
  | plain {digits : List Char} (hne : digits ≠ [])
    (hdigits : ∀ c ∈ digits, Decimal.isDigit c = true) :
    IsInteger digits (Decimal.ofDigits digits)
  | plus {digits : List Char} (hne : digits ≠ [])
    (hdigits : ∀ c ∈ digits, Decimal.isDigit c = true) :
    IsInteger ('+' :: digits) (Decimal.ofDigits digits)
  | minus {digits : List Char} (hne : digits ≠ [])
    (hdigits : ∀ c ∈ digits, Decimal.isDigit c = true) :
    IsInteger ('-' :: digits) (-Decimal.ofDigits digits)

/-- A text is a whole number of 32 bits with a sign. -/
def IsInt32 (s : List Char) (n : Int) : Prop :=
  IsInteger s n ∧ -2147483648 ≤ n ∧ n ≤ 2147483647

variable {s digits : List Char} {n : Int}

/-- A text has a minus, a plus or no sign. -/
theorem sign_cases (s : List Char) :
    (∃ digits, s = '-' :: digits) ∨ (∃ digits, s = '+' :: digits) ∨
      Decimal.sign s = (false, s) := by
  rw [Decimal.sign.eq_def]
  split
  · exact .inl ⟨_, rfl⟩
  · exact .inr (.inl ⟨_, rfl⟩)
  · exact .inr (.inr rfl)

/-- Digits behind a minus may come to one more than others. -/
theorem int32?_of_minus (hsign : Decimal.sign s = (true, digits)) :
    int32? s = some n ↔
      ∃ m, natUpTo? 2147483648 digits = some m ∧ -(m : Int) = n := by
  simp [int32?, hsign, Option.bind_eq_some_iff]

theorem int32?_of_plus (hsign : Decimal.sign s = (false, digits)) :
    int32? s = some n ↔ ∃ m, natUpTo? 2147483647 digits = some m ∧ (m : Int) = n := by
  simp [int32?, hsign, Option.bind_eq_some_iff]

/-- The sign decides how far the digits may go. -/
theorem int32?_eq_some_iff : int32? s = some n ↔ IsInt32 s n := by
  constructor
  · intro h
    -- the sign decides how the digits are bounded
    rcases sign_cases s with ⟨digits, rfl⟩ | ⟨digits, rfl⟩ | hsign
    · obtain ⟨m, hm, rfl⟩ := (int32?_of_minus rfl).mp h
      obtain ⟨hne, hdigits, hle, rfl⟩ := natUpTo?_eq_some_iff.mp hm
      exact ⟨.minus hne hdigits, by omega, by omega⟩
    · obtain ⟨m, hm, rfl⟩ := (int32?_of_plus rfl).mp h
      obtain ⟨hne, hdigits, hle, rfl⟩ := natUpTo?_eq_some_iff.mp hm
      exact ⟨.plus hne hdigits, by omega, by omega⟩
    · obtain ⟨m, hm, rfl⟩ := (int32?_of_plus hsign).mp h
      obtain ⟨hne, hdigits, hle, rfl⟩ := natUpTo?_eq_some_iff.mp hm
      exact ⟨.plain hne hdigits, by omega, by omega⟩
  · rintro ⟨hinteger, hleast, hgreatest⟩
    cases hinteger with
    | plain hne hdigits =>
      exact (int32?_of_plus (Decimal.sign_of_isDigit hdigits)).mpr
        ⟨_, natUpTo?_eq_some_iff.mpr ⟨hne, hdigits, by omega, rfl⟩, rfl⟩
    | plus hne hdigits =>
      exact (int32?_of_plus rfl).mpr
        ⟨_, natUpTo?_eq_some_iff.mpr ⟨hne, hdigits, by omega, rfl⟩, rfl⟩
    | minus hne hdigits =>
      exact (int32?_of_minus rfl).mpr
        ⟨_, natUpTo?_eq_some_iff.mpr ⟨hne, hdigits, by omega, rfl⟩, rfl⟩

end CharacterSheet.Text
