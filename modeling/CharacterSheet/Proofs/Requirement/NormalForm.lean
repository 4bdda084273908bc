import CharacterSheet.Proofs.Text.Lowering
import CharacterSheet.Proofs.Text.Search
import CharacterSheet.Requirement.Clause

/-!
# Normal forms of clauses

A normal form is in lower case, has no blank at its end and is no longer than the clause in lower
case. Lower-casing a clause does not change its normal form, and the normal form holds a narrative
phrase exactly if the clause in lower case does.
-/

namespace CharacterSheet.Clause

open Text

/-! ## Qualifiers -/

/-- A qualifier is dropped with the blanks before it. -/
theorem withoutQualifier?_eq_some_iff {s q t : List Char} :
    withoutQualifier? s q = some t ↔ ∃ front, s = front ++ ' ' :: q ∧ t = trimEndChars front := by
  have hblank : isBlank ' ' = true := by decide
  constructor
  · intro h
    rw [withoutQualifier?] at h
    split at h
    · next front hsuffix =>
      split at h
      · next hspace =>
        obtain ⟨front, rfl⟩ := List.getLast?_eq_some_iff.mp hspace
        rw [List.isSuffixOf?_eq_some_iff_append_eq] at hsuffix
        refine ⟨front, by rw [← hsuffix]; simp, ?_⟩
        rw [← Option.some.inj h]
        exact List.rdropWhile_concat_pos _ _ _ hblank
      · cases h
    · cases h
  · rintro ⟨front, rfl, rfl⟩
    have hsuffix : q.isSuffixOf? (front ++ ' ' :: q) = some (front ++ [' ']) := by
      rw [List.isSuffixOf?_eq_some_iff_append_eq]
      simp
    rw [withoutQualifier?, hsuffix]
    simp only [List.getLast?_concat, if_true, Option.some.injEq]
    exact List.rdropWhile_concat_pos _ _ _ hblank

/-- The text is kept, or it ends with a qualifier behind a plain space, and what stands before them
is kept without blanks at its end. -/
theorem stripQualifier_cases (s : List Char) :
    stripQualifier s = s ∨ ∃ q ∈ qualifiers, ∃ front, s = front ++ ' ' :: q ∧
      stripQualifier s = trimEndChars front := by
  rw [stripQualifier]
  cases hfind : qualifiers.findSome? (withoutQualifier? s) with
  | none => exact .inl rfl
  | some stripped =>
    obtain ⟨q, hq, hsome⟩ := List.exists_of_findSome?_eq_some hfind
    obtain ⟨front, hs, hfront⟩ := withoutQualifier?_eq_some_iff.mp hsome
    exact .inr ⟨q, hq, front, hs, hfront⟩

/-- A text is kept exactly if it does not end with a qualifier behind a plain space. -/
theorem stripQualifier_eq_self_iff (s : List Char) :
    stripQualifier s = s ↔ ∀ q ∈ qualifiers, ¬ ' ' :: q <:+ s := by
  constructor
  · rintro h q hq ⟨front, hs⟩
    have hfound : withoutQualifier? s q ≠ none := by
      rw [withoutQualifier?_eq_some_iff.mpr ⟨front, hs.symm, rfl⟩]
      simp
    -- some qualifier is found, and what is left without it is shorter
    cases hfind : qualifiers.findSome? (withoutQualifier? s) with
    | none => exact hfound (List.findSome?_eq_none_iff.mp hfind q hq)
    | some stripped =>
      obtain ⟨q', -, hsome⟩ := List.exists_of_findSome?_eq_some hfind
      obtain ⟨front', hs', rfl⟩ := withoutQualifier?_eq_some_iff.mp hsome
      rw [stripQualifier, hfind, Option.getD_some] at h
      have hshorter : (trimEndChars front').length ≤ front'.length :=
        (List.rdropWhile_prefix _ _).length_le
      rw [h, hs', List.length_append, List.length_cons] at hshorter
      omega
  · intro h
    rcases stripQualifier_cases s with heq | ⟨q, hq, front, hs, -⟩
    · exact heq
    · exact absurd ⟨front, hs.symm⟩ (h q hq)

/-- A qualifier is dropped from the end. -/
theorem stripQualifier_isPrefix (s : List Char) : stripQualifier s <+: s := by
  rcases stripQualifier_cases s with h | ⟨q, -, front, hs, h⟩
  · rw [h]
  · rw [h, hs]
    exact (List.rdropWhile_prefix _ _).trans (List.prefix_append _ _)

/-! ## Lower case -/

/-- A normal form lies in the text, lower-cased. -/
theorem normalForm_isInfix (s : List Char) : normalForm s <:+: lowerChars s := by
  have htrim : lowerChars (trimChars s) <:+: lowerChars s := by
    rw [← trimChars_lowerChars]
    exact (List.rdropWhile_prefix _ _).isInfix.trans (List.dropWhile_suffix _).isInfix
  have hstops : stripStops (lowerChars (trimChars s)) <+: lowerChars (trimChars s) :=
    List.rdropWhile_prefix _ _
  exact ((stripQualifier_isPrefix _).trans hstops).isInfix.trans htrim

/-- A normal form is no longer than the text, lower-cased. -/
theorem length_normalForm_le (s : List Char) : (normalForm s).length ≤ (lowerChars s).length :=
  (normalForm_isInfix s).length_le

/-- A normal form is in small letters. -/
theorem isSmall_of_mem_normalForm {s : List Char} {c : Char} (h : c ∈ normalForm s) : IsSmall c :=
  isSmall_of_mem_lowerFrom ((normalForm_isInfix s).subset h)

/-- A text may be lower-cased before it is brought into normal form. -/
@[simp] theorem normalForm_lowerChars (s : List Char) :
    normalForm (lowerChars s) = normalForm s := by
  rw [normalForm, trimChars_lowerChars, lowerChars_lowerChars, normalForm]

/-! ## Narrative phrases -/

/-- A text is narrative if a phrase is in it. -/
theorem isNarrative_iff (s : List Char) :
    isNarrative s = true ↔ ∃ p ∈ narrativePhrases, p <:+: s := by
  simp only [isNarrative, List.any_eq_true, containsChars_iff]

/-- A text of two parts is narrative exactly if one of them is, provided that each phrase in it lies
in one of them. -/
theorem isNarrative_eq_or {s t u : List Char}
    (h : ∀ p ∈ narrativePhrases, (p <:+: s ↔ p <:+: t ∨ p <:+: u)) :
    isNarrative s = (isNarrative t || isNarrative u) := by
  rw [Bool.eq_iff_iff, Bool.or_eq_true, isNarrative_iff, isNarrative_iff, isNarrative_iff,
    ← exists_or]
  apply exists_congr
  intro p
  rw [← and_or_left]
  exact and_congr_right (h p)

/-- No narrative phrase begins or ends with a blank or a full stop. -/
theorem narrativePhrases_ends : ∀ p ∈ narrativePhrases, ∃ hne : p ≠ [],
    isBlank (p.head hne) = false ∧
      ((p.getLast hne == '.') || isBlank (p.getLast hne)) = false := by decide

/-- No narrative phrase reaches into a qualifier. -/
theorem narrativePhrases_qualifiers : ∀ p ∈ narrativePhrases, ∀ q ∈ qualifiers,
    ¬ p <:+: ' ' :: q ∧ ∀ back ∈ p.tails, back ≠ [] → ¬ back <+: ' ' :: q := by decide

/-- No phrase is lost with a qualifier. -/
theorem infix_stripQualifier_iff {p : List Char} (hp : p ∈ narrativePhrases) (s : List Char) :
    p <:+: stripQualifier s ↔ p <:+: s := by
  obtain ⟨hne, -, hlast⟩ := narrativePhrases_ends p hp
  have hblank : ¬ isBlank (p.getLast hne) = true := by simp_all
  rcases stripQualifier_cases s with h | ⟨q, hq, front, hs, h⟩
  · rw [h]
  obtain ⟨hin, hacross⟩ := narrativePhrases_qualifiers p hp q hq
  have hfront : p <:+: stripQualifier s ↔ p <:+: front := by
    rw [h]
    exact infix_rdropWhile_iff hne hblank front
  rw [hfront, hs]
  -- a phrase neither lies in the qualifier nor reaches into it
  constructor
  · exact fun h => h.trans (List.prefix_append _ _).isInfix
  · intro h
    rcases infix_append_cases h with h | h | ⟨start, back, hsplit, -, hback, -, hstart⟩
    · exact h
    · exact absurd h hin
    · have hmem : back ∈ p.tails := (List.mem_tails _ _).mpr ⟨start, hsplit.symm⟩
      exact absurd hstart (hacross back hmem hback)

/-- Bringing a clause in lower case into normal form takes no narrative phrase away. -/
theorem isNarrative_normalForm (s : List Char) :
    isNarrative (normalForm s) = isNarrative (lowerChars s) := by
  rw [Bool.eq_iff_iff, isNarrative_iff, isNarrative_iff]
  apply exists_congr
  intro p
  apply and_congr_right
  intro hp
  -- narrative phrases begin and end with letters, so nothing that is stripped cuts one short
  obtain ⟨hne, hhead, hlast⟩ := narrativePhrases_ends p hp
  have hstops : p <:+: stripStops (lowerChars (trimChars s)) ↔ p <:+: lowerChars (trimChars s) :=
    infix_rdropWhile_iff hne (by simp [hlast]) _
  have hend : p <:+: trimChars (lowerChars s) ↔ p <:+: trimStartChars (lowerChars s) :=
    infix_rdropWhile_iff hne (by simp_all) _
  rw [normalForm, infix_stripQualifier_iff hp, hstops, ← trimChars_lowerChars, hend]
  exact infix_dropWhile_iff hne (by simp [hhead]) _

/-- A normal form has no blank at its end. -/
theorem isBlank_getLast_normalForm {s : List Char} (h : normalForm s ≠ []) :
    isBlank ((normalForm s).getLast h) = false := by
  have hstops : ∀ h : stripStops (lowerChars (trimChars s)) ≠ [],
      isBlank ((stripStops (lowerChars (trimChars s))).getLast h) = false := fun h => by
    have hlast := List.rdropWhile_last_not _ _ h
    simp only [Bool.or_eq_true, not_or, Bool.not_eq_true] at hlast
    exact hlast.2
  -- whether a qualifier was stripped or not, blanks were taken off the end last
  rcases stripQualifier_cases (stripStops (lowerChars (trimChars s))) with heq | ⟨_, _, _, _, heq⟩
  · simp only [normalForm, heq] at h ⊢
    exact hstops h
  · simp only [normalForm, heq] at h ⊢
    have hlast := List.rdropWhile_last_not _ _ h
    rwa [Bool.not_eq_true] at hlast

/-! ## Texts in normal form -/

/-- What a text in normal form looks like. -/
structure IsNormal (s : List Char) : Prop where
  small : ∀ c ∈ s, IsSmall c
  head : ∀ h : s ≠ [], isBlank (s.head h) = false
  last : ∀ h : s ≠ [], (s.getLast h == '.' || isBlank (s.getLast h)) = false
  unqualified : ∀ q ∈ qualifiers, ¬ ' ' :: q <:+ s

/-- Nothing is dropped from a text that ends with neither a full stop nor a blank. -/
theorem stripStops_eq_self_iff {s : List Char} :
    stripStops s = s ↔ ∀ h : s ≠ [], (s.getLast h == '.' || isBlank (s.getLast h)) = false := by
  have h := List.rdropWhile_eq_self_iff (p := fun c => c == '.' || isBlank c) (l := s)
  simp only [Bool.not_eq_true] at h
  exact h

/-- No end of a normal text is a blank. -/
theorem IsNormal.isBlank_getLast {u v : List Char} (h : IsNormal (u ++ v)) (hne : v ≠ []) :
    isBlank (v.getLast hne) = false := by
  have hlast := h.last (List.append_ne_nil_of_right_ne_nil _ hne)
  rw [List.getLast_append_of_ne_nil _ hne, Bool.or_eq_false_iff] at hlast
  exact hlast.2

/-- A normal text is trimmed. -/
theorem IsNormal.trimChars_eq {s : List Char} (h : IsNormal s) : trimChars s = s := by
  have hstart : trimStartChars s = s := trimStartChars_eq_self_iff.mpr h.head
  rw [trimChars, hstart, trimEndChars_eq_self_iff]
  exact IsNormal.isBlank_getLast (u := []) h

/-- The normal texts are those that are their own normal form. -/
theorem normalForm_eq_self_iff {s : List Char} : normalForm s = s ↔ IsNormal s := by
  constructor
  · intro h
    have hsmall : ∀ c ∈ s, IsSmall c := fun c hc => isSmall_of_mem_normalForm (by rwa [h])
    have hlower : lowerChars (trimChars s) = trimChars s :=
      lowerFrom_of_isSmall fun c hc => hsmall c (mem_of_mem_trimChars hc)
    rw [normalForm, hlower] at h
    -- each step keeps a part of the text, and nothing is lost in the end
    have hqualifier : stripQualifier (stripStops (trimChars s)) <+: stripStops (trimChars s) :=
      stripQualifier_isPrefix _
    have hstops : stripStops (trimChars s) <+: trimChars s := List.rdropWhile_prefix _ _
    have hend : trimChars s <+: trimStartChars s := List.rdropWhile_prefix _ _
    have hstart : trimStartChars s <:+ s := List.dropWhile_suffix _
    rw [h] at hqualifier
    have hkept : trimStartChars s = s := hstart.eq_of_length_le
      (hqualifier.length_le.trans (hstops.length_le.trans hend.length_le))
    have htrim : trimChars s = s := by
      rw [hkept] at hend
      exact hend.eq_of_length_le (hqualifier.length_le.trans hstops.length_le)
    rw [htrim] at h hqualifier hstops
    have hstop : stripStops s = s := hstops.eq_of_length_le hqualifier.length_le
    rw [hstop] at h
    exact ⟨hsmall, trimStartChars_eq_self_iff.mp hkept, stripStops_eq_self_iff.mp hstop,
      (stripQualifier_eq_self_iff s).mp h⟩
  · intro h
    have hlower : lowerChars s = s := lowerFrom_of_isSmall h.small
    have hstop : stripStops s = s := stripStops_eq_self_iff.mpr h.last
    rw [normalForm, h.trimChars_eq, hlower, hstop]
    exact (stripQualifier_eq_self_iff s).mpr h.unqualified

end CharacterSheet.Clause
