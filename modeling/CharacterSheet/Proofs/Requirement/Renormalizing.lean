import CharacterSheet.Proofs.Requirement.NormalForm

/-!
# Normal forms of normal forms

Bringing a clause into normal form drops the full stops at its end and then one qualifier. What
stood before the qualifier may end with a full stop or with a qualifier itself, and that is dropped
when the normal form is normalized again. Nothing else changes the second time, so a normal form
that ends with neither is its own normal form, and reading it is reading the clause.
-/

namespace CharacterSheet.Clause

open Text

theorem normalForm_isPrefix (s : List Char) : normalForm s <+: trimChars (lowerChars s) := by
  rw [trimChars_lowerChars]
  exact (stripQualifier_isPrefix _).trans (List.rdropWhile_prefix _ _)

/-- A normal form has no blank at its beginning. -/
theorem isBlank_head_normalForm {s : List Char} (h : normalForm s ≠ []) :
    isBlank ((normalForm s).head h) = false := by
  have htrim : trimChars (lowerChars s) <+: trimStartChars (lowerChars s) :=
    List.rdropWhile_prefix _ _
  have hfront := (normalForm_isPrefix s).trans htrim
  have hne := hfront.ne_nil h
  have hstart : trimStartChars (trimStartChars (lowerChars s)) = trimStartChars (lowerChars s) :=
    List.dropWhile_idempotent (p := isBlank) _
  rw [hfront.head h]
  exact trimStartChars_eq_self_iff.mp hstart hne

/-- The text ends neither with a full stop nor with a qualifier behind a plain space. -/
structure IsSettled (s : List Char) : Prop where
  no_stop : ¬ ['.'] <:+ s
  unqualified : ∀ q ∈ qualifiers, ¬ ' ' :: q <:+ s

instance (s : List Char) : Decidable (IsSettled s) :=
  decidable_of_iff (¬ ['.'] <:+ s ∧ ∀ q ∈ qualifiers, ¬ ' ' :: q <:+ s)
    ⟨fun h => ⟨h.1, h.2⟩, fun h => ⟨h.no_stop, h.unqualified⟩⟩

theorem getLast_ne_of_not_isSuffix {s : List Char} {c : Char} (h : ¬ [c] <:+ s) (hne : s ≠ []) :
    s.getLast hne ≠ c := by
  rintro rfl
  exact h ⟨s.dropLast, List.dropLast_append_getLast hne⟩

/-- Of what makes a text normal, a normal form can only lack the right end. -/
theorem isNormal_normalForm_iff (s : List Char) :
    IsNormal (normalForm s) ↔ IsSettled (normalForm s) := by
  constructor
  · intro h
    refine ⟨?_, h.unqualified⟩
    rintro ⟨front, hend⟩
    have hlast := h.last (by simp [← hend])
    simp [← hend] at hlast
  -- the rest of being normal holds of every normal form
  · intro h
    refine ⟨fun c => isSmall_of_mem_normalForm, fun hne => isBlank_head_normalForm hne, ?_,
      h.unqualified⟩
    intro hne
    rw [Bool.or_eq_false_iff, beq_eq_false_iff_ne]
    exact ⟨getLast_ne_of_not_isSuffix h.no_stop hne, isBlank_getLast_normalForm hne⟩

theorem toList_normalize (text : String) : (normalize text).toList = normalForm text.toList :=
  String.toList_ofList

/-- A clause in normal form is its own normal form exactly if it ends neither with a full stop nor
with a qualifier behind a plain space. It is then read as the clause is, wherever it is read
again. -/
theorem normalize_normalize_iff (text : String) :
    (normalize (normalize text) = normalize text ↔ IsSettled (normalize text).toList) ∧
    (IsSettled (normalize text).toList → parse (normalize text) = parse text) := by
  have hfixed : normalForm (normalForm text.toList) = normalForm text.toList ↔
      IsSettled (normalForm text.toList) := by
    rw [normalForm_eq_self_iff, isNormal_normalForm_iff]
  rw [toList_normalize]
  constructor
  · rw [← hfixed, ← String.toList_inj, toList_normalize, toList_normalize]
  · intro h
    rw [parse, parse, toList_normalize, hfixed.mpr h]

/-- What stood before the qualifier may hold the same word, as long as it does not end with it. -/
theorem normalize_normalize_iff_training :
    IsSettled (normalize "  Feat Training feat. ").toList ∧
      normalize (normalize "  Feat Training feat. ") = normalize "  Feat Training feat. " ∧
      parse (normalize "  Feat Training feat. ") = parse "  Feat Training feat. " := by
  have hsettled : IsSettled (normalize "  Feat Training feat. ").toList := by decide
  obtain ⟨hiff, hparse⟩ := normalize_normalize_iff "  Feat Training feat. "
  exact ⟨hsettled, hiff.mpr hsettled, hparse hsettled⟩

/-- Of two qualifiers one is left, and behind a full stop the full stop is left. Both are dropped
the second time. -/
theorem normalize_normalize_ne :
    normalize (normalize "Dodge feat feat") ≠ normalize "Dodge feat feat" ∧
      normalize (normalize "Dodge. Feat") ≠ normalize "Dodge. Feat" := by
  decide

end CharacterSheet.Clause
