import CharacterSheet.Proofs.Text.Lowering
import CharacterSheet.Proofs.Text.Trimming

/-!
# Folded names

Folding a name a second time changes nothing. A comparison that folds no letters but the 26 Latin
capitals agrees with a folded name exactly if the other name has no capitals but these.
-/

namespace CharacterSheet.Text

/-! ## Folding -/

theorem toList_fold (s : String) : (fold s).toList = lowerChars (trimChars s.toList) := by
  simp [fold, lower, trim]

/-- A folded text has small characters only. -/
theorem isSmall_of_mem_fold {s : String} {c : Char} (h : c ∈ (fold s).toList) : IsSmall c := by
  rw [toList_fold] at h
  exact isSmall_of_mem_lowerFrom h

/-- A folded text is trimmed. -/
theorem trim_fold (s : String) : trim (fold s) = fold s := by
  rw [trim, toList_fold, trimChars_lowerChars, trimChars_trimChars, ← toList_fold,
    String.ofList_toList]

/-- Folding a second time changes nothing. -/
theorem fold_fold (s : String) : fold (fold s) = fold s := by
  have hlower : lowerChars (fold s).toList = (fold s).toList :=
    lowerFrom_of_isSmall fun _ => isSmall_of_mem_fold
  rw [fold, trim_fold, lower, hlower, String.ofList_toList]

theorem fold_of_trim {s : String} (h : trim s = s) : fold s = lower s := by
  rw [fold, h]

/-- It makes no difference whether a text is trimmed or lower-cased first. -/
theorem trim_lower_eq_fold (s : String) : trim (lower s) = fold s := by
  rw [trim, lower, String.toList_ofList, trimChars_lowerChars, ← toList_fold, String.ofList_toList]

/-- Folding a lowered text is folding the text. -/
theorem fold_lower (s : String) : fold (lower s) = fold s := by
  rw [fold, trim_lower_eq_fold, ← fold_of_trim (trim_fold s), fold_fold]

/-- A name and what stands in parentheses behind it are folded apart. -/
theorem fold_parenthesized {front : String} (hne : front.toList ≠ [])
    (hfront : trimStartChars front.toList = front.toList) (s : String) :
    fold (front ++ (" (" ++ s ++ ")")) = lower front ++ (" (" ++ lower s ++ ")") := by
  have hblank : IsBreak ' ' := by decide
  have hopen : IsBreak '(' := by decide
  have hclose : IsBreak ')' := by decide
  have hlist : (front ++ (" (" ++ s ++ ")")).toList =
      front.toList ++ ((' ' :: '(' :: s.toList) ++ [')']) := by
    simp
  -- lowering goes on afresh behind a blank or a bracket, since the final sigma looks no further
  rw [← String.toList_inj, toList_fold, hlist,
    trimChars_append_concat hne hfront (by decide : isBlank ')' = false), ← List.append_assoc,
    lowerChars_append_break hclose, lowerChars_append_break hblank,
    ← List.nil_append ('(' :: s.toList), lowerChars_append_break hopen]
  simp [lower, lowerChars, lowerFrom]

/-! ## Latin capitals -/

/-- The text has no capitals but the 26 Latin ones. -/
def HasLatinCapitals (s : String) : Prop := ∀ c ∈ s.toList, IsSmall c ∨ ('A' ≤ c ∧ c ≤ 'Z')

instance (s : String) : Decidable (HasLatinCapitals s) :=
  inferInstanceAs (Decidable (∀ c ∈ s.toList, _))

/-- A capital of the alphabet is lower-cased alike, whichever way it is done. -/
theorem lowerChar_of_latin {c : Char} (h : 'A' ≤ c ∧ c ≤ 'Z') : lowerChar c = [asciiLower c] := by
  have hall : ∀ i ∈ List.range 26,
      lowerChar (Char.ofNat (0x41 + i)) = [asciiLower (Char.ofNat (0x41 + i))] := by decide
  have hfirst : 0x41 ≤ c.toNat := h.1
  have hlast : c.toNat ≤ 0x5A := h.2
  have hc := hall (c.toNat - 0x41) (List.mem_range.mpr (by omega))
  rwa [Nat.add_sub_cancel' hfirst, Char.ofNat_toNat] at hc

theorem asciiLower_of_isSmall {c : Char} (h : IsSmall c) : asciiLower c = c := by
  by_cases hlatin : 'A' ≤ c ∧ c ≤ 'Z'
  · have hc := lowerChar_of_latin hlatin
    rw [h] at hc
    exact (List.singleton_inj.mp hc).symm
  · rw [asciiLower, if_neg hlatin]

/-- Where all capitals are Latin, lower-casing does no more than the narrow mapping. -/
theorem lowerFrom_of_latin {s : List Char} (h : ∀ c ∈ s, IsSmall c ∨ ('A' ≤ c ∧ c ≤ 'Z'))
    (before : List Char) : lowerFrom before s = s.map asciiLower := by
  induction s generalizing before with
  | nil => rfl
  | cons c rest ih =>
    have hrest := ih (fun d hd => h d (List.mem_cons_of_mem _ hd)) (c :: before)
    rcases h c List.mem_cons_self with hc | hc
    · rw [lowerFrom_cons_of_isSmall hc, hrest, List.map_cons, asciiLower_of_isSmall hc]
    · have hsigma : c ≠ 'Σ' := by
        rintro rfl
        exact absurd hc (by decide)
      rw [lowerFrom, if_neg hsigma, lowerChar_of_latin hc, hrest]
      rfl

/-- A comparison in Latin case finds a folded name in a text exactly if the text has no capitals but
Latin ones and folds to that name. -/
theorem sameLatin_trim_fold_iff {s t : String} :
    sameLatin (trim s) (fold t) = true ↔ HasLatinCapitals s ∧ fold s = fold t := by
  have hfolded : (fold t).toList.map asciiLower = (fold t).toList :=
    (List.map_congr_left fun c hc => asciiLower_of_isSmall (isSmall_of_mem_fold hc)).trans
      (List.map_id _)
  have htrim : (trim s).toList = trimChars s.toList := String.toList_ofList
  rw [sameLatin, beq_iff_eq, hfolded, htrim]
  constructor
  · intro h
    have hlatin : ∀ c ∈ trimChars s.toList, IsSmall c ∨ ('A' ≤ c ∧ c ≤ 'Z') := by
      intro c hc
      by_cases hcapital : 'A' ≤ c ∧ c ≤ 'Z'
      · exact .inr hcapital
      -- any other character stands in the folded name as it is
      have hmem : asciiLower c ∈ (fold t).toList := h ▸ List.mem_map_of_mem hc
      rw [asciiLower, if_neg hcapital] at hmem
      exact .inl (isSmall_of_mem_fold hmem)
    refine ⟨fun c hc => ?_, ?_⟩
    · cases hblank : isBlank c with
      | true => exact .inl (IsSeparator.isBreak (.inl hblank)).1
      | false => exact hlatin c (mem_trimChars hc hblank)
    · rw [← String.toList_inj, toList_fold s, lowerChars, lowerFrom_of_latin hlatin, h]
  · rintro ⟨hlatin, hfold⟩
    rw [← hfold, toList_fold, lowerChars,
      lowerFrom_of_latin fun c hc => hlatin c (mem_of_mem_trimChars hc)]

end CharacterSheet.Text
