import CharacterSheet.Proofs.Requirement.EmptyLists
import CharacterSheet.Proofs.Requirement.Termination

/-!
# Clauses with a number

A clause that states a number is read as what it says exactly if its digits are Latin and the number
has at most 31 bits. No other form takes such a clause, since each form has a word with a letter in
it that the clause lacks. So with other digits the clause is the name of something to possess.
-/

namespace CharacterSheet.Clause

open Text

/-! ## The words of the other forms -/

/-- The words of the other forms: in each clause of such a form are all letters of one of them. -/
def otherWords : List (List Char) :=
  narrativePhrases ++ ["(".toList, "trained in ".toList, "appendage".toList, "locomotion".toList,
    "or".toList, "proficient with ".toList]

/-- All letters of a word of another form are in the text. -/
def SpellsOther (s : List Char) : Prop := ∃ word ∈ otherWords, word ⊆ s

section Other

variable {s : List Char}

/-- A narrative text has a phrase in it. -/
theorem spellsOther_of_isNarrative (h : isNarrative s = true) : SpellsOther s := by
  obtain ⟨phrase, hphrase, hin⟩ := (isNarrative_iff s).mp h
  exact ⟨phrase, List.mem_append_left _ hphrase, hin.subset⟩

/-- Grouped alternatives have a parenthesis. -/
theorem spellsOther_of_groups? (h : (groups? s).isSome = true) : SpellsOther s := by
  obtain ⟨⟨first, second⟩, hgroups⟩ := Option.isSome_iff_exists.mp h
  obtain ⟨gap, b, -, rfl⟩ := groups?_eq_some hgroups
  exact ⟨"(".toList, by decide, by simp⟩

/-- A text with the beginning of another form spells it. -/
theorem spellsOther_of_restOfLine? {beginning rest : List Char} (hword : beginning ∈ otherWords)
    (h : restOfLine? beginning s = some rest) : SpellsOther s := by
  obtain ⟨rfl, -⟩ := restOfLine?_eq_some_iff.mp h
  exact ⟨beginning, hword, List.subset_append_left _ _⟩

/-- A text with a word for limbs or for locomotion spells it. -/
theorem spellsOther_of_limb? {limb : List Char} (hlimb : (limb? limb).isSome = true)
    (hmem : limb ⊆ s) : SpellsOther s := by
  rw [limb?] at hlimb
  split at hlimb
  · next h =>
    subst h
    exact ⟨"locomotion".toList, by decide, hmem⟩
  split at hlimb
  · next h =>
    have hword : "appendage".toList ⊆ limb := by
      rcases h with rfl | rfl <;> decide
    exact ⟨"appendage".toList, by decide, List.Subset.trans hword hmem⟩
  · cases hlimb

/-- A text with both letters spells the word between alternatives. -/
theorem spellsOther_of_or (h : "or".toList ⊆ s) : SpellsOther s :=
  ⟨"or".toList, by decide, h⟩

/-- A clause on the size has both letters of `or`. -/
theorem spellsOther_of_sizeOrLarger? (h : (sizeOrLarger? s).isSome = true) : SpellsOther s := by
  obtain ⟨r, hr⟩ := Option.isSome_iff_exists.mp h
  obtain ⟨size, rfl, -⟩ := sizeOrLarger?_eq_some hr
  have hor : "or".toList ⊆ " or larger".toList := by decide
  rw [String.toList_append]
  exact spellsOther_of_or (List.Subset.trans hor (List.subset_append_right _ _))

/-- Free alternatives have both letters of `or`. -/
theorem spellsOther_of_hasFreeOr (h : hasFreeOr s = true) : SpellsOther s := by
  obtain ⟨b, b', -, -, hin⟩ := hasFreeOr_infix h
  have hor : "or".toList <:+: [b, 'o', 'r', b'] := ⟨[b], [b'], rfl⟩
  exact spellsOther_of_or (hor.trans hin).subset

/-- A clause about droids has both letters of `or`. -/
theorem spellsOther_of_droid? (h : (droid? s).isSome = true) : SpellsOther s := by
  obtain ⟨r, hr⟩ := Option.isSome_iff_exists.mp h
  have hor : "or".toList ⊆ "droid".toList := by decide
  exact spellsOther_of_or (List.Subset.trans hor (droid?_eq_some hr).1.subset)

/-- Each form before free alternatives spells its word. -/
theorem spellsOther_of_beforeOr? (h : (beforeOr? s).isSome = true) : SpellsOther s := by
  simp only [beforeOr?, Option.orElse_eq_orElse, Option.orElse_eq_or, Option.isSome_or,
    Bool.or_eq_true] at h
  rcases h with h | h | h
  · rw [trained?, Option.isSome_map] at h
    obtain ⟨rest, hrest⟩ := Option.isSome_iff_exists.mp h
    exact spellsOther_of_restOfLine? (by decide) hrest
  · obtain ⟨r, hr⟩ := Option.isSome_iff_exists.mp h
    obtain ⟨⟨limb, hlimb, hword⟩, -⟩ := appendage?_eq_some hr
    exact spellsOther_of_limb? hword (subset_of_mem_wordsBetween hlimb)
  · exact spellsOther_of_sizeOrLarger? h

/-- A text without the words of another form states a number, or else it is the name of something
to possess. -/
theorem ofNormalForm_of_not_spellsOther (h : ¬ SpellsOther s) :
    ofNormalForm s = some ((numeric? s).getD (.possession (String.ofList s))) := by
  have hnarrative : isNarrative s = false :=
    Bool.eq_false_iff.mpr (mt spellsOther_of_isNarrative h)
  have hgroups : groups? s = none := Option.not_isSome_iff_eq_none.mp (mt spellsOther_of_groups? h)
  have hbefore : beforeOr? s = none :=
    Option.not_isSome_iff_eq_none.mp (mt spellsOther_of_beforeOr? h)
  have hor : hasFreeOr s = false := Bool.eq_false_iff.mpr (mt spellsOther_of_hasFreeOr h)
  have hproficient : proficient? s = none := by
    rw [proficient?, Option.map_eq_none_iff, Option.eq_none_iff_forall_ne_some]
    exact fun rest hrest => h (spellsOther_of_restOfLine? (by decide) hrest)
  have hdroid : droid? s = none := Option.not_isSome_iff_eq_none.mp (mt spellsOther_of_droid? h)
  -- without any of the other words the clause is no alternative and in none of the other forms
  have hparts : parts s = [] := by
    simp only [parts, hnarrative, hgroups, hor, Bool.and_false, Bool.false_eq_true, if_false]
  rw [ofNormalForm_of_parts_eq_nil hparts, simple, hnarrative, hbefore, afterOr?_eq, hproficient,
    hdroid]
  simp

end Other

namespace Measure

/-- A clause that states a number has a letter too few for each word of another form. -/
theorem IsStated.not_spellsOther {measure : Measure} {digits s : List Char}
    (h : measure.IsStated digits s) (hdigits : IsNumeral digits) : ¬ SpellsOther s := by
  -- each of the other words has a letter that none of the forms with a number can hold
  have hmissing : ∀ word ∈ otherWords, ∃ c ∈ word,
      c ∉ measure.letters ∧ isBlank c = false ∧ isDecimalDigit c = false ∧ c ≠ '+' := by
    cases measure with
    | ability a => cases a <;> decide
    | baseAttackBonus => decide
    | characterLevel => decide
  rintro ⟨word, hword, hin⟩
  obtain ⟨c, hc, hletter, hblank, hdigit, hsign⟩ := hmissing word hword
  rcases h.mem_cases hdigits (hin hc) with h | h | h | h
  · exact hletter h
  · rw [hblank] at h
    cases h
  · rw [hdigit] at h
    cases h
  · exact hsign h

end Measure

/-! ## Requirements with a number -/

/-- Whether a requirement is one that a clause states with a number. -/
def asksForNumber : Requirement → Bool
  | .abilityAtLeast .. | .baseAttackBonus _ | .characterLevel _ => true
  | _ => false

/-- What a measure asks for is a number. -/
theorem asksForNumber_asks (measure : Measure) (n : Int32) :
    asksForNumber (measure.asks n) = true := by
  cases measure <;> rfl

/-- A clause on training asks for no number. -/
theorem asksForNumber_training (rest : List Char) : asksForNumber (training rest) = false := by
  rcases training_cases rest with ⟨-, h⟩ | ⟨-, h⟩ | ⟨-, h⟩ | ⟨-, -, h⟩ <;> rw [h] <;> rfl

/-- No form before free alternatives asks for a number. -/
theorem asksForNumber_beforeOr? {s : List Char} {r : Requirement} (h : beforeOr? s = some r) :
    asksForNumber r = false := by
  simp only [beforeOr?, Option.orElse_eq_orElse, Option.orElse_eq_or, Option.or_eq_some_iff] at h
  rcases h with h | ⟨-, h | ⟨-, h⟩⟩
  · obtain ⟨rest, -, rfl⟩ := Option.map_eq_some_iff.mp h
    exact asksForNumber_training rest
  · obtain ⟨-, count, kind, locomotion, rfl⟩ := appendage?_eq_some h
    rfl
  · obtain ⟨size, -, rfl⟩ := sizeOrLarger?_eq_some h
    rfl

/-- No form behind those with a number asks for one. -/
theorem asksForNumber_behindNumbers {s : List Char} {r : Requirement}
    (h : (proficient? s).or (droid? s) = some r) : asksForNumber r = false := by
  rcases Option.or_eq_some_iff.mp h with h | ⟨-, h⟩
  · obtain ⟨rest, -, rfl⟩ := Option.map_eq_some_iff.mp h
    rfl
  · obtain ⟨-, expected, rfl⟩ := droid?_eq_some h
    rfl

/-- Whatever asks for a number has been read by one of the forms that hold one. -/
theorem numeric?_of_asksForNumber {s : List Char} {r : Requirement} (h : ofNormalForm s = some r)
    (hasks : asksForNumber r = true) : numeric? s = some r := by
  by_cases hparts : parts s = []
  · rw [ofNormalForm_of_parts_eq_nil hparts, Option.some.injEq, simple] at h
    subst h
    split at hasks
    · cases hasks
    next hnarrative =>
    rw [if_neg hnarrative]
    cases hbefore : beforeOr? s with
    | some r =>
      rw [hbefore] at hasks
      exact absurd hasks (by simp [asksForNumber_beforeOr? hbefore])
    | none =>
      rw [hbefore, afterOr?_eq] at hasks
      rw [afterOr?_eq]
      cases hnumber : numeric? s with
      | some r => rfl
      | none =>
        rw [hnumber] at hasks
        cases hbehind : (proficient? s).or (droid? s) with
        | some r =>
          rw [hbehind] at hasks
          exact absurd hasks (by simp [asksForNumber_behindNumbers hbehind])
        | none =>
          rw [hbehind] at hasks
          cases hasks
  · obtain ⟨options, rfl, -⟩ := exists_eq_anyOf hparts h
    cases hasks

/-- A clause asks for the score of an ability, a base attack bonus or a character level exactly if
its normal form states that number in Latin digits, and the number has at most 31 bits. With a
larger number or other digits, such a clause is the name of something to possess. -/
theorem parse_eq_asks_iff (text : String) :
    (∀ (measure : Measure) (n : Int32), parse text = some (measure.asks n) ↔
      ∃ digits, measure.IsStated digits (normalForm text.toList) ∧ Writes digits n) ∧
    (∀ (measure : Measure) (digits : List Char),
      measure.IsStated digits (normalForm text.toList) → IsNumeral digits →
      2147483647 < Decimal.ofDigits digits ∨ (∃ c ∈ digits, Decimal.isDigit c = false) →
      parse text = some (.possession (normalize text))) := by
  constructor
  · intro measure n
    constructor
    · intro h
      -- what is asked for tells its measure and number, so they are those that were read
      obtain ⟨measure', digits, n', hs, hn, heq⟩ :=
        numeric?_eq_some (numeric?_of_asksForNumber h (asksForNumber_asks measure n))
      obtain ⟨rfl, rfl⟩ := Measure.asks_inj heq
      exact ⟨digits, hs, hn⟩
    · rintro ⟨digits, hs, hn⟩
      rw [parse, ofNormalForm_of_not_spellsOther (hs.not_spellsOther hn.isNumeral),
        numeric?_eq_some_iff.mpr ⟨measure, digits, n, hs, hn, rfl⟩]
      rfl
  · intro measure digits hs hdigits hunread
    have hnone : numeric? (normalForm text.toList) = none := by
      rw [Option.eq_none_iff_forall_ne_some]
      intro r hr
      -- another reading would be of the same digits, which are too large or not the common ones
      obtain ⟨measure', digits', n, hs', hn, -⟩ := numeric?_eq_some hr
      obtain ⟨-, rfl⟩ := hs.unique hs' hdigits hn.isNumeral
      rcases hunread with hlarge | ⟨c, hc, hother⟩
      · exact absurd hn.le_max (by omega)
      · rw [hn.latin c hc] at hother
        cases hother
    rw [parse, ofNormalForm_of_not_spellsOther (hs.not_spellsOther hdigits), hnone]
    rfl

/-- A score is read, but neither is a bonus of more than 31 bits nor an Arabic level. -/
theorem parse_eq_asks_iff_dexterity :
    ((Measure.ability .dexterity).IsStated "13".toList (normalForm " Dex  13+. ".toList) ∧
      Writes "13".toList 13 ∧ parse " Dex  13+. " = some (.abilityAtLeast .dexterity 13)) ∧
    (Measure.baseAttackBonus.IsStated "2147483648".toList
        (normalForm "Base attack bonus +2147483648".toList) ∧
      parse "Base attack bonus +2147483648" =
        some (.possession "base attack bonus +2147483648")) ∧
    (Measure.characterLevel.IsStated ['٥'] (normalForm "٥th character level".toList) ∧
      parse "٥th character level" = some (.possession "٥th character level")) := by
  refine ⟨?_, ?_, ?_⟩
  · have hs : (Measure.ability .dexterity).IsStated "13".toList
        (normalForm " Dex  13+. ".toList) :=
      ⟨"dex", [' ', ' '], ['+'], .inr rfl, by decide, by decide, .inr rfl,
        by decide⟩
    have hn : Writes "13".toList 13 :=
      ⟨by decide, by decide, by decide, by decide⟩
    exact ⟨hs, hn, ((parse_eq_asks_iff _).1 _ _).mpr ⟨_, hs, hn⟩⟩
  · have hs : Measure.baseAttackBonus.IsStated "2147483648".toList
        (normalForm "Base attack bonus +2147483648".toList) :=
      ⟨[' '], ['+'], by decide, .inr rfl, by decide⟩
    have hdigits : IsNumeral "2147483648".toList := ⟨by decide, by decide⟩
    have hname : normalize "Base attack bonus +2147483648" = "base attack bonus +2147483648" := by
      decide
    refine ⟨hs, ?_⟩
    rw [(parse_eq_asks_iff _).2 _ _ hs hdigits (.inl (by decide)), hname]
  · have hs : Measure.characterLevel.IsStated ['٥'] (normalForm "٥th character level".toList) :=
      ⟨"th".toList, [' '], by decide, by decide, by decide, by decide⟩
    have hdigits : IsNumeral ['٥'] := ⟨by decide, by decide⟩
    have hname : normalize "٥th character level" = "٥th character level" := by decide
    refine ⟨hs, ?_⟩
    rw [(parse_eq_asks_iff _).2 _ _ hs hdigits (.inr (by decide)), hname]

end CharacterSheet.Clause
