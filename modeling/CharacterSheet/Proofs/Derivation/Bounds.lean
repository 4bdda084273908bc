import CharacterSheet.Proofs.Attack.DiceLadder
import CharacterSheet.Proofs.Derivation.Composition
import CharacterSheet.Proofs.Derivation.Remembering
import Mathlib.Algebra.BigOperators.Group.List.Basic
import Mathlib.Algebra.Ring.Int.Defs
import Mathlib.Data.List.Induction

/-!
# Bounds on what is derived

Whatever a character brings along, shields and health are within their bounds, the condition is a
step of the track, and the levels are those of the classes, as far as they can be counted in 32
bits. A number can only be brought into a range whose bounds do not cross; all ranges that a
derivation uses begin at zero and end at or above zero. The one exception is a ladder of dice that
is too long for its last place to be counted.
-/

namespace CharacterSheet

/-! ## Ranges -/

/-- A range from zero on has every number brought into it. -/
theorem clamp?_zero {high : Int} (h : 0 ≤ high) (n : Int) :
    clamp? 0 high n = some (clampBelow high n) := if_pos h

/-- Nothing below zero is left. -/
theorem clampBelow_nonneg (high n : Int) : 0 ≤ clampBelow high n := Int.le_max_left _ _

/-- Nothing above the range is left. -/
theorem clampBelow_le {high : Int} (h : 0 ≤ high) (n : Int) : clampBelow high n ≤ high :=
  Int.max_le.mpr ⟨h, Int.min_le_left _ _⟩

/-- Every size and tier have a die, unless the ladder is too long. -/
theorem Wielder.isSome_unarmedDie? {ladder : List Nat} (h : ladder.length ≤ 2147483648)
    (size : Size) (tier : Nat) : (unarmedDie? size tier ladder).isSome = true := by
  have htop : word (ladder.length - 1 : Nat) = (ladder.length - 1 : Nat) :=
    IsWord.word_eq ⟨by omega, by omega⟩
  rw [unarmedDie?, htop, clamp?_zero (Int.natCast_nonneg _)]
  rfl

/-! ## Levels -/

namespace Profile

/-- No entry of a table is listed twice. -/
theorem nodup_toList (counts : Std.ExtTreeMap String Int) : counts.toList.Nodup :=
  Std.ExtTreeMap.distinct_keys_toList.imp fun {a b} hne (heq : a = b) =>
    hne (heq ▸ Std.ReflCmp.compare_self)

/-- An entry can be counted apart from the others. -/
theorem sum_eq_add_sum_erase {counts : Std.ExtTreeMap String Int} {name : String} {n : Int}
    (h : counts[name]? = some n) :
    (counts.toList.map (·.2)).sum = n + ((counts.erase name).toList.map (·.2)).sum := by
  -- the entries are the entry under `name` and all the others, in some order
  have hperm : counts.toList.Perm ((name, n) :: (counts.erase name).toList) := by
    have hnot : (name, n) ∉ (counts.erase name).toList := by
      simp [Std.ExtTreeMap.mem_toList_iff_getElem?_eq_some]
    rw [List.perm_ext_iff_of_nodup (nodup_toList _) (List.nodup_cons.mpr ⟨hnot, nodup_toList _⟩)]
    rintro ⟨other, m⟩
    rw [List.mem_cons, Std.ExtTreeMap.mem_toList_iff_getElem?_eq_some,
      Std.ExtTreeMap.mem_toList_iff_getElem?_eq_some, Std.ExtTreeMap.getElem?_erase, Prod.mk.injEq]
    by_cases heq : name = other
    · subst heq
      simp [h, eq_comm]
    · simp [heq, Ne.symm heq]
  rw [(hperm.map _).sum_eq, List.map_cons, List.sum_cons]

/-- One more of a name is one more altogether. -/
theorem sum_insert_succ (counts : Std.ExtTreeMap String Int) (name : String) :
    ((counts.insert name (counts.getD name 0 + 1)).toList.map (·.2)).sum =
      (counts.toList.map (·.2)).sum + 1 := by
  have hname : (counts.insert name (counts.getD name 0 + 1))[name]? =
      some (counts.getD name 0 + 1) := Std.ExtTreeMap.getElem?_insert_self
  have herase : (counts.insert name (counts.getD name 0 + 1)).erase name = counts.erase name := by
    ext1 other
    rw [Std.ExtTreeMap.getElem?_erase, Std.ExtTreeMap.getElem?_erase,
      Std.ExtTreeMap.getElem?_insert]
    split <;> rfl
  rw [sum_eq_add_sum_erase hname, herase, Std.ExtTreeMap.getD_eq_getD_getElem?]
  -- the entry under `name` is one higher than before, or is new
  cases hcount : counts[name]? with
  | some n =>
    rw [sum_eq_add_sum_erase hcount, Option.getD_some]
    omega
  | none =>
    have hsame : counts.erase name = counts := by
      ext1 other
      rw [Std.ExtTreeMap.getElem?_erase]
      split
      · next heq => rw [← Std.LawfulEqOrd.eq_of_compare heq, hcount]
      · rfl
    rw [hsame, Option.getD_none]
    omega

/-- The count of a class is the number of its levels, if they can be counted. -/
theorem getD_countClasses {levels : List Trait} (h : levels.length ≤ 2147483647) (name : String) :
    (countClasses levels).getD name 0 = levels.countP fun t => t.name = name := by
  -- the last level is the last one that is counted
  induction levels using List.reverseRecOn with
  | nil => rfl
  | append_singleton levels t ih =>
    rw [List.length_append, List.length_singleton] at h
    have hle := List.countP_le_length (p := fun s : Trait => s.name = name) (l := levels)
    have ih := ih (by omega)
    rw [countClasses] at ih
    rw [countClasses, List.foldl_append, List.foldl_cons, List.foldl_nil, List.countP_append,
      List.countP_singleton, Std.ExtTreeMap.getD_insert]
    by_cases hname : t.name = name
    · subst hname
      rw [if_pos Std.ReflCmp.compare_self, ih, IsWord.word_eq ⟨by omega, by omega⟩]
      simp
    · rw [if_neg fun heq => hname (Std.LawfulEqOrd.eq_of_compare heq), ih]
      simp [hname]

/-- The counts of the classes add up to the number of class levels, if they can be counted. -/
theorem sum_countClasses {levels : List Trait} (h : levels.length ≤ 2147483647) :
    ((countClasses levels).toList.map (·.2)).sum = levels.length := by
  induction levels using List.reverseRecOn with
  | nil => rfl
  | append_singleton levels t ih =>
    rw [List.length_append, List.length_singleton] at h
    have hle := List.countP_le_length (p := fun s : Trait => s.name = t.name) (l := levels)
    have hcount := getD_countClasses (by omega : levels.length ≤ 2147483647) t.name
    -- no count is higher than the number of levels, so none wraps around
    have hstep : countClasses (levels ++ [t]) =
        (countClasses levels).insert t.name ((countClasses levels).getD t.name 0 + 1) := by
      rw [countClasses, List.foldl_append, List.foldl_cons, List.foldl_nil, ← countClasses,
        IsWord.word_eq]
      rw [hcount]
      exact ⟨by omega, by omega⟩
    rw [hstep, sum_insert_succ, ih (by omega), List.length_append, List.length_singleton]
    rfl

/-- Countable levels add up within the range of 32 bits. -/
theorem totalCount_countClasses {levels : List Trait} (h : levels.length ≤ 2147483647) :
    totalCount (countClasses levels) = levels.length := by
  rw [totalCount, ← List.sum_eq_foldl, sum_countClasses h, IsWord.word_eq ⟨by omega, by omega⟩]

end Profile

/-! ## Blocks -/

/-- The level is the number of class levels and the sum of the counts of the classes, and bounds the
heroic level. -/
structure Stats.LevelsAddUp (c : Character) (s : Stats) : Prop where
  level_eq : s.profile.level = c.activeTraits.countP fun t => t.kind = .classLevel
  level_eq_sum : s.profile.level = (s.profile.classes.toList.map (·.2)).sum
  heroicLevel_nonneg : 0 ≤ s.profile.heroicLevel
  heroicLevel_le : s.profile.heroicLevel ≤ s.profile.level

/-- The block is within its bounds, and every number that had to be brought into a range could be:
shields and health are what the character has left, brought below their maximum, and the die of an
unarmed strike is found, if the last place of the ladder can be counted in 32 bits. The levels add
up if they can. -/
structure Stats.IsBounded (rules : Rules) (c : Character) (s : Stats) : Prop where
  shields_nonneg : 0 ≤ s.shields.current
  shields_le : s.shields.current ≤ s.shields.maximum
  shields_active : s.shields.active = true → 0 < s.shields.maximum
  health_nonneg : 0 ≤ s.health.current
  health_le : s.health.current ≤ s.health.maximum
  temporary_nonneg : 0 ≤ s.health.temporary
  condition_le : s.health.condition ≤ 5
  helpless_iff : s.condition.helpless = true ↔ s.health.condition = 5
  levels : (c.activeTraits.countP fun t => t.kind = .classLevel) ≤ 2147483647 → s.LevelsAddUp c
  shields_clamp : clamp? 0 s.shields.maximum (c.currentShields.getD s.shields.maximum) =
    some s.shields.current
  health_clamp : clamp? 0 s.health.maximum (c.currentHealth.getD s.health.maximum) =
    some s.health.current
  unarmed_clamp : rules.combat.unarmedDice.length ≤ 2147483648 →
    ∃ die, Wielder.unarmedDie? s.profile.size s.wielder.martialTier rules.combat.unarmedDice =
      some die

namespace Stats.IsComposed

variable {answer : Question → Answer} {rules : Rules} {skills : List Skill} {c : Character}
  {s : Stats} (h : s.IsComposed answer rules skills c)

include h

/-- How the shields come about. -/
theorem shields_eq : 0 ≤ s.shields.maximum ∧
    s.shields.current = clampBelow s.shields.maximum (c.currentShields.getD s.shields.maximum) ∧
    s.shields.active = (c.shieldsActive && decide (0 < s.shields.maximum)) := by
  rw [h.shields]
  simp only [Shields.inquire, Inquiry.result_bind, Inquiry.result_pure, and_true]
  exact Int.le_max_right _ _

/-- How the hit points and the condition come about. -/
theorem health_eq : 0 ≤ s.health.maximum ∧
    s.health.current = clampBelow s.health.maximum (c.currentHealth.getD s.health.maximum) ∧
    s.health.temporary = max c.temporaryHealth 0 ∧ s.health.condition = min c.condition 5 := by
  rw [h.health]
  simp only [Health.inquire, Inquiry.result_bind, Inquiry.result_pure, and_true]
  exact Int.le_max_right _ _

/-- How the levels come about. -/
theorem levels_eq :
    s.profile.classes = Profile.countClasses (Profile.classLevels c.activeTraits) ∧
    s.profile.level = Profile.totalCount s.profile.classes ∧
    s.profile.heroicLevel = word (s.profile.level -
      ((Profile.classLevels c.activeTraits).filter Profile.isNonheroic).length) := by
  rw [h.profile]
  simp only [Profile.inquire, Inquiry.result_bind, Inquiry.result_pure, and_true]

/-- Levels that can be counted add up. -/
theorem levelsAddUp
    (hcount : (c.activeTraits.countP fun t => t.kind = .classLevel) ≤ 2147483647) :
    s.LevelsAddUp c := by
  obtain ⟨hclasses, hlevel, hheroic⟩ := h.levels_eq
  rw [List.countP_eq_length_filter] at hcount
  change (Profile.classLevels c.activeTraits).length ≤ 2147483647 at hcount
  -- both levels fit 32 bits, and the heroic one leaves out the nonheroic levels
  have hlevel : s.profile.level = (Profile.classLevels c.activeTraits).length := by
    rw [hlevel, hclasses, Profile.totalCount_countClasses hcount]
  have hnonheroic := List.length_filter_le Profile.isNonheroic
    (Profile.classLevels c.activeTraits)
  rw [hlevel, IsWord.word_eq ⟨by omega, by omega⟩] at hheroic
  constructor
  case level_eq => rw [hlevel, Profile.classLevels, List.countP_eq_length_filter]
  case level_eq_sum => rw [hlevel, hclasses, Profile.sum_countClasses hcount]
  case heroicLevel_nonneg => omega
  case heroicLevel_le => omega

/-- Levels that add up can be counted, since the level has 32 bits itself. -/
theorem countP_le (hlevels : s.LevelsAddUp c) :
    (c.activeTraits.countP fun t => t.kind = .classLevel) ≤ 2147483647 := by
  have hword : IsWord s.profile.level := h.levels_eq.2.1 ▸ isWord_word _
  have hle := hword.2
  rw [hlevels.level_eq] at hle
  omega

/-- A derived block is within its bounds. -/
theorem isBounded : s.IsBounded rules c := by
  obtain ⟨hshields, hcurrentShields, hactive⟩ := h.shields_eq
  obtain ⟨hhealth, hcurrentHealth, htemporary, hcondition⟩ := h.health_eq
  constructor
  case shields_nonneg => exact hcurrentShields ▸ clampBelow_nonneg _ _
  case shields_le => exact hcurrentShields ▸ clampBelow_le hshields _
  case shields_active =>
    intro hon
    rw [hactive, Bool.and_eq_true] at hon
    exact of_decide_eq_true hon.2
  case health_nonneg => exact hcurrentHealth ▸ clampBelow_nonneg _ _
  case health_le => exact hcurrentHealth ▸ clampBelow_le hhealth _
  case temporary_nonneg => exact htemporary ▸ Int.le_max_right _ _
  case condition_le => exact hcondition ▸ Nat.min_le_right _ _
  case helpless_iff =>
    rw [h.condition, hcondition, ConditionEffect.of, decide_eq_true_eq]
    omega
  case levels => exact h.levelsAddUp
  case shields_clamp => rw [hcurrentShields, clamp?_zero hshields]
  case health_clamp => rw [hcurrentHealth, clamp?_zero hhealth]
  case unarmed_clamp =>
    exact fun hlength => Option.isSome_iff_exists.mp (Wielder.isSome_unarmedDie? hlength _ _)

end Stats.IsComposed

/-- Whatever is entered for a character and in the rules, the derived block is within its bounds. -/
theorem Desk.isBounded_derive {φ : Type} [DecidableEq φ] (desk : Desk φ) (c : Character) :
    (desk.derive c).1.stats.IsBounded desk.rules c :=
  (desk.isComposed_derive c).isBounded

/-- Where no trait has a supplier, all that contribute are active. -/
theorem Character.activeTraits_of_unsupplied {c : Character}
    (h : ∀ t ∈ c.traits, t.supplier = none) : c.activeTraits = c.traits.filter (·.contributes) := by
  have hnone : c.orphanedTraits = [] := by
    rw [orphanedTraits, List.filter_eq_nil_iff]
    intro t ht
    simp [isOrphan, h t ht]
  simp [activeTraits, ownedTraits, hnone]

/-- A ladder of more dice than have a place in 32 bits is a part of rules like any other, but no die
can be found on it. More class levels than fit 32 bits cannot be the level. Not every integer can be
entered as the health that is left: one that does not fit 32 bits is not read. -/
theorem Desk.not_isBounded_uncounted :
    (∃ rules : Rules, rules.validate = .ok rules ∧ ∀ size tier,
      Wielder.unarmedDie? size tier rules.combat.unarmedDice = none) ∧
    (∃ c : Character, ∀ rules skills, ¬ (c.derive rules skills).stats.LevelsAddUp c) ∧
    Character.ofData? (.record [("id", .text "hero"), ("currentHealth", .int 2147483648)]) =
      none := by
  refine ⟨?_, ?_, by decide +kernel⟩
  case refine_1 =>
    have hlength : (List.range' 0 2147483649).length = 2147483649 := List.length_range'
    have hne : List.range' 0 2147483649 ≠ [] := List.ne_nil_of_length_pos (by rw [hlength]; omega)
    exact ⟨{ combat := { unarmedDice := List.range' 0 2147483649 } },
      Rules.validate_eq_ok hne (Rules.increasing_range' ..),
      fun _ _ => Wielder.unarmedDie?_eq_none hlength⟩
  case refine_2 =>
    let soldier : Trait := { id := "a", name := "Soldier", kind := .classLevel }
    have hkind : decide (soldier.kind = .classLevel) = true := rfl
    refine ⟨{ id := "hero", traits := List.replicate 2147483648 soldier },
      fun rules skills hlevels => ?_⟩
    have hcount := (Character.isComposed_derive rules skills _).countP_le hlevels
    -- all of the levels are active, and they are one more than the largest level
    rw [Character.activeTraits_of_unsupplied
        fun t ht => congrArg Trait.supplier (List.eq_of_mem_replicate ht),
      List.filter_replicate_of_pos rfl, List.countP_replicate, if_pos hkind] at hcount
    omega

end CharacterSheet
