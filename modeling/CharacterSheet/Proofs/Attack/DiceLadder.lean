import CharacterSheet.Attack.Strikes
import Mathlib.Data.List.Sort

/-!
# The ladder of unarmed dice

A rule set is only accepted with a ladder of dice that rises from one die to the next. On such a
ladder, as long as its last place is counted in 32 bits, the size and the tier of a character stand
for one of its places: both move the die up, and from the last place on it stays where it is. A
longer ladder is accepted too, but has no die at all.
-/

namespace CharacterSheet

namespace Rules

/-- A ladder whose neighbours rise is sorted as a whole. -/
theorem sortedLT_of_increasing {ladder : List Nat} (h : increasing ladder = true) :
    ladder.SortedLT := by
  rw [List.sortedLT_iff_isChain]
  induction ladder with
  | nil => exact .nil
  | cons die rest ih =>
    cases rest with
    | nil => exact .singleton die
    | cons next rest =>
      rw [increasing, Bool.and_eq_true, decide_eq_true_eq] at h
      exact .cons_cons h.1 (ih h.2)

/-- An accepted ladder has dice, and each is above the one before. -/
theorem ladder_of_validate {rules rules' : Rules} (h : rules.validate = .ok rules') :
    rules.combat.unarmedDice ≠ [] ∧ rules.combat.unarmedDice.SortedLT := by
  rw [validate] at h
  split at h
  · cases h
  · next hempty =>
    split at h
    · cases h
    · next hincreasing =>
      rw [Bool.not_eq_true', Bool.not_eq_false] at hincreasing
      exact ⟨fun hnil => hempty (List.isEmpty_iff.mpr hnil), sortedLT_of_increasing hincreasing⟩

/-- The ladder of all dice from one number on is accepted, however long it is. -/
theorem increasing_range' (start length : Nat) : increasing (List.range' start length) = true := by
  induction length generalizing start with
  | zero => rfl
  | succ length ih =>
    cases length with
    | zero => rfl
    | succ length =>
      have hrest := ih (start + 1)
      rw [List.range'_succ] at hrest
      rw [List.range'_succ, List.range'_succ, increasing, hrest, Bool.and_true, decide_eq_true_eq]
      exact Nat.lt_succ_self start

/-- Rules with a rising ladder are accepted. -/
theorem validate_eq_ok {rules : Rules} (hempty : rules.combat.unarmedDice ≠ [])
    (hincreasing : increasing rules.combat.unarmedDice = true) : rules.validate = .ok rules := by
  rw [validate, if_neg (by rwa [List.isEmpty_iff]), hincreasing, if_neg (by simp)]

end Rules

namespace Wielder

/-- The place on a ladder that a size has before any training. -/
def sizePlace (size : Size) (ladder : List Nat) : Int :=
  max 0 (min (ladder.length - 1 : Nat) (size.stepsAbove .medium + 2))

/-- The place of the size and the tier together are a number of 32 bits with a sign. -/
def IsCounted (size : Size) (tier : Nat) (ladder : List Nat) : Prop :=
  sizePlace size ladder + tier ≤ 2147483647

instance (size : Size) (tier : Nat) (ladder : List Nat) : Decidable (IsCounted size tier ladder) :=
  inferInstanceAs (Decidable (_ ≤ _))

/-- The place on a ladder that a size and a tier have together. -/
def diePlace (size : Size) (tier : Nat) (ladder : List Nat) : Nat :=
  min (ladder.length - 1) ((sizePlace size ladder).toNat + tier)

variable {size size' : Size} {tier tier' : Nat} {ladder : List Nat}

/-- No size is below the foot of the ladder. -/
theorem sizePlace_nonneg (size : Size) (ladder : List Nat) : 0 ≤ sizePlace size ladder :=
  Int.le_max_left _ _

/-- A larger creature does not start lower. -/
theorem sizePlace_le (h : size.step ≤ size'.step) :
    sizePlace size ladder ≤ sizePlace size' ladder := by
  simp only [sizePlace, Size.stepsAbove]
  omega

/-- Neither a larger size nor a higher tier moves down the ladder. -/
theorem diePlace_le (hsize : size.step ≤ size'.step) (htier : tier ≤ tier') :
    diePlace size tier ladder ≤ diePlace size' tier' ladder := by
  have hplace : sizePlace size ladder ≤ sizePlace size' ladder := sizePlace_le hsize
  simp only [diePlace]
  omega

/-- A ladder with dice has one at every place that is reached. -/
theorem diePlace_lt (h : ladder ≠ []) (size : Size) (tier : Nat) :
    diePlace size tier ladder < ladder.length := by
  have hlength := List.length_pos_of_ne_nil h
  simp only [diePlace]
  omega

/-- The die is the one at its place. Wrapping around changes nothing, since the last place and the
place of the size and tier are counted in 32 bits. -/
theorem unarmedDie?_eq_getElem? (hlength : ladder.length ≤ 2147483648) (h : ladder ≠ [])
    (hcounted : IsCounted size tier ladder) :
    unarmedDie? size tier ladder = ladder[diePlace size tier ladder]? := by
  -- none of the casts and sums wraps around: all stay between zero and the top place or the tier
  have hplace := sizePlace_nonneg size ladder
  have hlt := diePlace_lt h size tier
  rw [IsCounted] at hcounted
  have htop : word (ladder.length - 1 : Nat) = (ladder.length - 1 : Nat) :=
    IsWord.word_eq ⟨by omega, by omega⟩
  have hclamp : clamp? 0 (ladder.length - 1 : Nat) (size.stepsAbove .medium + 2) =
      some (sizePlace size ladder) := if_pos (by omega)
  have hsum : word (sizePlace size ladder + word tier) = sizePlace size ladder + tier := by
    rw [word_add_word]
    exact IsWord.word_eq ⟨by omega, hcounted⟩
  have hmin : min ((ladder.length - 1 : Nat) : Int) (sizePlace size ladder + tier) =
      diePlace size tier ladder := by
    simp only [diePlace]
    omega
  simp only [unarmedDie?, htop, hclamp, Option.map_some, hsum, hmin]
  rw [if_neg (by omega), Int.toNat_natCast, List.getElem?_eq_getElem hlt, Option.getD_some]

/-- Every size and tier have a die, and it is on the ladder. It does not fall when one of them
grows, and it is the last one exactly from the last place on. -/
structure IsClimbed (ladder : List Nat) : Prop where
  exists_mem : ∀ size tier, IsCounted size tier ladder →
    ∃ die ∈ ladder, unarmedDie? size tier ladder = some die
  mono : ∀ size size' tier tier' die die', IsCounted size tier ladder →
    IsCounted size' tier' ladder → size.step ≤ size'.step → tier ≤ tier' →
      unarmedDie? size tier ladder = some die → unarmedDie? size' tier' ladder = some die' →
        die ≤ die'
  last_iff : ∀ size tier, IsCounted size tier ladder →
    (unarmedDie? size tier ladder = ladder.getLast? ↔
      (ladder.length - 1 : Nat) ≤ sizePlace size ladder + tier)

/-- A sorted ladder is climbed if its last place is counted in 32 bits. -/
theorem isClimbed_of_sortedLT (hlength : ladder.length ≤ 2147483648) (h : ladder ≠ [])
    (hsorted : ladder.SortedLT) : IsClimbed ladder := by
  constructor
  case exists_mem =>
    intro size tier hcounted
    have hlt := diePlace_lt h size tier
    exact ⟨_, List.getElem_mem hlt,
      (unarmedDie?_eq_getElem? hlength h hcounted).trans (List.getElem?_eq_getElem hlt)⟩
  case mono =>
    intro size size' tier tier' die die' hcounted hcounted' hsize htier hdie hdie'
    rw [unarmedDie?_eq_getElem? hlength h hcounted] at hdie
    rw [unarmedDie?_eq_getElem? hlength h hcounted'] at hdie'
    obtain ⟨hlt, rfl⟩ := List.getElem?_eq_some_iff.mp hdie
    obtain ⟨hlt', rfl⟩ := List.getElem?_eq_some_iff.mp hdie'
    rw [hsorted.getElem_le_getElem_iff]
    exact diePlace_le hsize htier
  case last_iff =>
    intro size tier hcounted
    have hlt := diePlace_lt h size tier
    have hplace := sizePlace_nonneg size ladder
    have hlast : ladder.length - 1 < ladder.length := by omega
    -- no die stands twice on the ladder, so the last die is at the last place only
    rw [unarmedDie?_eq_getElem? hlength h hcounted, List.getLast?_eq_getElem?,
      List.getElem?_eq_getElem hlt, List.getElem?_eq_getElem hlast, Option.some_inj,
      hsorted.nodup.getElem_inj_iff, diePlace]
    omega

/-- On the ladder of an accepted rule set, if its last place is counted in 32 bits, the unarmed die
of every size and tier is found, it rises with both, and it is the last one exactly from the last
place on. -/
theorem isClimbed_of_validate (rules : Rules) (h : rules.validate = .ok rules)
    (hlength : rules.combat.unarmedDice.length ≤ 2147483648) :
    IsClimbed rules.combat.unarmedDice :=
  isClimbed_of_sortedLT hlength (Rules.ladder_of_validate h).1 (Rules.ladder_of_validate h).2

/-- Two dice are ladder enough: a medium creature is at the top of it, and a fine one climbs it. -/
theorem isClimbed_of_validate_short :
    let rules : Rules := { combat := { unarmedDice := [4, 6] } }
    rules.validate = .ok rules ∧ [4, 6].length ≤ 2147483648 ∧ IsClimbed [4, 6] ∧
      IsCounted .fine 0 [4, 6] ∧ IsCounted .fine 1 [4, 6] ∧
      unarmedDie? .fine 0 [4, 6] = some 4 ∧ unarmedDie? .fine 1 [4, 6] = some 6 ∧
      unarmedDie? .medium 0 [4, 6] = [4, 6].getLast? := by
  intro rules
  have hvalid : rules.validate = .ok rules := rfl
  have hclimbed := isClimbed_of_validate rules hvalid (by decide)
  exact ⟨hvalid, by decide, hclimbed, by decide, by decide, by decide, by decide,
    (hclimbed.last_iff .medium 0 (by decide)).mpr (by decide)⟩

/-- The last place of one die more than `2 ^ 31` is not counted in 32 bits. It wraps around to below
zero, and nothing is left for the place to move within. -/
theorem unarmedDie?_eq_none (h : ladder.length = 2147483649) :
    unarmedDie? size tier ladder = none := by
  rw [unarmedDie?, h]
  rfl

/-- Neither does every tier that fits 32 bits together with the place of its size find a die of an
accepted ladder, where that place is below the foot and counts as zero, nor every ladder that is
accepted have a die. -/
theorem not_isClimbed_uncounted :
    (∃ rules : Rules, rules.validate = .ok rules ∧
      IsWord (Size.fine.stepsAbove .medium + 2 + (2147483648 : Nat)) ∧
        ∃ die ∉ rules.combat.unarmedDice,
          unarmedDie? .fine 2147483648 rules.combat.unarmedDice = some die) ∧
    ∃ rules : Rules, rules.validate = .ok rules ∧
      IsCounted .medium 0 rules.combat.unarmedDice ∧
        unarmedDie? .medium 0 rules.combat.unarmedDice = none := by
  -- a tier that turns negative in 32 bits leads below the ladder, a long ladder has no top place
  refine ⟨⟨{ combat := { unarmedDice := [5, 7] } }, rfl, by decide, 4, by decide, by decide⟩,
    { combat := { unarmedDice := List.range' 0 2147483649 } }, ?_⟩
  have hlength : (List.range' 0 2147483649).length = 2147483649 := List.length_range'
  refine ⟨Rules.validate_eq_ok (List.ne_nil_of_length_pos ?_) (Rules.increasing_range' ..), ?_,
    unarmedDie?_eq_none hlength⟩
  · rw [hlength]
    exact Nat.zero_lt_succ _
  · rw [IsCounted, sizePlace, hlength]
    decide

end Wielder

end CharacterSheet
