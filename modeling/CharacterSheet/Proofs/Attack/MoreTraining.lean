import CharacterSheet.Proofs.Attack.CommonRoll

/-!
# Attacks and training

A character that gains feats, weapon proficiencies or weapon focuses keeps its attacks, and no sum
that is added to an attack roll becomes smaller. The common bonus of a weapon can only rise: a focus
can change the way in which a lightsaber is held, but a light weapon is rolled with the better one
of two bonuses. The penalty for attacking with both ends can only fall, as long as no mastery has a
greater one than a character without mastery. A sum that rises out of the range of 32 bits wraps
around, and only then does an attack become worse. Damage is another matter, since a weapon held
with one hand has less.
-/

namespace CharacterSheet

/-! ## Strikes -/

/-- The other wielder has what the one has, and more feats, weapon proficiencies and weapon focuses
at most. -/
structure Wielder.Trains (w w' : Wielder) : Prop where
  size : w'.size = w.size
  offense : w'.offense = w.offense
  feats : ∀ feat ∈ w.feats, feat ∈ w'.feats
  weapons : ∀ category ∈ w.proficiencies.weapons, category ∈ w'.proficiencies.weapons
  weaponFocus : ∀ category ∈ w.proficiencies.weaponFocus, category ∈ w'.proficiencies.weaponFocus

/-- What a strike is apart from its numbers. -/
def Strike.outline (s : Strike) : Strike := { s with bonus := 0, damage := [] }

namespace Wielder

/-- The sum of all that is added to the roll of a strike with a weapon, with the penalties that the
flags of the strike tell. -/
def rollSum (w : Wielder) (rules : CombatRules) (weapon : Weapon) (s : Strike) : Int :=
  w.weaponSum rules weapon (isRanged rules weapon) +
    (if s.autofire then rules.autofirePenalty else 0) +
      if s.fullRound then w.multiAttackPenalty rules (w.isProficient weapon) else 0

/-- The sums of the strikes with a trait, in order. -/
def traitSums (w : Wielder) (rules : CombatRules) (t : Trait) : List Int :=
  match t.weapon with
  | some weapon => (w.weaponStrikes rules t.name weapon).map (w.rollSum rules weapon)
  | none => []

/-- The sums of all strikes: of the unarmed one, then of those with each trait in order. -/
def rollSums (w : Wielder) (rules : CombatRules) (active : List Trait) : List Int :=
  w.lightBonus :: active.flatMap (w.traitSums rules)

variable {w w' : Wielder} (rules : CombatRules) (name : String) (weapon : Weapon)

/-- A strike with a weapon is rolled with its sum, which may wrap around. -/
theorem bonus_eq_rollSum (w : Wielder) {s : Strike}
    (hs : s ∈ w.weaponStrikes rules name weapon) :
    s.bonus = word (w.rollSum rules weapon s) := by
  rw [(w.hasCommonRoll_weaponStrikes rules name weapon s hs).bonus, weaponBonus, rollSum,
    Int.add_assoc, word_word_add, Int.add_assoc]

/-- Each strike is rolled with its sum, if the sum fits. -/
theorem forall₂_rollSums (w : Wielder) (active : List Trait) :
    List.Forall₂ (fun strike sum => IsWord sum → strike.2.bonus = sum) (w.strikes rules active)
      (w.rollSums rules active) := by
  rw [strikes, rollSums]
  -- the unarmed strike stands first, and the rest is listed trait by trait
  refine .cons (fun _ => rfl) ?_
  refine List.rel_flatMap (R := Eq) (List.forall₂_same.mpr fun _ _ => rfl) ?_
  rintro t _ rfl
  rw [traitStrikes, traitSums]
  cases t.weapon with
  | none => exact .nil
  | some weapon =>
    rw [List.forall₂_map_left_iff, List.forall₂_map_right_iff]
    exact List.forall₂_same.mpr fun s hs hword =>
      (w.bonus_eq_rollSum rules t.name weapon hs).trans hword.word_eq

/-- Neither of the two bonuses of a light weapon is left out. -/
theorem melee_le_lightBonus (w : Wielder) : w.offense.melee ≤ w.lightBonus := by
  rw [lightBonus]
  split <;> omega

/-- No mastery has a greater penalty than the rules say without one. -/
theorem le_multiAttackPenalty (h : rules.multiAttackPenalty ≤ -5) (w : Wielder)
    (proficient : Bool) :
    rules.multiAttackPenalty ≤ w.multiAttackPenalty rules proficient := by
  rw [multiAttackPenalty]
  repeat' split
  all_goals omega

/-- The strikes with a weapon have the same names and flags in all hands of one size. -/
theorem forall₂_outline_weaponStrikes (hsize : w'.size = w.size) :
    List.Forall₂ (fun s s' => s.outline = s'.outline) (w.weaponStrikes rules name weapon)
      (w'.weaponStrikes rules name weapon) := by
  -- the bonuses may differ, but which strikes there are depends on the weapon and the rules alone
  have hnormal : (w.normalStrikes rules name weapon).map (·.outline) =
      (w'.normalStrikes rules name weapon).map (·.outline) := by
    rw [normalStrikes, normalStrikes]
    split
    · rw [List.map_map, List.map_map]
      rfl
    split
    · rw [doubleStrikes, doubleStrikes, List.map_cons, List.map_cons, List.mapIdx_eq_zipIdx_map,
        List.mapIdx_eq_zipIdx_map, List.map_map, List.map_map]
      rfl
    · rfl
  rw [← List.forall₂_map_left_iff (R := (· = Strike.outline ·)),
    ← List.forall₂_map_right_iff (R := Eq), List.forall₂_eq_eq_eq]
  rw [weaponStrikes, weaponStrikes, hsize]
  split
  · rfl
  split
  · exact hnormal
  · rw [List.map_cons, List.map_cons]
    split
    · rfl
    · exact congrArg _ hnormal

/-- What is in a set is in every larger one. -/
theorem contains_of_forall_mem {names names' : Std.ExtTreeSet String}
    (h : ∀ name ∈ names, name ∈ names') {name : String} (hname : names.contains name = true) :
    names'.contains name = true :=
  Std.ExtTreeSet.mem_iff_contains.mp (h name (Std.ExtTreeSet.mem_iff_contains.mpr hname))

/-- Where the one choice is the higher number, the other one is too. -/
theorem ite_le_ite_of_imp {b b' : Bool} (h : b = true → b' = true) {low high : Int}
    (hle : low ≤ high) : (if b then high else low) ≤ if b' then high else low := by
  by_cases hb : b = true
  · exact Int.le_of_eq (by rw [if_pos hb, if_pos (h hb)])
  · rw [if_neg hb]
    split
    · exact hle
    · exact Int.le_refl low

namespace Trains

variable (h : w.Trains w')

include h

theorem hasFeat {feat : String} (hfeat : w.feats.contains feat = true) :
    w'.feats.contains feat = true :=
  contains_of_forall_mem h.feats hfeat

theorem hasFocus {category : String}
    (hfocus : w.proficiencies.weaponFocus.contains category = true) :
    w'.proficiencies.weaponFocus.contains category = true :=
  contains_of_forall_mem h.weaponFocus hfocus

theorem coversWeapon {category : String} (hcovers : w.proficiencies.coversWeapon category = true) :
    w'.proficiencies.coversWeapon category = true := by
  rw [Proficiencies.coversWeapon, Bool.or_eq_true, Bool.and_eq_true] at hcovers ⊢
  exact hcovers.imp (contains_of_forall_mem h.weapons) fun hsimple =>
    ⟨contains_of_forall_mem h.weapons hsimple.1, hsimple.2⟩

theorem isProficient (hproficient : w.isProficient weapon = true) :
    w'.isProficient weapon = true := by
  rw [Wielder.isProficient, List.all_eq_true] at hproficient ⊢
  exact fun category hcategory => h.coversWeapon (hproficient category hcategory)

theorem isFocused (hfocused : w.isFocused weapon = true) : w'.isFocused weapon = true := by
  rw [Wielder.isFocused, List.any_eq_true] at hfocused ⊢
  obtain ⟨category, hcategory, hfocus⟩ := hfocused
  exact ⟨category, hcategory, h.hasFocus hfocus⟩

/-- A weapon can become a light one, but it does not cease to be one. -/
theorem grip_eq_light (hlight : w.grip weapon = .light) : w'.grip weapon = .light := by
  rw [grip] at hlight ⊢
  split at hlight
  · next hsaber =>
    rw [Bool.and_eq_true] at hsaber
    rw [if_pos (Bool.and_eq_true_iff.mpr ⟨hsaber.1, h.hasFocus hsaber.2⟩)]
  · rw [h.size, hlight, ite_self]

theorem lightBonus_le : w.lightBonus ≤ w'.lightBonus := by
  by_cases hfinesse : w.hasFinesse = true
  · have hfinesse' : w'.hasFinesse = true := h.hasFeat hfinesse
    have hsame : w.lightBonus = w'.lightBonus := by
      rw [lightBonus, lightBonus, if_pos hfinesse, if_pos hfinesse', h.offense]
    exact Int.le_of_eq hsame
  · rw [lightBonus, if_neg hfinesse, ← h.offense]
    exact w'.melee_le_lightBonus

/-- What a weapon is rolled with before proficiency and focus count. -/
theorem baseBonus_le (ranged : Bool) :
    (if ranged then w.offense.ranged
      else if w.grip weapon = .light then w.lightBonus else w.offense.melee) ≤
    if ranged then w'.offense.ranged
      else if w'.grip weapon = .light then w'.lightBonus else w'.offense.melee := by
  split
  · exact Int.le_of_eq (by rw [h.offense])
  by_cases hlight : w.grip weapon = .light
  · rw [if_pos hlight, if_pos (h.grip_eq_light weapon hlight)]
    exact h.lightBonus_le
  · -- where only the other wielder holds the weapon as a light one, its bonus is the better of two
    rw [if_neg hlight, ← h.offense]
    split
    · exact w'.melee_le_lightBonus
    · exact Int.le_refl _

/-- A weapon is rolled with a sum that is no smaller. -/
theorem weaponSum_le (hpenalty : rules.nonProficientPenalty ≤ 0) (ranged : Bool) :
    w.weaponSum rules weapon ranged ≤ w'.weaponSum rules weapon ranged :=
  Int.add_le_add
    (Int.add_le_add (h.baseBonus_le weapon ranged)
      (ite_le_ite_of_imp (h.isProficient weapon) hpenalty))
    (ite_le_ite_of_imp (h.isFocused weapon) Int.one_nonneg)

theorem multiAttackPenalty_le (hpenalty : rules.multiAttackPenalty ≤ -5) :
    w.multiAttackPenalty rules (w.isProficient weapon) ≤
      w'.multiAttackPenalty rules (w'.isProficient weapon) := by
  by_cases hproficient : w.isProficient weapon = true
  · rw [hproficient, h.isProficient weapon hproficient, multiAttackPenalty, multiAttackPenalty]
    have htier : ∀ feat, w.feats.contains feat = true → w'.feats.contains feat = true :=
      fun _ => h.hasFeat
    have hthree := htier "dual weapon mastery iii"
    have htwo := htier "dual weapon mastery ii"
    have hone := htier "dual weapon mastery i"
    -- the other wielder's best tier is no worse, and no tier is worse than none
    grind
  · have hbase : w.multiAttackPenalty rules (w.isProficient weapon) = rules.multiAttackPenalty := by
      rw [multiAttackPenalty]
      simp [hproficient]
    rw [hbase]
    exact le_multiAttackPenalty rules hpenalty w' _

/-- Strikes with the same flags are rolled with sums of which the other one is no smaller. -/
theorem rollSum_le (hproficiency : rules.nonProficientPenalty ≤ 0)
    (hmultiAttack : rules.multiAttackPenalty ≤ -5) {s s' : Strike}
    (houtline : s.outline = s'.outline) :
    w.rollSum rules weapon s ≤ w'.rollSum rules weapon s' := by
  have hautofire : s.autofire = s'.autofire := congrArg (·.autofire) houtline
  have hfullRound : s.fullRound = s'.fullRound := congrArg (·.fullRound) houtline
  rw [rollSum, rollSum, hautofire, hfullRound]
  refine Int.add_le_add (Int.add_le_add_right (h.weaponSum_le rules weapon hproficiency _) _) ?_
  split
  · exact h.multiAttackPenalty_le rules weapon hmultiAttack
  · exact Int.le_refl 0

/-- The strikes correspond to each other one by one. -/
theorem forall₂_outline_strikes (active : List Trait) :
    List.Forall₂ (fun strike strike' => strike.1 = strike'.1 ∧
      strike.2.outline = strike'.2.outline) (w.strikes rules active) (w'.strikes rules active) := by
  rw [strikes, strikes]
  refine .cons ⟨rfl, rfl⟩ ?_
  refine List.rel_flatMap (R := Eq) (List.forall₂_same.mpr fun _ _ => rfl) ?_
  rintro t _ rfl
  rw [traitStrikes, traitStrikes]
  cases t.weapon with
  | none => exact .nil
  | some weapon =>
    rw [List.forall₂_map_left_iff, List.forall₂_map_right_iff]
    exact (forall₂_outline_weaponStrikes rules t.name weapon h.size).imp
      fun _ _ houtline => ⟨rfl, houtline⟩

/-- The sums correspond to each other one by one, and none is smaller. -/
theorem rollSums_le (hproficiency : rules.nonProficientPenalty ≤ 0)
    (hmultiAttack : rules.multiAttackPenalty ≤ -5) (active : List Trait) :
    List.Forall₂ (· ≤ ·) (w.rollSums rules active) (w'.rollSums rules active) := by
  rw [rollSums, rollSums]
  refine .cons h.lightBonus_le ?_
  refine List.rel_flatMap (R := Eq) (List.forall₂_same.mpr fun _ _ => rfl) ?_
  rintro t _ rfl
  rw [traitSums, traitSums]
  cases t.weapon with
  | none => exact .nil
  | some weapon =>
    rw [List.forall₂_map_left_iff, List.forall₂_map_right_iff]
    exact (forall₂_outline_weaponStrikes rules t.name weapon h.size).imp
      fun _ _ => h.rollSum_le rules weapon hproficiency hmultiAttack

end Trains

end Wielder

/-! ## Attacks -/

namespace Attack

/-- The other attack is the one with other rolls. -/
def IsAlike (a a' : Attack) : Prop := a' = { a with toHit := a'.toHit, damage := a'.damage }

/-- If a sum fits 32 bits, it is what is added to the attack roll. -/
def IsRolledFrom (a : Attack) (sum : Int) : Prop := IsWord sum → a.toHit = Formula.toHit sum

/-- Strikes with the same outline make attacks that are alike. -/
theorem isAlike_ofStrike {s s' : Strike} (h : s.outline = s'.outline) (actor : String) (id : Nat)
    (source : Option TraitId) :
    (ofStrike actor id source s).IsAlike (ofStrike actor id source s') := by
  simp only [Strike.outline, Strike.mk.injEq] at h
  simp [IsAlike, ofStrike, h]

/-- What relates strikes to other things one by one relates the attacks. -/
theorem forall₂_listed_left {β : Type} {R : Strike → β → Prop} {S : Attack → β → Prop}
    (actor : String) (h : ∀ id source s b, R s b → S (ofStrike actor id source s) b)
    {strikes : List (Option TraitId × Strike)} {bs : List β}
    (hstrikes : List.Forall₂ (fun strike b => R strike.2 b) strikes bs) :
    List.Forall₂ S (listed actor strikes) bs := by
  rw [List.forall₂_iff_get] at hstrikes ⊢
  refine ⟨by simpa [listed] using hstrikes.1, fun i hi hi' => ?_⟩
  simpa [listed] using h i _ _ _ (hstrikes.2 i (by simpa [listed] using hi) hi')

end Attack

/-- The other block is the one with more feats, weapon proficiencies and weapon focuses. -/
structure Stats.HasMoreTraining (s s' : Stats) : Prop where
  feats : ∀ feat ∈ s.profile.feats, feat ∈ s'.profile.feats
  weapons : ∀ category ∈ s.profile.proficiencies.weapons,
    category ∈ s'.profile.proficiencies.weapons
  weaponFocus : ∀ category ∈ s.profile.proficiencies.weaponFocus,
    category ∈ s'.profile.proficiencies.weaponFocus
  others : s' = { s with profile := { s.profile with
    feats := s'.profile.feats
    proficiencies := { s.profile.proficiencies with
      weapons := s'.profile.proficiencies.weapons
      weaponFocus := s'.profile.proficiencies.weaponFocus } } }

/-- More training of a block is more training of its wielder. -/
theorem Stats.HasMoreTraining.trains {s s' : Stats} (h : s.HasMoreTraining s') :
    s.wielder.Trains s'.wielder where
  size := congrArg (·.profile.size) h.others
  offense := congrArg (·.offense) h.others
  feats := h.feats
  weapons := h.weapons
  weaponFocus := h.weaponFocus

namespace Character

/-- An attack is rolled with its sum. -/
theorem forall₂_isRolledFrom (c : Character) (s : Stats) (rules : Rules) :
    List.Forall₂ Attack.IsRolledFrom (c.attacksWith s rules)
      (s.wielder.rollSums rules.combat c.activeTraits) :=
  Attack.forall₂_listed_left (R := fun strike sum => IsWord sum → strike.bonus = sum) c.id
    (fun _ _ _ _ hsum hword => congrArg Formula.toHit (hsum hword))
    (s.wielder.forall₂_rollSums rules.combat c.activeTraits)

/-- A character with an electrostaff. -/
def guardian : Character where
  id := "hero"
  traits := [electrostaff]

/-- The block of a character that has mastered an electrostaff, but nothing else. -/
def masterStats : Stats where
  profile.feats := .ofList ["dual weapon mastery ii"]
  profile.proficiencies.weapons := .ofList ["exotic melee weapons"]
  profile.proficiencies.weaponFocus := .ofList ["exotic melee weapons"]

/-- The block of a character that has the greatest attack bonus and can use an electrostaff. -/
def strongStats : Stats where
  profile.proficiencies.weapons := .ofList ["exotic melee weapons"]
  offense.melee := 2147483647

end Character

end CharacterSheet
