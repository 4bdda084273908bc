import CharacterSheet.Proofs.Attack.Blocks
import CharacterSheet.Proofs.Attack.Shifted

/-!
# One roll for all attacks of a weapon

The attacks with a weapon are rolled with one bonus that they have in common. What is added to it
can be read off the flags of an attack: a penalty for autofire, and another one for an attack with
all ends of a double weapon, with which the sum may wrap around. Such an attack stands before the
attacks with each end and has the damage rolls of all of them.
-/

namespace CharacterSheet

/-! ## Strikes -/

/-- The strike is rolled with a common bonus and the penalties that its flags tell, of which it has
one at most. -/
structure Strike.HasCommonRoll (rules : CombatRules) (penalty toHit : Int) (ranged : Bool)
    (s : Strike) : Prop where
  bonus : s.bonus = word (toHit + (if s.autofire then rules.autofirePenalty else 0) +
    if s.fullRound then penalty else 0)
  ranged : s.ranged = ranged
  flags : ¬ (s.autofire = true ∧ s.fullRound = true)

/-- The strikes with one end of a weapon each, in the order of its dice. -/
structure Weapon.AreEnds (w : Weapon) (bonus : Int) (strikes : List Strike) : Prop where
  damage : strikes.map (·.damage) =
    (Formula.splitDice w.damage).map fun dice => [Formula.damage dice bonus]
  fullRound : ∀ s ∈ strikes, s.fullRound = false

/-- The strike has all ends of a double weapon without firing modes, and those behind it have one
each. -/
structure Weapon.LeadsStrikes (w : Weapon) (s : Strike) (behind : List Strike) : Prop where
  rates : w.rates = []
  dice : 2 ≤ (Formula.splitDice w.damage).length
  damage : ∃ bonus, s.damage = (Formula.splitDice w.damage).map (Formula.damage · bonus) ∧
    w.AreEnds bonus behind

namespace Wielder

variable (w : Wielder) (rules : CombatRules) (name : String) (weapon : Weapon) (ranged : Bool)
  (bonus penalty : Int) {toHit : Int}

section CommonRoll

variable (htoHit : IsWord toHit)

include htoHit

/-- A strike with one end is rolled with the common bonus, or with the penalty for autofire. -/
theorem hasCommonRoll_of_not_fullRound {s : Strike}
    (hbonus : s.bonus = if s.autofire then word (toHit + rules.autofirePenalty) else toHit)
    (hranged : s.ranged = ranged) (hfull : s.fullRound = false) :
    s.HasCommonRoll rules penalty toHit ranged := by
  refine ⟨?_, hranged, by simp [hfull]⟩
  rw [hbonus, hfull]
  split <;> simp [htoHit.word_eq]

/-- A stun strike is rolled with the common bonus. -/
theorem hasCommonRoll_stunStrike (stun : Stun) :
    (stunStrike rules name weapon ranged toHit bonus stun).HasCommonRoll rules penalty toHit
      ranged :=
  hasCommonRoll_of_not_fullRound rules ranged penalty htoHit rfl rfl rfl

/-- A strike in one of several firing modes is rolled with the common bonus. -/
theorem hasCommonRoll_rateStrike (rate : Rate) :
    (rateStrike rules name weapon ranged toHit bonus rate).HasCommonRoll rules penalty toHit
      ranged :=
  hasCommonRoll_of_not_fullRound rules ranged penalty htoHit (by simp [rateStrike]) rfl rfl

/-- The only strike with a weapon is rolled with the common bonus. -/
theorem hasCommonRoll_plainStrike :
    (plainStrike rules name weapon ranged toHit bonus).HasCommonRoll rules penalty toHit ranged :=
  hasCommonRoll_of_not_fullRound rules ranged penalty htoHit rfl rfl rfl

/-- The strikes with a double weapon are rolled with the common bonus, and the one with all ends
with the penalty for that. -/
theorem hasCommonRoll_doubleStrikes (dice : List String) :
    ∀ s ∈ doubleStrikes name ranged toHit bonus penalty dice,
      s.HasCommonRoll rules penalty toHit ranged := by
  intro s hs
  rw [doubleStrikes, List.mem_cons] at hs
  rcases hs with rfl | hs
  · exact ⟨by simp, rfl, by simp⟩
  · obtain ⟨i, hi, rfl⟩ := List.mem_mapIdx.mp hs
    exact ⟨by simp [endStrike, htoHit.word_eq], rfl, by simp [endStrike]⟩

end CommonRoll

variable (toHit) in
/-- The strikes with one end of a weapon each are as its dice say. -/
theorem areEnds_mapIdx_endStrike :
    weapon.AreEnds bonus
      ((Formula.splitDice weapon.damage).mapIdx (endStrike name ranged toHit bonus)) := by
  constructor
  case damage =>
    conv_rhs => rw [← List.zipIdx_map_fst 0 (Formula.splitDice weapon.damage), List.map_map]
    rw [List.mapIdx_eq_zipIdx_map, List.map_map]
    rfl
  case fullRound =>
    intro s hs
    obtain ⟨i, hi, rfl⟩ := List.mem_mapIdx.mp hs
    rfl

/-- The one bonus of a weapon is the one that its wielder has with it. -/
theorem hasCommonRoll_weaponStrikes :
    ∀ s ∈ w.weaponStrikes rules name weapon,
      s.HasCommonRoll rules (w.multiAttackPenalty rules (w.isProficient weapon))
        (w.weaponBonus rules weapon (isRanged rules weapon)) (isRanged rules weapon) := by
  have hword : IsWord (w.weaponBonus rules weapon (isRanged rules weapon)) := isWord_word _
  -- the attacks that do not stun, whichever of the three ways they are listed
  have hnormal : ∀ s ∈ w.normalStrikes rules name weapon,
      s.HasCommonRoll rules (w.multiAttackPenalty rules (w.isProficient weapon))
        (w.weaponBonus rules weapon (isRanged rules weapon)) (isRanged rules weapon) := by
    rw [normalStrikes]
    split
    · exact List.forall_mem_map.mpr fun rate _ => hasCommonRoll_rateStrike _ _ _ _ _ _ hword rate
    split
    · exact hasCommonRoll_doubleStrikes rules name _ _ _ hword _
    · exact List.forall_mem_singleton.mpr (hasCommonRoll_plainStrike _ _ _ _ _ _ hword)
  rw [weaponStrikes]
  split
  · exact List.forall_mem_nil _
  split
  · exact hnormal
  · next stun _ =>
    rw [List.forall_mem_cons]
    refine ⟨hasCommonRoll_stunStrike _ _ _ _ _ _ hword stun, ?_⟩
    split
    · exact List.forall_mem_nil _
    · exact hnormal

/-- Only a double weapon without firing modes has a strike with all ends, and it is the first one
apart from a stun strike. -/
theorem leadsStrikes_normalStrikes {i : Nat} {s : Strike}
    (hs : (w.normalStrikes rules name weapon)[i]? = some s) (hfull : s.fullRound = true) :
    weapon.LeadsStrikes s ((w.normalStrikes rules name weapon).drop (i + 1)) := by
  rw [normalStrikes] at hs ⊢
  split at hs
  -- attacks at a listed rate of fire are never full rounds
  · obtain ⟨rate, -, rfl⟩ := List.mem_map.mp (List.mem_of_getElem? hs)
    cases hfull
  split at hs
  · next hrates hdouble =>
    obtain ⟨hdice, hnone⟩ := Bool.and_eq_true_iff.mp hdouble
    rw [if_neg hrates, if_pos hdouble]
    refine ⟨List.isEmpty_iff.mp hnone, of_decide_eq_true hdice,
      w.damageBonus weapon (isRanged rules weapon), ?_⟩
    rw [doubleStrikes] at hs ⊢
    -- only the first of several dice is a full round, and the attacks per die stand behind it
    cases i with
    | zero =>
      cases hs
      exact ⟨rfl, areEnds_mapIdx_endStrike ..⟩
    | succ i =>
      rw [List.getElem?_cons_succ] at hs
      have hend := (areEnds_mapIdx_endStrike name weapon _ _ _).fullRound s
        (List.mem_of_getElem? hs)
      rw [hend] at hfull
      cases hfull
  · rw [List.mem_singleton.mp (List.mem_of_getElem? hs)] at hfull
    cases hfull

theorem leadsStrikes_weaponStrikes {i : Nat} {s : Strike}
    (hs : (w.weaponStrikes rules name weapon)[i]? = some s) (hfull : s.fullRound = true) :
    weapon.LeadsStrikes s ((w.weaponStrikes rules name weapon).drop (i + 1)) := by
  rw [weaponStrikes] at hs ⊢
  split at hs
  · cases hs
  · next hsize =>
    rw [if_neg hsize]
    cases hstun : weapon.stun with
    | none =>
      rw [hstun] at hs
      exact leadsStrikes_normalStrikes w rules name weapon hs hfull
    | some stun =>
      rw [hstun] at hs
      dsimp only at hs ⊢
      -- a stunning attack comes first and is no full round, so what leads is found one place behind
      cases i with
      | zero =>
        cases hs
        cases hfull
      | succ i =>
        rw [List.getElem?_cons_succ] at hs
        rw [List.drop_succ_cons]
        split at hs
        · cases hs
        · next hexclusive =>
          rw [if_neg hexclusive]
          exact leadsStrikes_normalStrikes w rules name weapon hs hfull

end Wielder

/-! ## Attacks -/

namespace Weapon

/-- The attack has all ends of a double weapon, and each one behind it has one end. The weapon has
no firing modes, and the damage rolls of the attack are those of the others in order. -/
structure LeadsEnds (w : Weapon) (a : Attack) (behind : List Attack) : Prop where
  rates : w.rates = []
  dice : 2 ≤ (Formula.splitDice w.damage).length
  ends : ∃ bonus, behind.map (·.damage) =
    (Formula.splitDice w.damage).map fun dice => [Formula.damage dice bonus]
  damage : a.damage = behind.flatMap (·.damage)
  fullRound : ∀ b ∈ behind, b.fullRound = false

/-- The attacks of the block are rolled with one bonus and the penalties that their flags tell. -/
structure IsRolledWith (w : Weapon) (rules : CombatRules) (penalty : Int) (block : List Attack)
    (toHit : Int) : Prop where
  toHit : ∀ a ∈ block, a.toHit = Formula.toHit (word (toHit +
    (if a.autofire then rules.autofirePenalty else 0) + if a.fullRound then penalty else 0))
  flags : ∀ a ∈ block, ¬ (a.autofire = true ∧ a.fullRound = true)
  ranged : ∀ a ∈ block, ∀ b ∈ block, a.ranged = b.ranged
  /-- Only the first attack can be one that stuns. -/
  stun : ∀ i a, block[i]? = some a → a.stun = true → i = 0
  fullRound : ∀ i a, block[i]? = some a → a.fullRound = true → w.LeadsEnds a (block.drop (i + 1))

end Weapon

namespace Trait

variable {t : Trait} {weapon : Weapon} (ht : t.weapon = some weapon) (actor : String) (s : Stats)
  (rules : Rules)

include ht

theorem stun_attackBlock (hsize : ¬ 1 < weapon.size.stepsAbove s.profile.size) {i : Nat}
    {a : Attack} (ha : (t.attackBlock actor s rules)[i]? = some a) (hstun : a.stun = true) :
    i = 0 := by
  -- the flags of the whole block are known: one `true` at most, and that in front
  have hmap : ((t.attackBlock actor s rules).map (·.stun))[i]? = some true := by
    rw [List.getElem?_map, ha, Option.map_some, hstun]
  rw [(hasBlock_attackBlock ht actor s rules).stun hsize] at hmap
  cases hstuns : weapon.stun with
  | none =>
    rw [hstuns] at hmap
    have hmem := List.eq_of_mem_replicate (List.mem_of_getElem? hmap)
    cases hmem
  | some stun =>
    rw [hstuns] at hmap
    cases i with
    | zero => rfl
    | succ i =>
      have hmem := List.eq_of_mem_replicate (List.mem_of_getElem? hmap)
      cases hmem

theorem leadsEnds_attackBlock {i : Nat} {a : Attack}
    (ha : (t.attackBlock actor s rules)[i]? = some a) (hfull : a.fullRound = true) :
    weapon.LeadsEnds a ((t.attackBlock actor s rules).drop (i + 1)) := by
  obtain ⟨strike, hstrike, rfl⟩ := getElem?_attackBlock ht actor s rules ha
  obtain ⟨hrates, hdice, bonus, hdamage, hends⟩ :=
    Wielder.leadsStrikes_weaponStrikes s.wielder rules.combat t.name weapon hstrike hfull
  -- each attack behind the full round deals one of the dice with the same bonus
  have hbehind : ((t.attackBlock actor s rules).drop (i + 1)).map (·.damage) =
      (Formula.splitDice weapon.damage).map fun dice => [Formula.damage dice bonus] := by
    rw [List.map_drop, map_attackBlock ht actor s rules (g := (·.damage)) fun _ _ _ => rfl,
      ← List.map_drop, hends.damage]
  refine ⟨hrates, hdice, ⟨bonus, hbehind⟩, ?_, ?_⟩
  · rw [List.flatMap_def, hbehind, ← List.flatMap_def, ← List.map_eq_flatMap]
    exact hdamage
  · intro b hb
    have hflag : b.fullRound ∈ ((t.attackBlock actor s rules).drop (i + 1)).map (·.fullRound) :=
      List.mem_map_of_mem hb
    rw [List.map_drop, map_attackBlock ht actor s rules (g := (·.fullRound)) fun _ _ _ => rfl,
      ← List.map_drop] at hflag
    obtain ⟨strike', hstrike', heq⟩ := List.mem_map.mp hflag
    rw [← heq, hends.fullRound strike' hstrike']

/-- The attacks are rolled with the bonus that the wielder has with the weapon. -/
theorem isRolledWith_attackBlock (hsize : ¬ 1 < weapon.size.stepsAbove s.profile.size) :
    weapon.IsRolledWith rules.combat
      (s.wielder.multiAttackPenalty rules.combat (s.wielder.isProficient weapon))
      (t.attackBlock actor s rules)
      (s.wielder.weaponBonus rules.combat weapon (Wielder.isRanged rules.combat weapon)) := by
  -- every attack of the block is one of the weapon's strikes, with the roll they share
  have hcommon : ∀ a ∈ t.attackBlock actor s rules, ∃ i strike,
      a = Attack.ofStrike actor i (some t.id) strike ∧
        strike.HasCommonRoll rules.combat
          (s.wielder.multiAttackPenalty rules.combat (s.wielder.isProficient weapon))
          (s.wielder.weaponBonus rules.combat weapon (Wielder.isRanged rules.combat weapon))
          (Wielder.isRanged rules.combat weapon) := by
    intro a ha
    obtain ⟨i, hi⟩ := List.mem_iff_getElem?.mp ha
    obtain ⟨strike, hstrike, rfl⟩ := getElem?_attackBlock ht actor s rules hi
    exact ⟨i, strike, rfl, Wielder.hasCommonRoll_weaponStrikes s.wielder rules.combat t.name weapon
      strike (List.mem_of_getElem? hstrike)⟩
  constructor
  case toHit =>
    intro a ha
    obtain ⟨i, strike, rfl, hroll⟩ := hcommon a ha
    exact congrArg Formula.toHit hroll.bonus
  case flags =>
    intro a ha
    obtain ⟨i, strike, rfl, hroll⟩ := hcommon a ha
    exact hroll.flags
  case ranged =>
    intro a ha b hb
    obtain ⟨i, strike, rfl, hroll⟩ := hcommon a ha
    obtain ⟨j, strike', rfl, hroll'⟩ := hcommon b hb
    exact hroll.ranged.trans hroll'.ranged.symm
  case stun => exact fun i a ha => stun_attackBlock ht actor s rules hsize ha
  case fullRound => exact fun i a ha => leadsEnds_attackBlock ht actor s rules ha

end Trait

/-- A double weapon that can also stun. -/
def electrostaff : Trait where
  id := "e"
  name := "Electrostaff"
  kind := .weapon
  equipped := true
  weapon := some ⟨"2d6/2d6", ["exotic melee weapons"], .large, some ⟨none, false⟩, []⟩

/-- A rifle with two firing modes. -/
def repeater : Trait where
  id := "r"
  name := "Repeater"
  kind := .weapon
  equipped := true
  weapon := some ⟨"3d8", [], .medium, none, [.single, .autofire]⟩

end CharacterSheet
