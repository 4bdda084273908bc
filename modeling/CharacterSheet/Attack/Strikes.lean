import CharacterSheet.Attack.Basic
import CharacterSheet.Rules
import CharacterSheet.Stats.Basic

/-!
# Strikes

The strikes that a character has with its bare hands and with each of its weapons. They depend on
the stat block only through the `Wielder`, and on nothing that another weapon does.
-/

namespace CharacterSheet

/-- How a weapon is held, by its size relative to its wielder. -/
inductive Grip where
  | light
  | oneHanded
  | twoHanded
deriving DecidableEq, Repr

namespace Grip

/-- The name by which data refers to the grip. -/
def name : Grip → String
  | light => "light"
  | oneHanded => "oneHanded"
  | twoHanded => "twoHanded"

/-- The grip on a weapon that is some size steps above its wielder. -/
def ofSteps (steps : Int) : Grip :=
  if steps < 0 then light else if steps = 0 then oneHanded else twoHanded

/-- How often the Strength modifier counts for damage. -/
def strengthFactor : Grip → Int
  | twoHanded => 2
  | _ => 1

end Grip

/-- What matters of a stat block when its character attacks. -/
structure Wielder where
  size : Size
  feats : Std.ExtTreeSet String
  proficiencies : Proficiencies
  halfLevel : Int
  strength : Int
  offense : Offense

/-- The wielder that a stat block describes. -/
def Stats.wielder (s : Stats) : Wielder where
  size := s.profile.size
  feats := s.profile.feats
  proficiencies := s.profile.proficiencies
  halfLevel := s.profile.halfLevel
  strength := s.scores.modifier .strength
  offense := s.offense

namespace Wielder

/-! ## Bare hands -/

/-- The die of an unarmed strike: the place on the ladder is two for a medium creature, moves with
the size within the ladder, and then up with each tier of Martial Arts to the top at most. Places
and tiers are counted in 32 bits with a sign; if the top of the ladder wraps around to below zero
there are no places to move within, and no die. A place that the ladder does not have stands for a
d4. -/
def unarmedDie? (size : Size) (tier : Nat) (ladder : List Nat) : Option Nat :=
  let top := word (ladder.length - 1 : Nat)
  (clamp? 0 top (size.stepsAbove .medium + 2)).map fun bySize =>
    let place := min top (word (bySize + word tier))
    if place < 0 then 4 else ladder[place.toNat]?.getD 4

/-- How many tiers of Martial Arts the wielder has. -/
def martialTier (w : Wielder) : Nat :=
  (["martial arts i", "martial arts ii", "martial arts iii"].filter w.feats.contains).length

/-- Whether the wielder has Weapon Finesse. -/
def hasFinesse (w : Wielder) : Bool := w.feats.contains "weapon finesse"

/-- The better one of the melee bonus and, with Weapon Finesse, the finesse bonus. -/
def lightBonus (w : Wielder) : Int :=
  if w.hasFinesse then max w.offense.melee w.offense.finesse else w.offense.melee

/-- The unarmed strike. It has one damage roll, and none without a die. -/
def unarmedStrike (w : Wielder) (rules : CombatRules) : Strike where
  name := "Unarmed Attack"
  bonus := w.lightBonus
  damage := (unarmedDie? w.size w.martialTier rules.unarmedDice).toList.map fun die =>
    Formula.damage ("1d" ++ toString die) (word (w.halfLevel + w.strength))

/-! ## Weapons -/

/-- Whether the wielder is proficient with every category of a weapon. -/
def isProficient (w : Wielder) (weapon : Weapon) : Bool :=
  weapon.categoryKeys.all w.proficiencies.coversWeapon

/-- Whether the wielder has a Weapon Focus for one of a weapon's categories. -/
def isFocused (w : Wielder) (weapon : Weapon) : Bool :=
  weapon.categoryKeys.any w.proficiencies.weaponFocus.contains

/-- How a weapon is held. With the matching Weapon Focus every lightsaber is light. -/
def grip (w : Wielder) (weapon : Weapon) : Grip :=
  if weapon.hasCategory "lightsabers" && w.proficiencies.weaponFocus.contains "lightsabers" then
    .light
  else Grip.ofSteps (weapon.size.stepsAbove w.size)

/-- The sum of all that is added to an attack roll with a weapon. -/
def weaponSum (w : Wielder) (rules : CombatRules) (weapon : Weapon) (ranged : Bool) : Int :=
  let base :=
    if ranged then w.offense.ranged
    else if w.grip weapon = .light then w.lightBonus
    else w.offense.melee
  base + (if w.isProficient weapon then 0 else rules.nonProficientPenalty) +
    (if w.isFocused weapon then 1 else 0)

/-- What is added to an attack roll with a weapon. -/
def weaponBonus (w : Wielder) (rules : CombatRules) (weapon : Weapon) (ranged : Bool) : Int :=
  word (w.weaponSum rules weapon ranged)

/-- What is added to a damage roll with a weapon. -/
def damageBonus (w : Wielder) (weapon : Weapon) (ranged : Bool) : Int :=
  word (w.halfLevel + if ranged then 0 else w.strength * (w.grip weapon).strengthFactor)

/-- The penalty on an attack with both ends of a double weapon. Dual Weapon Mastery lowers it for a
wielder that is proficient. -/
def multiAttackPenalty (w : Wielder) (rules : CombatRules) (proficient : Bool) : Int :=
  if !proficient then rules.multiAttackPenalty
  else if w.feats.contains "dual weapon mastery iii" then 0
  else if w.feats.contains "dual weapon mastery ii" then -2
  else if w.feats.contains "dual weapon mastery i" then -5
  else rules.multiAttackPenalty

/-- Whether attacks with a weapon are ranged ones. -/
def isRanged (rules : CombatRules) (weapon : Weapon) : Bool :=
  weapon.categoryKeys.any fun c => rules.rangedCategories.any (Text.sameLatin · c)

/-- The stun strike of a weapon with a stun setting. -/
def stunStrike (rules : CombatRules) (name : String) (weapon : Weapon) (ranged : Bool)
    (toHit bonus : Int) (stun : Stun) : Strike where
  name := name ++ " (Stun)"
  bonus := if weapon.isAutofireOnly then word (toHit + rules.autofirePenalty) else toHit
  damage := Formula.damageEach (stun.damage.getD weapon.damage) bonus
  ranged
  stun := true
  autofire := weapon.isAutofireOnly

/-- The strike in one of several firing modes. -/
def rateStrike (rules : CombatRules) (name : String) (weapon : Weapon) (ranged : Bool)
    (toHit bonus : Int) (rate : Rate) : Strike where
  name := name ++ " (" ++ rate.label ++ ")"
  bonus := if rate = .autofire then word (toHit + rules.autofirePenalty) else toHit
  damage := Formula.damageEach weapon.damage bonus
  ranged
  autofire := rate = .autofire

/-- The strike with one end of a double weapon, counted from zero. -/
def endStrike (name : String) (ranged : Bool) (toHit bonus : Int) (index : Nat) (dice : String) :
    Strike where
  name := name ++ " (" ++ toString (index + 1) ++ ")"
  bonus := toHit
  damage := [Formula.damage dice bonus]
  ranged

/-- The strikes with a double weapon: one with all ends, and one with each. -/
def doubleStrikes (name : String) (ranged : Bool) (toHit bonus penalty : Int)
    (dice : List String) : List Strike :=
  { name := name ++ " (Full Round)"
    bonus := word (toHit + penalty)
    damage := dice.map (Formula.damage · bonus)
    ranged
    fullRound := true : Strike } ::
  dice.mapIdx (endStrike name ranged toHit bonus)

/-- The strike with a weapon that has no special ones. -/
def plainStrike (rules : CombatRules) (name : String) (weapon : Weapon) (ranged : Bool)
    (toHit bonus : Int) : Strike where
  name
  bonus := if weapon.isAutofireOnly then word (toHit + rules.autofirePenalty) else toHit
  damage := Formula.damageEach weapon.damage bonus
  ranged
  autofire := weapon.isAutofireOnly

/-- The strikes with a weapon apart from a stun strike: one for each of several firing modes; those
of a double weapon if no firing mode is listed; otherwise one. -/
def normalStrikes (w : Wielder) (rules : CombatRules) (name : String) (weapon : Weapon) :
    List Strike :=
  let ranged := isRanged rules weapon
  let toHit := w.weaponBonus rules weapon ranged
  let bonus := w.damageBonus weapon ranged
  let dice := Formula.splitDice weapon.damage
  if 1 < weapon.rates.length then
    weapon.rates.map (rateStrike rules name weapon ranged toHit bonus)
  else if 1 < dice.length && weapon.rates.isEmpty then
    doubleStrikes name ranged toHit bonus (w.multiAttackPenalty rules (w.isProficient weapon)) dice
  else [plainStrike rules name weapon ranged toHit bonus]

/-- All strikes with a weapon of the given name. A weapon more than one size step above its wielder
cannot be used, and one that can only stun has its stun strike alone. -/
def weaponStrikes (w : Wielder) (rules : CombatRules) (name : String) (weapon : Weapon) :
    List Strike :=
  if 1 < weapon.size.stepsAbove w.size then []
  else
    match weapon.stun with
    | none => w.normalStrikes rules name weapon
    | some stun =>
      let ranged := isRanged rules weapon
      stunStrike rules name weapon ranged (w.weaponBonus rules weapon ranged)
          (w.damageBonus weapon ranged) stun ::
        if stun.exclusive then [] else w.normalStrikes rules name weapon

/-- The strikes with a trait, each with the trait as its source; none if it is no weapon. -/
def traitStrikes (w : Wielder) (rules : CombatRules) (t : Trait) :
    List (Option TraitId × Strike) :=
  match t.weapon with
  | some weapon => (w.weaponStrikes rules t.name weapon).map (some t.id, ·)
  | none => []

/-- All strikes: the unarmed one, then those with each trait in order. -/
def strikes (w : Wielder) (rules : CombatRules) (active : List Trait) :
    List (Option TraitId × Strike) :=
  (none, w.unarmedStrike rules) :: active.flatMap (w.traitStrikes rules)

end Wielder

end CharacterSheet
