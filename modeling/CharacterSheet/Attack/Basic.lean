import CharacterSheet.Trait.Basic

/-!
# Attacks

An attack as the sheet lists it, with the roll formulas in text form, and a strike, from which one
is made: a strike still has its bonus as a number and has no place in the list.
-/

namespace CharacterSheet

/-- A way to attack, before it is listed. -/
structure Strike where
  name : String
  /-- What is added to the twenty-sided die. -/
  bonus : Int
  /-- One formula for each damage roll. -/
  damage : List String
  ranged : Bool := false
  stun : Bool := false
  autofire : Bool := false
  fullRound : Bool := false
deriving DecidableEq, Repr

/-- An attack on the sheet. -/
structure Attack where
  /-- The place in the list, from zero, in 32 bits. -/
  id : UInt32
  name : String
  toHit : String
  damage : List String
  /-- The weapon; the unarmed strike has none. -/
  sourceWeapon : Option TraitId
  actor : String
  ranged : Bool
  stun : Bool
  autofire : Bool
  fullRound : Bool
deriving DecidableEq, Repr

/-! ## Formulas -/

namespace Formula

/-- A bonus behind a die: nothing for zero, otherwise with its sign. -/
def signed (bonus : Int) : String :=
  if bonus = 0 then ""
  else if 0 < bonus then "+" ++ toString bonus
  else toString bonus

/-- The attack roll. -/
def toHit (bonus : Int) : String := "1d20" ++ signed bonus

/-- A damage roll. -/
def damage (dice : String) (bonus : Int) : String := Text.trim dice ++ signed bonus

/-- The dice of a weapon; a double weapon writes them with slashes between. -/
def splitDice (dice : String) : List String :=
  ((Text.splitWhere (· == '/') dice.toList).map fun d => String.ofList (Text.trimChars d)).filter
    (· ≠ "")

/-- One damage roll for each of a weapon's dice. -/
def damageEach (dice : String) (bonus : Int) : List String :=
  (splitDice dice).map (damage · bonus)

end Formula

namespace Attack

/-- A strike at a place in the list. -/
def ofStrike (actor : String) (id : Nat) (source : Option TraitId) (s : Strike) : Attack :=
  { id := .ofNat id, name := s.name, toHit := Formula.toHit s.bonus, damage := s.damage,
    sourceWeapon := source, actor, ranged := s.ranged, stun := s.stun, autofire := s.autofire,
    fullRound := s.fullRound }

/-- Lists strikes in order, numbered from zero. -/
def listed (actor : String) (strikes : List (Option TraitId × Strike)) : List Attack :=
  strikes.mapIdx fun id (source, s) => ofStrike actor id source s

/-- Reads an attack from data. -/
def ofData? (d : Data) : Option Attack := do
  let fields ← d.fields? ["id", "name", "toHit", "damage", "sourceWeapon", "actor", "ranged",
    "stun", "autofire", "fullRound"]
  return {
    id := .ofNat (← fields.required "id" (Data.natUpTo? 4294967295))
    name := ← fields.required "name" Data.text?
    toHit := ← fields.required "toHit" Data.text?
    damage := ← fields.required "damage" (Data.list? Data.text?)
    sourceWeapon := ← fields.optional "sourceWeapon" Data.text?
    actor := ← fields.required "actor" Data.text?
    ranged := ← fields.orElse "ranged" Data.bool? false
    stun := ← fields.orElse "stun" Data.bool? false
    autofire := ← fields.orElse "autofire" Data.bool? false
    fullRound := ← fields.orElse "fullRound" Data.bool? false }

/-- The data of an attack. -/
def toData (a : Attack) : Data :=
  .record ([("id", .int a.id.toNat), ("name", .text a.name), ("toHit", .text a.toHit),
      ("damage", .list (a.damage.map .text))] ++
    a.sourceWeapon.toList.map (("sourceWeapon", .text ·)) ++
    [("actor", .text a.actor), ("ranged", .bool a.ranged), ("stun", .bool a.stun),
      ("autofire", .bool a.autofire), ("fullRound", .bool a.fullRound)])

end Attack

end CharacterSheet
