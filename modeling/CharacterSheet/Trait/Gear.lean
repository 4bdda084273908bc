import CharacterSheet.Size

/-!
# Weapons and armor

What a trait carries when it is a weapon or a suit of armor.
-/

namespace CharacterSheet

/-- A firing mode. -/
inductive Rate where
  | single
  | autofire
deriving DecidableEq, Repr

namespace Rate

/-- All firing modes. -/
def all : List Rate := [single, autofire]

/-- The name by which data refers to the mode. -/
def name : Rate → String
  | single => "single"
  | autofire => "autofire"

/-- How the mode is called in the name of an attack. -/
def label : Rate → String
  | single => "Single-Shot"
  | autofire => "Autofire"

/-- Reads a firing mode from data. -/
def ofData? : Data → Option Rate := Data.named? all name

end Rate

/-- The stun setting of a weapon. -/
structure Stun where
  /-- The stun dice; the weapon's own dice when there are none. -/
  damage : Option String
  /-- Whether the weapon can deal nothing but stun damage. -/
  exclusive : Bool
deriving DecidableEq, Repr

namespace Stun

/-- Reads a stun setting from data. -/
def ofData? (d : Data) : Option Stun := do
  let fields ← d.fields? ["damage", "exclusive"]
  return ⟨← fields.optional "damage" Data.text?, ← fields.orElse "exclusive" Data.bool? false⟩

/-- The data of a stun setting. -/
def toData (s : Stun) : Data :=
  .record (s.damage.toList.map (("damage", .text ·)) ++ [("exclusive", .bool s.exclusive)])

end Stun

/-- A weapon. -/
structure Weapon where
  /-- Damage dice; a double weapon has several, separated by slashes. -/
  damage : String
  categories : List String
  size : Size
  stun : Option Stun
  rates : List Rate
deriving DecidableEq, Repr

namespace Weapon

/-- The categories as proficiencies name them. -/
def categoryKeys (w : Weapon) : List String := w.categories.map Text.fold

/-- Whether the weapon belongs to a category, in any Latin case. -/
def hasCategory (w : Weapon) (category : String) : Bool :=
  w.categories.any fun c => Text.sameLatin (Text.trim c) category

/-- Whether autofire is the only firing mode. -/
def isAutofireOnly (w : Weapon) : Bool := w.rates = [.autofire]

/-- Reads a weapon from data. -/
def ofData? (d : Data) : Option Weapon := do
  let fields ← d.fields? ["damage", "categories", "size", "stun", "ratesOfFire"]
  return {
    damage := ← fields.required "damage" Data.text?
    categories := ← fields.orElse "categories" (Data.list? Data.text?) []
    size := ← fields.orElse "size" Size.ofData? .medium
    stun := ← fields.optional "stun" Stun.ofData?
    rates := ← fields.orElse "ratesOfFire" (Data.list? Rate.ofData?) [] }

/-- The data of a weapon. -/
def toData (w : Weapon) : Data :=
  .record ([("damage", .text w.damage),
      ("categories", .list (w.categories.map .text)),
      ("size", .text w.size.name)] ++
    w.stun.toList.map (fun s => ("stun", s.toData)) ++
    [("ratesOfFire", .list (w.rates.map (.text ·.name)))])

end Weapon

/-- The weight class of armor. -/
inductive ArmorClass where
  | light
  | medium
  | heavy
deriving DecidableEq, Repr

namespace ArmorClass

/-- All weight classes. -/
def all : List ArmorClass := [light, medium, heavy]

/-- The name, which is also the proficiency that covers the class. -/
def name : ArmorClass → String
  | light => "light"
  | medium => "medium"
  | heavy => "heavy"

/-- The penalty on checks and attacks when armor is worn without proficiency. -/
def checkPenalty : ArmorClass → Int
  | light => -2
  | medium => -5
  | heavy => -10

/-- Reads a weight class from data. -/
def ofData? : Data → Option ArmorClass := Data.named? all name

end ArmorClass

/-- A suit of armor. -/
structure Armor where
  category : ArmorClass
  reflexBonus : Int
  fortitudeBonus : Int
  /-- The most that Dexterity adds to the reflex defense, if it is bounded. -/
  maxDexterity : Option Int
deriving DecidableEq, Repr

namespace Armor

/-- Reads a suit of armor from data. -/
def ofData? (d : Data) : Option Armor := do
  let fields ← d.fields? ["category", "reflexBonus", "fortitudeBonus", "maxDexBonus"]
  return {
    category := ← fields.required "category" ArmorClass.ofData?
    reflexBonus := ← fields.orElse "reflexBonus" Data.int32? 0
    fortitudeBonus := ← fields.orElse "fortitudeBonus" Data.int32? 0
    maxDexterity := ← fields.optional "maxDexBonus" Data.int32? }

/-- The data of a suit of armor. -/
def toData (a : Armor) : Data :=
  .record ([("category", .text a.category.name),
      ("reflexBonus", .int a.reflexBonus),
      ("fortitudeBonus", .int a.fortitudeBonus)] ++
    a.maxDexterity.toList.map (("maxDexBonus", .int ·)))

end Armor

end CharacterSheet
