import CharacterSheet.Trait.Gear
import CharacterSheet.Trait.Kind
import CharacterSheet.Value.Basic

/-!
# Traits

Everything a character owns is a trait: its species, each of its class levels, feats, talents and
gear. A trait contributes values to attributes, and a trait that was granted by another one names
its supplier.
-/

namespace CharacterSheet

/-- The identity of a trait. -/
abbrev TraitId := String

/-- A value that a trait contributes to the attribute `key`. -/
structure Contribution where
  key : String
  value : Value
  /-- A remark on when the contribution applies. -/
  modifier : Option String
  /-- Whether it applies in special situations only. -/
  situational : Bool
deriving DecidableEq, Repr

namespace Contribution

/-- Reads a contribution from data. -/
def ofData? (d : Data) : Option Contribution := do
  let fields ← d.fields? ["key", "value", "modifier", "situational"]
  return {
    key := ← fields.required "key" Data.text?
    value := ← fields.orElse "value" Value.ofData? .null
    modifier := ← fields.optional "modifier" Data.text?
    situational := ← fields.orElse "situational" Data.bool? false }

/-- The data of a contribution. -/
def toData (c : Contribution) : Data :=
  .record ([("key", .text c.key), ("value", c.value.toData)] ++
    c.modifier.toList.map (("modifier", .text ·)) ++
    [("situational", .bool c.situational)])

end Contribution

/-- The trait that granted another one. -/
structure Supplier where
  id : TraitId
  name : String
deriving DecidableEq, Repr

namespace Supplier

/-- Reads a supplier from data. -/
def ofData? (d : Data) : Option Supplier := do
  let fields ← d.fields? ["id", "name"]
  return ⟨← fields.required "id" Data.text?, ← fields.orElse "name" Data.text? ""⟩

/-- The data of a supplier. -/
def toData (s : Supplier) : Data := .record [("id", .text s.id), ("name", .text s.name)]

end Supplier

/-- Something that a character owns. -/
structure Trait where
  id : TraitId
  name : String
  kind : TraitKind
  contributions : List Contribution := []
  prerequisites : List String := []
  supplier : Option Supplier := none
  isSupplied : Bool := false
  equipped : Bool := false
  /-- The slot that the trait was taken against. -/
  slot : Option String := none
  weapon : Option Weapon := none
  armor : Option Armor := none
  /-- Weight in kilograms. -/
  weight : Binary64 := 0
deriving DecidableEq, Repr

namespace Trait

/-- Whether the trait contributes at present: gear does while it is equipped. -/
def contributes (t : Trait) : Bool := !t.kind.isGear || t.equipped

/-- Whether a text is the trait's name, up to Latin case and blanks around. -/
def nameMatches (t : Trait) (name : String) : Bool :=
  Text.sameLatin (Text.trim t.name) (Text.trim name)

/-- The trait as granted by another one. -/
def suppliedBy (t supplier : Trait) : Trait :=
  { t with supplier := some ⟨supplier.id, supplier.name⟩, isSupplied := true }

/-- Reads a trait from data. -/
def ofData? (d : Data) : Option Trait := do
  let fields ← d.fields? ["id", "name", "kind", "contributions", "prerequisites", "supplier",
    "isSupplied", "equipped", "slot", "weapon", "armor", "weight"]
  return {
    id := ← fields.required "id" Data.text?
    name := ← fields.required "name" Data.text?
    kind := ← fields.required "kind" TraitKind.ofData?
    contributions := ← fields.orElse "contributions" (Data.list? Contribution.ofData?) []
    prerequisites := ← fields.orElse "prerequisites" (Data.list? Data.text?) []
    supplier := ← fields.optional "supplier" Supplier.ofData?
    isSupplied := ← fields.orElse "isSupplied" Data.bool? false
    equipped := ← fields.orElse "equipped" Data.bool? false
    slot := ← fields.optional "slot" Data.text?
    weapon := ← fields.optional "weapon" Weapon.ofData?
    armor := ← fields.optional "armor" Armor.ofData?
    weight := ← fields.orElse "weight" Data.number? 0 }

/-- The data of a trait. -/
def toData (t : Trait) : Data :=
  .record ([("id", .text t.id),
      ("name", .text t.name),
      ("kind", .text t.kind.name),
      ("contributions", .list (t.contributions.map Contribution.toData)),
      ("prerequisites", .list (t.prerequisites.map .text))] ++
    t.supplier.toList.map (fun s => ("supplier", s.toData)) ++
    [("isSupplied", .bool t.isSupplied), ("equipped", .bool t.equipped)] ++
    t.slot.toList.map (("slot", .text ·)) ++
    t.weapon.toList.map (fun w => ("weapon", w.toData)) ++
    t.armor.toList.map (fun a => ("armor", a.toData)) ++
    [("weight", .float t.weight)])

end Trait

end CharacterSheet
