import CharacterSheet.Character.Basic
import CharacterSheet.Inquiry.Basic
import CharacterSheet.Skill
import CharacterSheet.Text.Number

/-!
# The profile

Levels, species, size, feats, talents, proficiencies and open slots, as the traits say, and the
effect of the condition track.
-/

namespace CharacterSheet

namespace Profile

/-- One class level for each active trait that is one. -/
def classLevels (active : List Trait) : List Trait := active.filter fun t => t.kind = .classLevel

/-- Levels by class. -/
def countClasses (levels : List Trait) : Std.ExtTreeMap String Int :=
  levels.foldl (fun counts t => counts.insert t.name (word (counts.getD t.name 0 + 1))) ∅

/-- All counts of a table together. -/
def totalCount (counts : Std.ExtTreeMap String Int) : Int :=
  word ((counts.toList.map (·.2)).foldl (· + ·) 0)

/-- Whether a class level is one without heroic training. -/
def isNonheroic (t : Trait) : Bool :=
  t.contributions.any fun c => c.key = "isNonheroic" && c.value.isTruthy

/-- The size: what contributions say first; else the first owned trait that is named after a size;
else medium. -/
def findSize (contributed : Option String) (owned : List Trait) : Size :=
  match contributed.bind Size.parse? with
  | some size => size
  | none => (owned.findSome? fun t => Size.parse? t.name).getD .medium

/-- The folded names of the traits of one kind. -/
def foldedNames (kind : TraitKind) (traits : List Trait) : Std.ExtTreeSet String :=
  .ofList ((traits.filter fun t => t.kind = kind).map fun t => Text.fold t.name)

/-- What stands in the parentheses behind a beginning: `pistols` in `weapon proficiency (pistols)`.
-/
def parenthesized? (beginning name : String) : Option String := do
  let rest ← Text.after? beginning name
  let inner ← Text.after? "(" (Text.trim rest)
  return Text.trim (← Text.before? ")" inner)

/-- The feats, with the second one of a merged pair where the house rules merge them. -/
def findFeats (house : HouseRules) (active : List Trait) : Std.ExtTreeSet String :=
  let feats := foldedNames .feat active
  if house.mergePointBlankAndPreciseShot && feats.contains "point-blank shot" then
    feats.insert "precise shot"
  else feats

/-- Proficiencies with those that a feat's name grants. -/
def grant (p : Proficiencies) (feat : String) : Proficiencies :=
  match parenthesized? "weapon proficiency" feat with
  | some category => { p with weapons := p.weapons.insert category }
  | none =>
    match parenthesized? "armor proficiency" feat with
    | some category => { p with armor := p.armor.insert category }
    | none =>
      match parenthesized? "weapon focus" feat with
      | some category => { p with weaponFocus := p.weaponFocus.insert category }
      | none => p

/-- The slot and count that a text provides: what stands before and behind its last colon, or the
whole text and one. There is no count where what stands behind the colon is no whole number. -/
def provision (s : String) : String × Option Int :=
  match Text.splitLast? ':' s with
  | some (name, count) => (Text.trim name, Text.int32? (Text.trimChars count.toList))
  | none => (Text.trim s, some 1)

/-- Adds to the count of a slot. -/
def addToSlot (slots : Std.ExtTreeMap String Int) (name : String) (n : Int) :
    Std.ExtTreeMap String Int :=
  slots.insert name (word (slots.getD name 0 + n))

/-- Adds what values provide; a bad count is warned of and taken for one. -/
def addProvisions (slots : Std.ExtTreeMap String Int) :
    List Value → Inquiry (Std.ExtTreeMap String Int)
  | [] => pure slots
  | value :: rest =>
    if value.isNull then addProvisions slots rest
    else
      match provision value.display with
      | (name, some count) => addProvisions (addToSlot slots name count) rest
      | (name, none) => do
        Inquiry.warning ("provides: bad count in '" ++ value.display ++ "'; using 1")
        addProvisions (addToSlot slots name 1) rest

/-- Takes one off the slot of each trait that was taken against one and not granted. -/
def takeSlots (slots : Std.ExtTreeMap String Int) (owned : List Trait) :
    Std.ExtTreeMap String Int :=
  (owned.filterMap fun t => if t.isSupplied then none else t.slot).foldl
    (fun slots name => addToSlot slots name (-1)) slots

/-- The profile of a character. No roll variable is published yet. -/
def inquire (rules : Rules) (c : Character) : Inquiry Profile := do
  let here : Standpoint := ⟨c.id, .traits, ∅⟩
  let active := c.activeTraits
  let levels := classLevels active
  let classes := countClasses levels
  let level := totalCount classes
  let isDroid ← here.any "isDroid" .all
  let size := findSize (← here.firstText "size" .all) c.ownedTraits
  let feats := findFeats rules.house active
  let weapons ← here.texts "weaponProficiency" .all
  let armor ← here.texts "armorProficiency" .all
  let weaponFocus ← here.texts "weaponFocus" .all
  let contributed : Proficiencies := ⟨.ofList weapons, .ofList armor, .ofList weaponFocus⟩
  let slots ← addProvisions ∅ (← here.values "provides" .all)
  return {
    level, classes
    heroicLevel := word (level - (levels.filter isNonheroic).length)
    species := (active.find? fun t => t.kind = .species).map (·.name)
    size, isDroid, feats
    talents := foldedNames .talent active
    proficiencies := feats.toList.foldl grant contributed
    openSlots := takeSlots slots c.ownedTraits }

/-- The roll variables that a profile publishes. -/
def vars (p : Profile) : Variables :=
  Variables.publish (Variables.publish (Variables.publish ∅ "charLevel" p.level)
    "halfCharLevel" p.halfLevel) "heroicLevel" p.heroicLevel

end Profile

/-- The effect of the step that a character has reached on the condition track. Five is the last
step. -/
def ConditionEffect.of (rules : Rules) (c : Character) : ConditionEffect :=
  let step := min c.condition 5
  ⟨rules.conditionPenalty step, 5 ≤ step⟩

end CharacterSheet
