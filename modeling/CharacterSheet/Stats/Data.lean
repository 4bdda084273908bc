import CharacterSheet.Stats.Basic

/-!
# The stat block as data

The block is one flat record; its parts below the top level are records of their own. Apart from
the species and from what an attack may leave out, every field has to be there when a block is
read.
-/

namespace CharacterSheet

namespace Proficiencies

/-- Reads proficiencies from data. -/
def ofData? (d : Data) : Option Proficiencies := do
  let fields ← d.fields? ["weapons", "armor", "weaponFocus"]
  return {
    weapons := ← fields.required "weapons" Data.textSet?
    armor := ← fields.required "armor" Data.textSet?
    weaponFocus := ← fields.required "weaponFocus" Data.textSet? }

/-- The data of proficiencies. -/
def toData (p : Proficiencies) : Data :=
  .record [("weapons", .ofTextSet p.weapons), ("armor", .ofTextSet p.armor),
    ("weaponFocus", .ofTextSet p.weaponFocus)]

end Proficiencies

namespace AbilityScore

/-- Reads a score from data. -/
def ofData? (d : Data) : Option AbilityScore := do
  let fields ← d.fields? ["base", "bonus", "total", "modifier", "roll", "skip", "tip"]
  return {
    base := ← fields.required "base" Data.int32?
    bonus := ← fields.required "bonus" Data.int32?
    total := ← fields.required "total" Data.int32?
    modifier := ← fields.required "modifier" Data.int32?
    roll := ← fields.required "roll" Data.int32?
    skip := ← fields.required "skip" Data.bool?
    tip := ← fields.required "tip" Data.text? }

/-- The data of a score. -/
def toData (s : AbilityScore) : Data :=
  .record [("base", .int s.base), ("bonus", .int s.bonus), ("total", .int s.total),
    ("modifier", .int s.modifier), ("roll", .int s.roll), ("skip", .bool s.skip),
    ("tip", .text s.tip)]

end AbilityScore

namespace SkillEntry

/-- Reads an entry from data. -/
def ofData? (d : Data) : Option SkillEntry := do
  let fields ← d.fields? ["label", "ability", "trained", "focus", "value", "tip"]
  return {
    label := ← fields.required "label" Data.text?
    ability := ← fields.required "ability" Ability.ofData?
    trained := ← fields.required "trained" Data.bool?
    focus := ← fields.required "focus" Data.bool?
    value := ← fields.required "value" Data.int32?
    tip := ← fields.required "tip" Data.text? }

/-- The data of an entry. -/
def toData (s : SkillEntry) : Data :=
  .record [("label", .text s.label), ("ability", .text s.ability.name),
    ("trained", .bool s.trained), ("focus", .bool s.focus), ("value", .int s.value),
    ("tip", .text s.tip)]

end SkillEntry

namespace Shields

/-- Reads shields from data. -/
def ofData? (d : Data) : Option Shields := do
  let fields ← d.fields? ["max", "current", "active"]
  return {
    maximum := ← fields.required "max" Data.int32?
    current := ← fields.required "current" Data.int32?
    active := ← fields.required "active" Data.bool? }

/-- The data of shields. -/
def toData (s : Shields) : Data :=
  .record [("max", .int s.maximum), ("current", .int s.current), ("active", .bool s.active)]

end Shields

namespace Defense

/-- Reads a defense from data. -/
def ofData? (d : Data) : Option Defense := do
  let fields ← d.fields? ["total", "base", "levelOrArmor", "ability", "classBonus", "misc", "size",
    "condition", "tip"]
  return {
    total := ← fields.required "total" Data.int32?
    base := ← fields.required "base" Data.int32?
    levelOrArmor := ← fields.required "levelOrArmor" Data.int32?
    ability := ← fields.required "ability" Data.int32?
    classBonus := ← fields.required "classBonus" Data.int32?
    misc := ← fields.required "misc" Data.int32?
    size := ← fields.required "size" Data.int32?
    condition := ← fields.required "condition" Data.int32?
    tip := ← fields.required "tip" Data.text? }

/-- The data of a defense. -/
def toData (d : Defense) : Data :=
  .record [("total", .int d.total), ("base", .int d.base), ("levelOrArmor", .int d.levelOrArmor),
    ("ability", .int d.ability), ("classBonus", .int d.classBonus), ("misc", .int d.misc),
    ("size", .int d.size), ("condition", .int d.condition), ("tip", .text d.tip)]

end Defense

namespace Defenses

/-- Reads the defenses from data. -/
def ofData? (d : Data) : Option Defenses := do
  let fields ← d.fields? ["fortitude", "will", "reflex", "flatFooted", "damageThreshold"]
  return {
    fortitude := ← fields.required "fortitude" Defense.ofData?
    will := ← fields.required "will" Defense.ofData?
    reflex := ← fields.required "reflex" Defense.ofData?
    flatFooted := ← fields.required "flatFooted" Defense.ofData?
    damageThreshold := ← fields.required "damageThreshold" Data.int32? }

/-- The data of the defenses. -/
def toData (d : Defenses) : Data :=
  .record [("fortitude", d.fortitude.toData), ("will", d.will.toData), ("reflex", d.reflex.toData),
    ("flatFooted", d.flatFooted.toData), ("damageThreshold", .int d.damageThreshold)]

end Defenses

namespace Health

/-- Reads hit points from data. -/
def ofData? (d : Data) : Option Health := do
  let fields ← d.fields? ["max", "current", "temporary", "bonus", "condition"]
  return {
    maximum := ← fields.required "max" Data.int32?
    current := ← fields.required "current" Data.int32?
    temporary := ← fields.required "temporary" Data.int32?
    bonus := ← fields.required "bonus" Data.int32?
    condition := ← fields.required "condition" (Data.natUpTo? 255) }

/-- The data of hit points. -/
def toData (h : Health) : Data :=
  .record [("max", .int h.maximum), ("current", .int h.current), ("temporary", .int h.temporary),
    ("bonus", .int h.bonus), ("condition", .int h.condition)]

end Health

namespace Offense

/-- Reads attack bonuses from data. -/
def ofData? (d : Data) : Option Offense := do
  let fields ← d.fields? ["baseAttackBonus", "meleeAttackBonus", "rangedAttackBonus",
    "finesseAttackBonus"]
  return {
    base := ← fields.required "baseAttackBonus" Data.int32?
    melee := ← fields.required "meleeAttackBonus" Data.int32?
    ranged := ← fields.required "rangedAttackBonus" Data.int32?
    finesse := ← fields.required "finesseAttackBonus" Data.int32? }

/-- The data of attack bonuses. -/
def toData (o : Offense) : Data :=
  .record [("baseAttackBonus", .int o.base), ("meleeAttackBonus", .int o.melee),
    ("rangedAttackBonus", .int o.ranged), ("finesseAttackBonus", .int o.finesse)]

end Offense

namespace Stats

/-- The names of the block's fields, in order. -/
def fieldNames : List String :=
  ["level", "heroicLevel", "classes", "species", "size", "isDroid", "feats", "talents",
    "proficiencies", "availableItems", "conditionPenalty", "helpless", "abilities", "skills",
    "trainableSkills", "skillAllocation", "shields", "defenses", "health", "offense", "attacks",
    "variables", "warnings"]

/-- A table from texts to whole numbers. -/
def counts? : Data → Option (Std.ExtTreeMap String Int) := Data.table? some Data.int32?

/-- Reads the profile among the fields of the block. -/
def profile? (fields : Data.Fields) : Option Profile := do
  return {
    level := ← fields.required "level" Data.int32?
    heroicLevel := ← fields.required "heroicLevel" Data.int32?
    classes := ← fields.required "classes" counts?
    species := ← fields.optional "species" Data.text?
    size := ← fields.required "size" Size.ofData?
    isDroid := ← fields.required "isDroid" Data.bool?
    feats := ← fields.required "feats" Data.textSet?
    talents := ← fields.required "talents" Data.textSet?
    proficiencies := ← fields.required "proficiencies" Proficiencies.ofData?
    openSlots := ← fields.required "availableItems" counts? }

/-- Reads the condition effect among the fields of the block. -/
def condition? (fields : Data.Fields) : Option ConditionEffect := do
  return {
    penalty := ← fields.required "conditionPenalty" Data.int32?
    helpless := ← fields.required "helpless" Data.bool? }

/-- Reads the skills among the fields of the block. -/
def skills? (fields : Data.Fields) : Option SkillSheet := do
  return {
    entries := ← fields.required "skills" (Data.table? some SkillEntry.ofData?)
    trainable := ← fields.required "trainableSkills" Data.int32?
    allocation := ← fields.required "skillAllocation"
      (Data.named? SkillAllocation.all SkillAllocation.name) }

/-- Reads a stat block from data. -/
def ofData? (d : Data) : Option Stats := do
  let fields ← d.fields? fieldNames
  return {
    profile := ← profile? fields
    condition := ← condition? fields
    scores := ← fields.required "abilities" (Data.table? Ability.ofName? AbilityScore.ofData?)
    skills := ← skills? fields
    shields := ← fields.required "shields" Shields.ofData?
    defenses := ← fields.required "defenses" Defenses.ofData?
    health := ← fields.required "health" Health.ofData?
    offense := ← fields.required "offense" Offense.ofData?
    attacks := ← fields.required "attacks" (Data.list? Attack.ofData?)
    vars := ← fields.required "variables" counts?
    warnings := ← fields.required "warnings" (Data.list? Data.text?) }

/-- The fields of a stat block. -/
def toFields (s : Stats) : Data.Fields :=
  [("level", .int s.profile.level),
    ("heroicLevel", .int s.profile.heroicLevel),
    ("classes", .ofTable id .int s.profile.classes),
    ("species", .ofOption .text s.profile.species),
    ("size", .text s.profile.size.name),
    ("isDroid", .bool s.profile.isDroid),
    ("feats", .ofTextSet s.profile.feats),
    ("talents", .ofTextSet s.profile.talents),
    ("proficiencies", s.profile.proficiencies.toData),
    ("availableItems", .ofTable id .int s.profile.openSlots),
    ("conditionPenalty", .int s.condition.penalty),
    ("helpless", .bool s.condition.helpless),
    ("abilities", .ofTable Ability.name AbilityScore.toData s.scores),
    ("skills", .ofTable id SkillEntry.toData s.skills.entries),
    ("trainableSkills", .int s.skills.trainable),
    ("skillAllocation", .text s.skills.allocation.name),
    ("shields", s.shields.toData),
    ("defenses", s.defenses.toData),
    ("health", s.health.toData),
    ("offense", s.offense.toData),
    ("attacks", .list (s.attacks.map Attack.toData)),
    ("variables", .ofTable id .int s.vars),
    ("warnings", .list (s.warnings.map .text))]

/-- The data of a stat block. -/
def toData (s : Stats) : Data := .record s.toFields

end Stats

end CharacterSheet
