import CharacterSheet.Stats.Data
import CharacterSheet.Proofs.Data.RoundTrip

/-!
# The stat block survives its JSON text

Every part of a block is read back from its data as it was, and so is the block, from its data and
from the JSON text of its data. The numbers of a block are of 32 bits, the condition step of 8 and
the numbers of attacks of 32 bits without a sign; the reader refuses any other.
-/

namespace CharacterSheet

open Json (IsWritable)

/-! ## Names -/

/-- An ability is read back from its name. -/
theorem Ability.ofData?_name (a : Ability) : Ability.ofData? (.text a.name) = some a := by
  cases a <;> rfl

/-- Each ability is the one with its name. -/
theorem Ability.ofName?_name (a : Ability) : Ability.ofName? a.name = some a := by
  cases a <;> rfl

/-- No two abilities have the same name. -/
theorem Ability.name_injective (a b : Ability) (h : a.name = b.name) : a = b := by
  have hname := Ability.ofName?_name b
  rw [← h, Ability.ofName?_name a] at hname
  exact Option.some.inj hname

/-- A size is read back from its name. -/
theorem Size.ofData?_name (s : Size) : Size.ofData? (.text s.name) = some s := by
  cases s <;> rfl

/-- How skills are allocated is read back from its name. -/
theorem SkillAllocation.named?_name (a : SkillAllocation) :
    Data.named? all name (.text a.name) = some a := by
  cases a <;> rfl

/-! ## Parts of the block -/

namespace Proficiencies

/-- Proficiencies are read back. -/
theorem ofData?_toData (p : Proficiencies) : ofData? p.toData = some p := by
  simp [ofData?, toData]

/-- Proficiencies are data that can be written. -/
theorem isWritable_toData (p : Proficiencies) (depth : Nat) : IsWritable (depth + 2) p.toData := by
  refine .record (by simp) ?_
  simp [Data.ofTextSet, Data.isWritable_list_map, IsWritable.text]

end Proficiencies

namespace AbilityScore

/-- The numbers in a score. -/
def numbers (s : AbilityScore) : List Int := [s.base, s.bonus, s.total, s.modifier, s.roll]

variable {s : AbilityScore} (h : ∀ n ∈ s.numbers, IsWord n)
include h

/-- A score is read back. -/
theorem ofData?_toData : ofData? s.toData = some s := by
  simp only [numbers, List.forall_mem_cons] at h
  simp [ofData?, toData, h]

/-- A score is data that can be written. -/
theorem isWritable_toData (depth : Nat) : IsWritable (depth + 1) s.toData := by
  simp only [numbers, List.forall_mem_cons] at h
  refine .record (by simp) ?_
  simp [Data.isWritable_int, h, IsWritable.text, IsWritable.bool]

end AbilityScore

namespace SkillEntry

/-- The entry of a skill is read back. -/
theorem ofData?_toData {s : SkillEntry} (h : IsWord s.value) : ofData? s.toData = some s := by
  simp [ofData?, toData, Ability.ofData?_name, h]

/-- The entry of a skill is data that can be written. -/
theorem isWritable_toData {s : SkillEntry} (h : IsWord s.value) (depth : Nat) :
    IsWritable (depth + 1) s.toData := by
  refine .record (by simp) ?_
  simp [Data.isWritable_int, h, IsWritable.text, IsWritable.bool]

end SkillEntry

namespace Shields

/-- The numbers of shields. -/
def numbers (s : Shields) : List Int := [s.maximum, s.current]

variable {s : Shields} (h : ∀ n ∈ s.numbers, IsWord n)
include h

/-- Shields are read back. -/
theorem ofData?_toData : ofData? s.toData = some s := by
  simp only [numbers, List.forall_mem_cons] at h
  simp [ofData?, toData, h]

/-- Shields are data that can be written. -/
theorem isWritable_toData (depth : Nat) : IsWritable (depth + 1) s.toData := by
  simp only [numbers, List.forall_mem_cons] at h
  refine .record (by simp) ?_
  simp [Data.isWritable_int, h, IsWritable.bool]

end Shields

namespace Defense

/-- The total of a defense and its components. -/
def numbers (d : Defense) : List Int :=
  [d.total, d.base, d.levelOrArmor, d.ability, d.classBonus, d.misc, d.size, d.condition]

variable {d : Defense} (h : ∀ n ∈ d.numbers, IsWord n)
include h

/-- A defense is read back. -/
theorem ofData?_toData : ofData? d.toData = some d := by
  simp only [numbers, List.forall_mem_cons] at h
  simp [ofData?, toData, h]

/-- A defense is data that can be written. -/
theorem isWritable_toData (depth : Nat) : IsWritable (depth + 1) d.toData := by
  simp only [numbers, List.forall_mem_cons] at h
  refine .record (by simp) ?_
  simp [Data.isWritable_int, h, IsWritable.text]

end Defense

namespace Defenses

/-- The numbers of all defenses. -/
def numbers (d : Defenses) : List Int :=
  d.fortitude.numbers ++ d.will.numbers ++ d.reflex.numbers ++ d.flatFooted.numbers ++
    [d.damageThreshold]

variable {d : Defenses} (h : ∀ n ∈ d.numbers, IsWord n)
include h

/-- All defenses are read back. -/
theorem ofData?_toData : ofData? d.toData = some d := by
  simp only [numbers, List.forall_mem_append, List.forall_mem_singleton] at h
  obtain ⟨⟨⟨⟨hfortitude, hwill⟩, hreflex⟩, hflatFooted⟩, hthreshold⟩ := h
  simp [ofData?, toData, Defense.ofData?_toData hfortitude, Defense.ofData?_toData hwill,
    Defense.ofData?_toData hreflex, Defense.ofData?_toData hflatFooted, hthreshold]

/-- All defenses are data that can be written. -/
theorem isWritable_toData (depth : Nat) : IsWritable (depth + 2) d.toData := by
  simp only [numbers, List.forall_mem_append, List.forall_mem_singleton] at h
  obtain ⟨⟨⟨⟨hfortitude, hwill⟩, hreflex⟩, hflatFooted⟩, hthreshold⟩ := h
  refine .record (by simp) ?_
  simp [Defense.isWritable_toData hfortitude, Defense.isWritable_toData hwill,
    Defense.isWritable_toData hreflex, Defense.isWritable_toData hflatFooted,
    Data.isWritable_int hthreshold]

end Defenses

namespace Health

/-- The hit points, without the step on the condition track. -/
def numbers (s : Health) : List Int := [s.maximum, s.current, s.temporary, s.bonus]

variable {s : Health} (h : ∀ n ∈ s.numbers, IsWord n) (hcondition : s.condition ≤ 255)
include h hcondition

/-- Health is read back. -/
theorem ofData?_toData : ofData? s.toData = some s := by
  simp only [numbers, List.forall_mem_cons] at h
  simp [ofData?, toData, h, hcondition]

/-- Health is data that can be written. -/
theorem isWritable_toData (depth : Nat) : IsWritable (depth + 1) s.toData := by
  simp only [numbers, List.forall_mem_cons] at h
  have hstep : IsWord s.condition := ⟨by omega, by omega⟩
  refine .record (by simp) ?_
  simp [Data.isWritable_int, h, hstep]

end Health

namespace Offense

/-- The attack bonuses. -/
def numbers (o : Offense) : List Int := [o.base, o.melee, o.ranged, o.finesse]

variable {o : Offense} (h : ∀ n ∈ o.numbers, IsWord n)
include h

/-- Attack bonuses are read back. -/
theorem ofData?_toData : ofData? o.toData = some o := by
  simp only [numbers, List.forall_mem_cons] at h
  simp [ofData?, toData, h]

/-- Attack bonuses are data that can be written. -/
theorem isWritable_toData (depth : Nat) : IsWritable (depth + 1) o.toData := by
  simp only [numbers, List.forall_mem_cons] at h
  refine .record (by simp) ?_
  simp [Data.isWritable_int, h]

end Offense

namespace Attack

/-- An attack is read back. -/
theorem ofData?_toData (a : Attack) : ofData? a.toData = some a := by
  obtain ⟨id, name, toHit, damage, source, actor, ranged, stun, autofire, fullRound⟩ := a
  have hdamage : Data.list? Data.text? (.list (damage.map .text)) = some damage :=
    Data.list?_map fun _ _ => rfl
  -- the weapon is the one field that is left out when there is none
  cases source with
  | none => simp [ofData?, toData, Data.Fields.optional, hdamage]
  | some weapon =>
    have hweapon : Data.nullable? Data.text? (.text weapon) = some (some weapon) := rfl
    simp [ofData?, toData, Data.Fields.optional, hdamage, hweapon]

/-- An attack is data that can be written. -/
theorem isWritable_toData (a : Attack) (depth : Nat) : IsWritable (depth + 2) a.toData := by
  have hlt := a.id.toNat_lt
  have hid : IsWritable (depth + 1) (.int a.id.toNat) := .int _ (by omega) (by omega)
  have hdamage : IsWritable (depth + 1) (.list (a.damage.map .text)) :=
    Data.isWritable_list_map fun _ _ => .text _ _
  cases hsource : a.sourceWeapon with
  | none =>
    rw [toData, hsource]
    refine .record (by simp) ?_
    simp [hid, hdamage, IsWritable.text, IsWritable.bool]
  | some weapon =>
    rw [toData, hsource]
    refine .record (by simp) ?_
    simp [hid, hdamage, IsWritable.text, IsWritable.bool]

end Attack

/-! ## The block -/

/-- The levels of a profile and the counts of its open slots. -/
def Profile.numbers (p : Profile) : List Int :=
  [p.level, p.heroicLevel] ++ p.classes.toList.map Prod.snd ++ p.openSlots.toList.map Prod.snd

/-- The values of all skills and the number of skills that can be trained. -/
def SkillSheet.numbers (s : SkillSheet) : List Int :=
  s.trainable :: s.entries.toList.map fun entry => entry.2.value

namespace Stats

/-- The JSON text of a block. -/
def toJson (s : Stats) : String := Json.write s.toData

/-- Reads a block from a JSON text. -/
def ofJson? (text : String) : Option Stats := (Json.read? text).bind ofData?

/-- The numbers of a block fit the words that hold them. -/
structure FitsWords (s : Stats) : Prop where
  profile : ∀ n ∈ s.profile.numbers, IsWord n
  penalty : IsWord s.condition.penalty
  scores : ∀ entry ∈ s.scores.toList, ∀ n ∈ entry.2.numbers, IsWord n
  skills : ∀ n ∈ s.skills.numbers, IsWord n
  shields : ∀ n ∈ s.shields.numbers, IsWord n
  defenses : ∀ n ∈ s.defenses.numbers, IsWord n
  health : ∀ n ∈ s.health.numbers, IsWord n
  condition : s.health.condition ≤ 255
  offense : ∀ n ∈ s.offense.numbers, IsWord n
  vars : ∀ entry ∈ s.vars.toList, IsWord entry.2

/-- A table of counts is read back. -/
theorem counts?_ofTable {counts : Std.ExtTreeMap String Int}
    (h : ∀ n ∈ counts.toList.map Prod.snd, IsWord n) :
    counts? (.ofTable id .int counts) = some counts :=
  Data.table?_ofTable (fun _ => rfl) fun entry hentry =>
    Data.int32?_int (h entry.2 (List.mem_map_of_mem hentry))

/-- A table of counts is data that can be written. -/
theorem isWritable_counts {counts : Std.ExtTreeMap String Int}
    (h : ∀ n ∈ counts.toList.map Prod.snd, IsWord n) (depth : Nat) :
    IsWritable (depth + 1) (.ofTable id .int counts) :=
  Data.isWritable_ofTable (fun _ _ heq => heq) fun entry hentry =>
    Data.isWritable_int (h entry.2 (List.mem_map_of_mem hentry)) depth

section RoundTrip

variable {s : Stats} (h : s.FitsWords)
include h

/-- The profile is read back from the fields of the block. -/
theorem profile?_toFields : profile? s.toFields = some s.profile := by
  have hnumbers := h.profile
  simp only [Profile.numbers, List.forall_mem_append, List.forall_mem_cons] at hnumbers
  obtain ⟨⟨⟨hlevel, hheroic, -⟩, hclasses⟩, hslots⟩ := hnumbers
  have hspecies : Data.nullable? Data.text? (.ofOption .text s.profile.species) =
      some s.profile.species := Data.nullable?_ofOption Data.text?_text (fun _ h => nomatch h) _
  simp [profile?, toFields, Data.Fields.optional, hlevel, hheroic, counts?_ofTable hclasses,
    hspecies, Size.ofData?_name, Proficiencies.ofData?_toData, counts?_ofTable hslots]

/-- The effect of the condition is read back from the fields of the block. -/
theorem condition?_toFields : condition? s.toFields = some s.condition := by
  simp [condition?, toFields, h.penalty]

/-- The skills are read back from the fields of the block. -/
theorem skills?_toFields : skills? s.toFields = some s.skills := by
  have hnumbers := h.skills
  simp only [SkillSheet.numbers, List.forall_mem_cons, List.forall_mem_map] at hnumbers
  have hentries : Data.table? some SkillEntry.ofData?
      (.ofTable id SkillEntry.toData s.skills.entries) = some s.skills.entries :=
    Data.table?_ofTable (fun _ => rfl) fun entry hentry =>
      SkillEntry.ofData?_toData (hnumbers.2 entry hentry)
  simp [skills?, toFields, hentries, hnumbers.1, SkillAllocation.named?_name]

/-- A block is read back from its data. -/
theorem ofData?_toData : ofData? s.toData = some s := by
  have hscores : Data.table? Ability.ofName? AbilityScore.ofData?
      (.ofTable Ability.name AbilityScore.toData s.scores) = some s.scores :=
    Data.table?_ofTable Ability.ofName?_name fun entry hentry =>
      AbilityScore.ofData?_toData (h.scores entry hentry)
  have hattacks : Data.list? Attack.ofData? (.list (s.attacks.map Attack.toData)) =
      some s.attacks := Data.list?_map fun a _ => a.ofData?_toData
  have hvars : counts? (.ofTable id .int s.vars) = some s.vars :=
    counts?_ofTable (List.forall_mem_map.mpr h.vars)
  have hwarnings : Data.list? Data.text? (.list (s.warnings.map .text)) = some s.warnings :=
    Data.list?_map fun _ _ => rfl
  rw [ofData?, toData, Data.fields?_record, Option.bind_eq_bind, Option.bind_some,
    profile?_toFields h, condition?_toFields h, skills?_toFields h]
  simp [toFields, hscores, Shields.ofData?_toData h.shields, Defenses.ofData?_toData h.defenses,
    Health.ofData?_toData h.health h.condition, Offense.ofData?_toData h.offense, hattacks, hvars,
    hwarnings]

/-- A block is data that can be written. -/
theorem isWritable_toData (depth : Nat) : IsWritable (depth + 4) s.toData := by
  -- all numbers of the block fit, so each field can be written
  have hprofile := h.profile
  simp only [Profile.numbers, List.forall_mem_append, List.forall_mem_cons] at hprofile
  obtain ⟨⟨⟨hlevel, hheroic, -⟩, hclasses⟩, hslots⟩ := hprofile
  have hskills := h.skills
  simp only [SkillSheet.numbers, List.forall_mem_cons, List.forall_mem_map] at hskills
  have hset : ∀ set, IsWritable (depth + 3) (.ofTextSet set) := fun set =>
    Data.isWritable_list_map fun _ _ => .text _ _
  have hspecies : IsWritable (depth + 3) (.ofOption .text s.profile.species) :=
    Data.isWritable_ofOption (fun _ => .text _ _) _
  have hscores : IsWritable (depth + 3) (.ofTable Ability.name AbilityScore.toData s.scores) :=
    Data.isWritable_ofTable Ability.name_injective fun entry hentry =>
      AbilityScore.isWritable_toData (h.scores entry hentry) (depth + 1)
  have hentries : IsWritable (depth + 3) (.ofTable id SkillEntry.toData s.skills.entries) :=
    Data.isWritable_ofTable (fun _ _ heq => heq) fun entry hentry =>
      SkillEntry.isWritable_toData (hskills.2 entry hentry) (depth + 1)
  have hattacks : IsWritable (depth + 3) (.list (s.attacks.map Attack.toData)) :=
    Data.isWritable_list_map fun a _ => a.isWritable_toData depth
  have hvars : IsWritable (depth + 3) (.ofTable id .int s.vars) :=
    isWritable_counts (List.forall_mem_map.mpr h.vars) (depth + 2)
  have hwarnings : IsWritable (depth + 3) (.list (s.warnings.map .text)) :=
    Data.isWritable_list_map fun _ _ => .text _ _
  have hnames : (s.toFields.map Prod.fst).Nodup := by
    show fieldNames.Nodup
    simp [fieldNames]
  refine .record hnames ?_
  simp [toFields, Data.isWritable_int, hlevel, hheroic, isWritable_counts hclasses (depth + 2),
    hspecies, hset, Proficiencies.isWritable_toData, isWritable_counts hslots (depth + 2),
    h.penalty, hscores, hentries, hskills.1, Shields.isWritable_toData h.shields,
    Defenses.isWritable_toData h.defenses, Health.isWritable_toData h.health h.condition,
    Offense.isWritable_toData h.offense, hattacks, hvars, hwarnings, IsWritable.text,
    IsWritable.bool]

/-- Every block that its words can hold is read back from its JSON text as it was. -/
theorem ofJson?_toJson : ofJson? s.toJson = some s := by
  have hread : Json.read? s.toJson = some s.toData :=
    Json.read?_write (isWritable_toData h 123)
  rw [ofJson?, hread, Option.bind_some, ofData?_toData h]

end RoundTrip

/-- A block with something in each of its parts. -/
def scout : Stats :=
  { profile :=
      { level := 2, heroicLevel := 2, classes := .ofList [("scout", (2 : Int))],
        species := some "Wookiee", size := .large, feats := .ofList ["dodge", "mobility"],
        proficiencies := { weapons := .ofList ["pistols"] },
        openSlots := .ofList [("General Feats", (1 : Int)), ("Force Powers", -1)] }
    condition := { penalty := -5, helpless := true }
    scores := .ofList
      [(Ability.strength, AbilityScore.ofParts 16 2 (-5)),
        (Ability.wisdom, AbilityScore.ofParts 8 0 (-5))]
    skills :=
      { entries := .ofList
          [("jump", SkillEntry.mk "Jump" .strength true false 10 "4 + 1\n+ 5")]
        trainable := 3
        allocation := .below }
    shields := { maximum := 10, current := 5, active := true }
    health := { maximum := 40, current := -3, condition := 5 }
    attacks :=
      [{ id := 0, name := "Unarmed", toHit := "1d20+5", damage := ["1d6+5"], sourceWeapon := none,
         actor := "hero", ranged := false, stun := false, autofire := false, fullRound := false },
        { id := 1, name := "Bowcaster", toHit := "1d20", damage := ["3d10+1", "3d10+1"],
          sourceWeapon := some "bow", actor := "hero", ranged := true, stun := false,
          autofire := false, fullRound := true }]
    vars := .ofList [("@charLevel", (2 : Int))]
    warnings := ["no die in \"d\\é\"", "\t\u0001"] }

/-- The block of a scout with an attack is read back from its text. -/
theorem ofJson?_toJson_scout : ofJson? scout.toJson = some scout :=
  ofJson?_toJson (by constructor <;> decide +kernel)

end Stats

end CharacterSheet
