import CharacterSheet.Proofs.Derivation.Feats
import CharacterSheet.Proofs.Derivation.Inputs
import CharacterSheet.Proofs.Text.Folding
import CharacterSheet.Proofs.Text.Search

/-!
# Proficiencies

A proficiency is granted by a contribution or by the name of a feat. What a contribution grants is
kept in lower case, and what a feat grants is also trimmed. The category that is asked for is
lower-cased and trimmed, so a feat is recognised however its name is spelled, and a contribution if
it has no blanks at its ends. A contribution that has some covers nothing.
-/

namespace CharacterSheet

namespace Proficiencies

/-- What a proficiency is for. -/
inductive Area where
  | weapons
  | armor
deriving DecidableEq, Repr

namespace Area

/-- The key of the contributions that grant proficiencies. -/
def key : Area → String
  | weapons => "weaponProficiency"
  | armor => "armorProficiency"

/-- How the feats that grant proficiencies are called. -/
def title : Area → String
  | weapons => "Weapon Proficiency"
  | armor => "Armor Proficiency"

/-- How the folded names of these feats begin. -/
def foldedTitle : Area → String
  | weapons => "weapon proficiency"
  | armor => "armor proficiency"

/-- The name of the feat that grants proficiency with a category. -/
def feat (area : Area) (category : String) : String := area.title ++ (" (" ++ category ++ ")")

/-- Whether a granted category covers another one. -/
def Reaches (area : Area) (granted category : String) : Prop :=
  match area with
  | weapons => granted = category ∨ granted = "simple weapons" ∧
      (category = "simple melee weapons" ∨ category = "simple ranged weapons")
  | armor => granted = category ∨ granted = category ++ " armor"

/-- Each category is reached by itself. -/
theorem reaches_self (area : Area) (category : String) : area.Reaches category category := by
  cases area <;> exact .inl rfl

/-- The folded title of an area is its title in small letters. -/
theorem lower_title (area : Area) : Text.lower area.title = area.foldedTitle := by
  cases area <;> decide +kernel

/-- The folded name of a feat for a category. -/
theorem fold_feat (area : Area) (category : String) :
    Text.fold (area.feat category) = area.foldedTitle ++ (" (" ++ Text.lower category ++ ")") := by
  have hne : area.title.toList ≠ [] := by cases area <;> decide
  have htrimmed : Text.trimStartChars area.title.toList = area.title.toList := by
    cases area <;> decide
  rw [feat, Text.fold_parenthesized hne htrimmed, lower_title]

end Area

/-- The categories that are granted in an area. -/
def granted (p : Proficiencies) : Area → Std.ExtTreeSet String
  | .weapons => p.weapons
  | .armor => p.armor

/-- Whether a category is covered in an area. -/
def covers (p : Proficiencies) : Area → String → Bool
  | .weapons => p.coversWeapon
  | .armor => p.coversArmor

/-- A category is covered if something that is granted reaches it. -/
theorem covers_iff {p : Proficiencies} {area : Area} {category : String} :
    p.covers area category = true ↔
      ∃ text ∈ p.granted area, area.Reaches text (Text.fold category) := by
  cases area with
  | weapons =>
    simp only [covers, coversWeapon, granted, Area.Reaches, Bool.or_eq_true, Bool.and_eq_true,
      beq_iff_eq, Std.ExtTreeSet.contains_iff_mem]
    constructor
    · rintro (h | ⟨h, hcategory⟩)
      · exact ⟨_, h, .inl rfl⟩
      · exact ⟨_, h, .inr ⟨rfl, hcategory⟩⟩
    · rintro ⟨text, h, rfl | ⟨rfl, hcategory⟩⟩
      · exact .inl h
      · exact .inr ⟨h, hcategory⟩
  | armor =>
    simp only [covers, coversArmor, granted, Area.Reaches, Bool.or_eq_true,
      Std.ExtTreeSet.contains_iff_mem]
    constructor
    · rintro (h | h)
      · exact ⟨_, h, .inl rfl⟩
      · exact ⟨_, h, .inr rfl⟩
    · rintro ⟨text, h, rfl | rfl⟩
      · exact .inl h
      · exact .inr h

end Proficiencies

open Proficiencies

/-! ## The names of feats -/

namespace Profile

/-- What has something in parentheses begins with the title. -/
theorem isPrefix_of_parenthesized? {beginning name category : String}
    (h : parenthesized? beginning name = some category) : beginning.toList <+: name.toList := by
  cases hrest : Text.after? beginning name with
  | none =>
    rw [parenthesized?, hrest] at h
    cases h
  | some rest => exact ⟨rest.toList, (Text.toList_of_after? hrest).symm⟩

/-- What stands in parentheses behind a title is found, trimmed. -/
theorem parenthesized?_append (beginning inner : String) :
    parenthesized? beginning (beginning ++ (" (" ++ inner ++ ")")) = some (Text.trim inner) := by
  have htrim : Text.trim (" (" ++ inner ++ ")") = "(" ++ (inner ++ ")") := by
    have hlist : (" (" ++ inner ++ ")").toList = [' '] ++ (['('] ++ (inner.toList ++ [')'])) := by
      simp
    have hblank : ∀ c ∈ [' '], Text.isBlank c = true := by decide
    rw [Text.trim, Text.trimChars, hlist, Text.trimStartChars_append_of_blanks hblank,
      ← Text.trimChars, Text.trimChars_append_concat (List.cons_ne_nil _ _) rfl
        (by decide : Text.isBlank ')' = false)]
    simp
  simp only [parenthesized?, Option.bind_eq_bind, Text.after?_append, Text.before?_append,
    Option.bind_some, htrim]
  rfl

/-- The feat that grants a category is read back as this category, in folded form. -/
theorem parenthesized?_feat (area : Area) (category : String) :
    parenthesized? area.foldedTitle (Text.fold (area.feat category)) =
      some (Text.fold category) := by
  rw [area.fold_feat, parenthesized?_append, Text.trim_lower_eq_fold]

/-- A feat for armor is none for weapons. -/
theorem parenthesized?_weapons_of_armor {feat category : String}
    (h : parenthesized? Area.armor.foldedTitle feat = some category) :
    parenthesized? Area.weapons.foldedTitle feat = none := by
  cases hweapons : parenthesized? Area.weapons.foldedTitle feat with
  | none => rfl
  | some other =>
    -- the two names begin with different letters
    obtain ⟨rest, hrest⟩ := isPrefix_of_parenthesized? h
    obtain ⟨rest', hrest'⟩ := isPrefix_of_parenthesized? hweapons
    have hhead := congrArg List.head? (hrest.trans hrest'.symm)
    simp [Area.foldedTitle] at hhead

/-! ## What is granted -/

variable {area : Area} {text : String}

/-- A feat grants the category that its name gives, and takes none away. -/
theorem mem_granted_grant_iff {p : Proficiencies} {feat : String} :
    text ∈ (grant p feat).granted area ↔
      text ∈ p.granted area ∨ parenthesized? area.foldedTitle feat = some text := by
  have hweapons : parenthesized? "weapon proficiency" feat =
      parenthesized? Area.weapons.foldedTitle feat := rfl
  have harmor : parenthesized? "armor proficiency" feat =
      parenthesized? Area.armor.foldedTitle feat := rfl
  rw [grant, hweapons, harmor]
  cases area with
  | weapons =>
    cases hfeat : parenthesized? Area.weapons.foldedTitle feat with
    | some category =>
      rw [Proficiencies.granted, Std.ExtTreeSet.mem_insert, Std.LawfulEqCmp.compare_eq_iff_eq,
        Option.some_inj, or_comm]
      rfl
    | none =>
      rw [or_iff_left (by simp)]
      dsimp only
      split
      · exact Iff.rfl
      · split <;> exact Iff.rfl
  | armor =>
    cases hfeat : parenthesized? Area.armor.foldedTitle feat with
    | some category =>
      -- the name is tried as that of a feat for weapons first
      rw [parenthesized?_weapons_of_armor hfeat, Proficiencies.granted, Std.ExtTreeSet.mem_insert,
        Std.LawfulEqCmp.compare_eq_iff_eq, Option.some_inj, or_comm]
      rfl
    | none =>
      rw [or_iff_left (by simp)]
      dsimp only
      split
      · exact Iff.rfl
      · split <;> exact Iff.rfl

/-- What is granted was granted before or is granted by a feat. -/
theorem mem_granted_foldl_iff {feats : List String} {p : Proficiencies} :
    text ∈ (feats.foldl grant p).granted area ↔
      text ∈ p.granted area ∨ ∃ feat ∈ feats, parenthesized? area.foldedTitle feat = some text := by
  induction feats generalizing p with
  | nil => simp
  | cons feat rest ih =>
    rw [List.foldl_cons, ih, mem_granted_grant_iff, or_assoc]
    simp

/-- The feat that the house rules add grants nothing, so the active feats do it all. -/
theorem mem_granted_findFeats_iff {house : HouseRules} {active : List Trait} {p : Proficiencies} :
    text ∈ ((findFeats house active).toList.foldl grant p).granted area ↔
      text ∈ p.granted area ∨ ∃ t ∈ active, t.kind = .feat ∧
        parenthesized? area.foldedTitle (Text.fold t.name) = some text := by
  -- a feat that the house rule adds grants nothing
  have hadded : parenthesized? area.foldedTitle "precise shot" = none := by
    cases area <;> decide +kernel
  rw [mem_granted_foldl_iff]
  refine or_congr Iff.rfl ?_
  simp only [Std.ExtTreeSet.mem_toList, mem_findFeats_iff]
  constructor
  · rintro ⟨feat, ⟨t, ht, hkind, rfl⟩ | ⟨-, rfl⟩, htext⟩
    · exact ⟨t, ht, hkind, htext⟩
    · rw [hadded] at htext
      cases htext
  · rintro ⟨t, ht, hkind, htext⟩
    exact ⟨_, .inl ⟨t, ht, hkind, rfl⟩, htext⟩

end Profile

/-- The texts that a question for texts is answered with are those of the contributions under its
key, in lower case. -/
theorem Standpoint.mem_result_texts_iff (here : Standpoint) {traits : List Trait}
    {key text : String} :
    text ∈ (here.texts key .all).result (Question.answer traits) ↔
      ∃ t ∈ traits, ∃ k ∈ t.contributions,
        k.key = key ∧ k.value.isNull = false ∧ Text.lower k.value.display = text := by
  change text ∈ Sourced.lowerCaseValues ((Pool.mk traits here.vars.lookup).matching key .all) ↔ _
  have htrait : ∀ t, Filter.all.acceptsTrait t = true := fun _ => rfl
  have hcontribution : ∀ k, Filter.all.acceptsContribution k = true := fun _ => rfl
  simp only [Sourced.lowerCaseValues, Pool.matching, htrait, hcontribution, Bool.and_true,
    List.mem_map, List.mem_filter, List.mem_flatMap, and_true, decide_eq_true_eq,
    Bool.not_eq_true']
  constructor
  · rintro ⟨_, ⟨⟨t, ht, k, ⟨hk, hkey⟩, rfl⟩, hvalue⟩, htext⟩
    exact ⟨t, ht, k, hk, hkey, hvalue, htext⟩
  · rintro ⟨t, ht, k, hk, hkey, hvalue, htext⟩
    exact ⟨_, ⟨⟨t, ht, k, ⟨hk, hkey⟩, rfl⟩, hvalue⟩, htext⟩

/-- An active trait of the character grants a category, in lower case: by a contribution as it is
written, or as a feat by its name. -/
def Character.Grants (c : Character) (area : Area) (text : String) : Prop :=
  (∃ t ∈ c.activeTraits, ∃ k ∈ t.contributions,
    k.key = area.key ∧ k.value.isNull = false ∧ Text.lower k.value.display = text) ∨
  ∃ t ∈ c.activeTraits, t.kind = .feat ∧
    Profile.parenthesized? area.foldedTitle (Text.fold t.name) = some text

/-- The proficiencies of a block are what the character is granted. -/
theorem Stats.IsComposed.mem_granted_iff {rules : Rules} {skills : List Skill} {c : Character}
    {s : Stats} (h : s.IsComposed (Question.answer c.activeTraits) rules skills c) {area : Area}
    {text : String} : text ∈ s.profile.proficiencies.granted area ↔ c.Grants area text := by
  let here : Standpoint := ⟨c.id, .traits, ∅⟩
  rw [h.profile]
  simp only [Profile.inquire, Inquiry.result_bind, Inquiry.result_pure]
  rw [Profile.mem_granted_findFeats_iff, Character.Grants, ← here.mem_result_texts_iff]
  refine or_congr ?_ Iff.rfl
  cases area with
  | weapons =>
    rw [Proficiencies.granted, Std.ExtTreeSet.mem_ofList, List.contains_iff_mem]
    rfl
  | armor =>
    rw [Proficiencies.granted, Std.ExtTreeSet.mem_ofList, List.contains_iff_mem]
    rfl

namespace Desk

variable {φ : Type} [DecidableEq φ]

/-- A category is covered exactly if a granted one reaches it. So what a contribution grants is
covered if it has no blanks at its ends, and what a feat grants is covered in any case. -/
theorem covers_derive_iff (desk : Desk φ) (c : Character) (area : Area) :
    (∀ category, (desk.derive c).1.stats.profile.proficiencies.covers area category = true ↔
      ∃ text, c.Grants area text ∧ area.Reaches text (Text.fold category)) ∧
    (∀ t ∈ c.activeTraits, ∀ k ∈ t.contributions, k.key = area.key → k.value.isNull = false →
      Text.trim k.value.display = k.value.display →
      (desk.derive c).1.stats.profile.proficiencies.covers area k.value.display = true) ∧
    ∀ t ∈ c.activeTraits, t.kind = .feat → ∀ category,
      Text.fold t.name = Text.fold (area.feat category) →
      (desk.derive c).1.stats.profile.proficiencies.covers area category = true := by
  have hiff : ∀ category,
      (desk.derive c).1.stats.profile.proficiencies.covers area category = true ↔
        ∃ text, c.Grants area text ∧ area.Reaches text (Text.fold category) := fun category => by
    simp only [covers_iff, (desk.isComposed_derive c).mem_granted_iff]
  refine ⟨hiff, fun t ht k hk hkey hvalue htrim => ?_, fun t ht hkind category hname => ?_⟩
  · refine (hiff _).mpr ⟨_, .inl ⟨t, ht, k, hk, hkey, hvalue, rfl⟩, ?_⟩
    rw [Text.fold_of_trim htrim]
    exact area.reaches_self _
  · refine (hiff _).mpr ⟨Text.fold category, .inr ⟨t, ht, hkind, ?_⟩, area.reaches_self _⟩
    rw [hname]
    exact Profile.parenthesized?_feat area category

/-- A character whose class grants rifles, and pistols with blanks around, and who has a feat for
heavy weapons. -/
def marksman : Character where
  id := "hero"
  traits := [
    { id := "a", name := "Soldier", kind := .classLevel, contributions := [
      ⟨"weaponProficiency", .text "RIFLES", none, false⟩,
      ⟨"weaponProficiency", .text " Pistols ", none, false⟩] },
    { id := "f", name := " weapon PROFICIENCY (Heavy Weapons)", kind := .feat }]

/-- Rifles and heavy weapons are covered. -/
theorem covers_derive_iff_marksman :
    (exact.derive marksman).1.stats.profile.proficiencies.covers .weapons "RIFLES" = true ∧
      (exact.derive marksman).1.stats.profile.proficiencies.covers .weapons "Heavy Weapons" =
        true := by
  have hclass : ∃ t ∈ marksman.activeTraits, ∃ k ∈ t.contributions, k.key = Area.weapons.key ∧
      k.value.isNull = false ∧ Text.trim k.value.display = k.value.display ∧
      k.value.display = "RIFLES" := by decide +kernel
  have hfeat : ∃ t ∈ marksman.activeTraits, t.kind = .feat ∧
      Text.fold t.name = Text.fold (Area.weapons.feat "Heavy Weapons") := by decide +kernel
  obtain ⟨t, ht, k, hk, hkey, hvalue, htrim, hrifles⟩ := hclass
  obtain ⟨t', ht', hkind, hname⟩ := hfeat
  obtain ⟨-, hcontributed, hnamed⟩ := covers_derive_iff exact marksman .weapons
  refine ⟨?_, hnamed t' ht' hkind _ hname⟩
  rw [← hrifles]
  exact hcontributed t ht k hk hkey hvalue htrim

/-- Pistols are not covered under the text that grants them. -/
theorem not_covers_derive_marksman :
    ¬ ∀ t ∈ marksman.activeTraits, ∀ k ∈ t.contributions, k.key = Area.weapons.key →
      k.value.isNull = false →
      (exact.derive marksman).1.stats.profile.proficiencies.covers .weapons k.value.display =
        true := by
  decide +kernel

end Desk

end CharacterSheet
