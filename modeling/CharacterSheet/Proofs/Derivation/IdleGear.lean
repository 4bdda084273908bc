import CharacterSheet.Proofs.Character.NewTrait
import CharacterSheet.Proofs.Derivation.Composition
import CharacterSheet.Proofs.Derivation.Inputs
import CharacterSheet.Proofs.Derivation.Remembering

/-!
# Gear that is not equipped

Where weight is not tracked, gear that is not equipped and takes no slot is read for one thing only:
a trait that is owned and named after a size may say the size of the character, whatever it is. So
such gear leaves the stat block as it is exactly if it does not change the size.
-/

namespace CharacterSheet

/-- Gear that lies about: not equipped, granted by nobody and taken against no slot. -/
structure Trait.IsIdle (g : Trait) : Prop where
  gear : g.kind.isGear = true
  unequipped : g.equipped = false
  supplier : g.supplier = none
  slot : g.slot = none

/-! ## The size -/

/-- The size that contributions say. -/
def Character.contributedSize? (c : Character) : Option Size :=
  (((Pool.mk c.activeTraits (Variables.lookup ∅)).first? "size" .all).map Value.display).bind
    Size.parse?

/-- The size that the names of owned traits say; medium if they say none. -/
def namedSize (owned : List Trait) : Size :=
  (owned.findSome? fun t => Size.parse? t.name).getD .medium

/-- A size that is contributed and can be read comes before one that is named. -/
theorem Profile.findSize_eq (contributed : Option String) (owned : List Trait) :
    Profile.findSize contributed owned = (contributed.bind Size.parse?).getD (namedSize owned) := by
  rw [Profile.findSize]
  cases contributed.bind Size.parse? <;> rfl

theorem Standpoint.result_firstText (here : Standpoint) (traits : List Trait) (key : String)
    (filter : Filter) :
    (here.firstText key filter).result (Question.answer traits) =
      ((Pool.mk traits here.vars.lookup).first? key filter).map Value.display := by
  have hanswer : Question.answer traits (here.question .first key filter) =
      .ok (.value ((Pool.mk traits here.vars.lookup).first? key filter)) := rfl
  rw [Standpoint.firstText, Inquiry.result_bind, Standpoint.result_ask, hanswer]
  cases (Pool.mk traits here.vars.lookup).first? key filter <;> rfl

/-- A trait among others makes a difference to the size that their names say only if it is named
after another size, and no trait before it is named after a size. -/
theorem namedSize_insert_iff (before behind : List Trait) (g : Trait) :
    namedSize (before ++ g :: behind) = namedSize (before ++ behind) ↔
      ∀ size, Size.parse? g.name = some size →
        (∃ t ∈ before, (Size.parse? t.name).isSome) ∨ size = namedSize (before ++ behind) := by
  simp only [namedSize, List.findSome?_append, List.findSome?_cons]
  -- a size named in front decides, whatever stands behind it
  cases hbefore : before.findSome? fun t => Size.parse? t.name with
  | some size =>
    have hnamed := List.findSome?_isSome_iff.mp (Option.isSome_of_eq_some hbefore)
    simp [hnamed]
  | none =>
    have hnone : ¬ ∃ t ∈ before, (Size.parse? t.name).isSome := fun h => by
      rw [← List.findSome?_isSome_iff, hbefore] at h
      cases h
    cases hname : Size.parse? g.name with
    | none => simp
    | some size => simp [hnone]

namespace Profile

/-- What is asked for a profile, and what the owned traits add to the answers. -/
theorem answeredBy_inquire_congr (rules : Rules) {c c' : Character} (answer : Question → Answer)
    (hid : c.id = c'.id) (hactive : c.activeTraits = c'.activeTraits)
    (hslots : ∀ slots, takeSlots slots c.ownedTraits = takeSlots slots c'.ownedTraits)
    (hsize : findSize (((⟨c.id, .traits, ∅⟩ : Standpoint).firstText "size" .all).result answer)
        c.ownedTraits =
      findSize (((⟨c.id, .traits, ∅⟩ : Standpoint).firstText "size" .all).result answer)
        c'.ownedTraits) :
    (inquire rules c).answeredBy answer = (inquire rules c').answeredBy answer := by
  rw [Inquiry.answeredBy_eq, Inquiry.answeredBy_eq]
  simp only [inquire, Inquiry.result_bind, Inquiry.warnings_bind, Inquiry.result_pure,
    Inquiry.warnings_pure, ← hid, ← hactive, ← hslots, ← hsize]

end Profile

namespace Character

variable {c : Character} {g : Trait} {n : Nat}

/-- The size on the block, as the traits give it. -/
theorem size_derive (rules : Rules) (skills : List Skill) (c : Character) :
    (c.derive rules skills).stats.profile.size =
      c.contributedSize?.getD (namedSize c.ownedTraits) := by
  rw [(c.isComposed_derive rules skills).profile]
  simp only [Profile.inquire, Inquiry.result_bind, Inquiry.result_pure, Profile.findSize_eq,
    Standpoint.result_firstText]
  rw [contributedSize?]

/-! ## Idle gear -/

/-- Gear that is not worn is not active, and activates nothing. -/
theorem activeTraits_insertTrait (hidle : g.IsIdle) (hnew : c.IsNew g) :
    (c.insertTrait n g).activeTraits = c.activeTraits := by
  have hrests : g.contributes = false := by
    rw [Trait.contributes, hidle.gear, hidle.unequipped]
    rfl
  rw [activeTraits, activeTraits, ownedTraits_insertTrait_of_supplier_eq_none hnew hidle.supplier,
    ownedTraits_eq_ownedAmong n, List.filter_append, List.filter_append,
    List.filter_cons_of_neg (by simp [hrests])]

/-- Idle gear takes no slot. -/
theorem takeSlots_insertTrait (hidle : g.IsIdle) (hnew : c.IsNew g)
    (slots : Std.ExtTreeMap String Int) :
    Profile.takeSlots slots (c.insertTrait n g).ownedTraits =
      Profile.takeSlots slots c.ownedTraits := by
  rw [Profile.takeSlots, Profile.takeSlots,
    ownedTraits_insertTrait_of_supplier_eq_none hnew hidle.supplier,
    ownedTraits_eq_ownedAmong n, List.filterMap_append, List.filterMap_append, List.filterMap_cons,
    hidle.slot, ite_self]

/-- So the stages find the same traits with idle gear and without it. -/
theorem sameActive_insertTrait (hidle : g.IsIdle) (hnew : c.IsNew g) :
    (c.insertTrait n g).SameActive c :=
  ⟨rfl, rfl, rfl, rfl, rfl, rfl, rfl, rfl, activeTraits_insertTrait hidle hnew⟩

/-- Idle gear contributes no size; it can only name one. -/
theorem contributedSize?_insertTrait (hidle : g.IsIdle) (hnew : c.IsNew g) :
    (c.insertTrait n g).contributedSize? = c.contributedSize? := by
  rw [contributedSize?, contributedSize?, activeTraits_insertTrait hidle hnew]

/-- Idle gear can be seen in the stat block through the size alone. -/
theorem derive_stats_insertTrait_iff_size {rules : Rules}
    (hweight : rules.house.encumbranceByWeight = false) (skills : List Skill) (hidle : g.IsIdle)
    (hnew : c.IsNew g) :
    ((c.insertTrait n g).derive rules skills).stats = (c.derive rules skills).stats ↔
      c.contributedSize?.getD (namedSize (c.insertTrait n g).ownedTraits) =
        c.contributedSize?.getD (namedSize c.ownedTraits) := by
  constructor
  · intro h
    rw [← size_derive rules skills c, ← h, size_derive, contributedSize?_insertTrait hidle hnew]
  · intro hsize
    have hsame := sameActive_insertTrait (n := n) hidle hnew
    have hprofile : (Profile.inquire rules (c.insertTrait n g)).answeredBy
          (Question.answer c.activeTraits) =
        (Profile.inquire rules c).answeredBy (Question.answer c.activeTraits) := by
      -- nothing but the size can differ, and the size is the same by assumption
      refine Profile.answeredBy_inquire_congr rules _ rfl hsame.activeTraits
        (takeSlots_insertTrait hidle hnew) ?_
      rw [Profile.findSize_eq, Profile.findSize_eq, Standpoint.result_firstText]
      exact hsize
    have hload : rules.house.encumbranceByWeight = true →
        SkillSheet.carriedWeight (c.insertTrait n g) = SkillSheet.carriedWeight c :=
      fun htracked => by rw [hweight] at htracked; cases htracked
    have hrun := hsame.answeredBy_inquire hload hprofile skills
    rw [derive, derive, hsame.activeTraits, hrun]
    rfl

end Character

namespace Desk

variable {φ : Type} [DecidableEq φ]

/-- Where weight is not tracked, idle gear leaves the stat block as it is, wherever it stands among
the traits, exactly if it is not named after a size, or contributions say the size, or an owned
trait before it is named after a size, or it is named after the size that is found without it. -/
theorem derive_insertTrait_iff (desk : Desk φ)
    (hweight : desk.rules.house.encumbranceByWeight = false) (c : Character) (n : Nat) {g : Trait}
    (hidle : g.IsIdle) (hnew : c.IsNew g) :
    (desk.derive (c.insertTrait n g)).1.stats = (desk.derive c).1.stats ↔
      ∀ size, Size.parse? g.name = some size →
        c.contributedSize?.isSome ∨
          (∃ t ∈ c.traits.take n, t ∈ c.ownedTraits ∧ (Size.parse? t.name).isSome) ∨
          size = namedSize c.ownedTraits := by
  rw [derive_fst_eq_derive, derive_fst_eq_derive,
    Character.derive_stats_insertTrait_iff_size hweight _ hidle hnew]
  cases hcontributed : c.contributedSize? with
  | some size => simp
  | none =>
    have howned : ∀ t, t ∈ c.ownedAmong (c.traits.take n) ↔
        t ∈ c.traits.take n ∧ t ∈ c.ownedTraits := fun t => by
      rw [Character.ownedAmong, Character.ownedTraits, List.mem_filter, List.mem_filter]
      exact ⟨fun h => ⟨h.1, List.mem_of_mem_take h.1, h.2⟩, fun h => ⟨h.1, h.2.2⟩⟩
    rw [Option.getD_none, Option.getD_none,
      Character.ownedTraits_insertTrait_of_supplier_eq_none hnew hidle.supplier,
      Character.ownedTraits_eq_ownedAmong n, namedSize_insert_iff]
    simp only [howned, and_assoc, ← Character.ownedTraits_eq_ownedAmong n]
    simp

/-- A character with a trait that is named after a size. -/
def shrunk : Character where
  id := "hero"
  traits := [
    { id := "a", name := "Small", kind := .trait },
    { id := "b", name := "Scout", kind := .classLevel }]

/-- A suit of armor that lies about. -/
def largeArmor : Trait :=
  { id := "g", name := "Large", kind := .armor, weight := .ofInt 40
    armor := some ⟨.heavy, 6, 2, none⟩
    contributions := [⟨"size", .text "huge", none, false⟩] }

theorem isIdle_largeArmor : largeArmor.IsIdle := ⟨rfl, rfl, rfl, rfl⟩

/-- With a size found before it the armor leaves the stat block as it is. -/
theorem derive_insertTrait_iff_shrunk :
    exact.rules.house.encumbranceByWeight = false ∧ largeArmor.IsIdle ∧
      shrunk.IsNew largeArmor ∧
      ((exact.derive (shrunk.insertTrait 1 largeArmor)).1.stats = (exact.derive shrunk).1.stats ↔
        ∀ size, Size.parse? largeArmor.name = some size →
          shrunk.contributedSize?.isSome ∨
            (∃ t ∈ shrunk.traits.take 1, t ∈ shrunk.ownedTraits ∧
              (Size.parse? t.name).isSome) ∨
            size = namedSize shrunk.ownedTraits) ∧
      (exact.derive (shrunk.insertTrait 1 largeArmor)).1.stats = (exact.derive shrunk).1.stats := by
  have hnew : shrunk.IsNew largeArmor := ⟨by decide +kernel, by simp [shrunk]⟩
  have hiff := derive_insertTrait_iff exact rfl shrunk 1 isIdle_largeArmor hnew
  have hbefore : ∃ t ∈ shrunk.traits.take 1, t ∈ shrunk.ownedTraits ∧
      (Size.parse? t.name).isSome := by decide +kernel
  exact ⟨rfl, isIdle_largeArmor, hnew, hiff, hiff.mpr fun _ _ => .inr (.inl hbefore)⟩

/-- A character without any traits. -/
def traitless : Character where
  id := "hero"

/-- Where nothing else says the size, the armor does without being worn. -/
theorem derive_withTrait_largeArmor :
    exact.rules.house.encumbranceByWeight = false ∧ largeArmor.IsIdle ∧
      traitless.IsNew largeArmor ∧
      (exact.derive (traitless.withTrait largeArmor)).1.stats ≠
        (exact.derive traitless).1.stats := by
  have hnew : traitless.IsNew largeArmor := ⟨by decide +kernel, by simp [traitless]⟩
  have hlarge : (exact.derive (traitless.withTrait largeArmor)).1.stats.profile.size = .large := by
    decide +kernel
  have hmedium : (exact.derive traitless).1.stats.profile.size = .medium := by decide +kernel
  refine ⟨rfl, isIdle_largeArmor, hnew, fun h => ?_⟩
  rw [h, hmedium] at hlarge
  cases hlarge

end Desk

end CharacterSheet
