import CharacterSheet.Proofs.Character.Support
import CharacterSheet.Proofs.Derivation.Composition

/-!
# Feats and talents on a block

A block lists the feats and talents of a character under their folded names. Nothing else gets onto
these lists, but for the second feat of a pair that the house rules merge.
-/

namespace CharacterSheet

namespace Profile

variable {name : String}

theorem mem_foldedNames_iff {kind : TraitKind} {traits : List Trait} :
    name ∈ foldedNames kind traits ↔ ∃ t ∈ traits, t.kind = kind ∧ Text.fold t.name = name := by
  rw [foldedNames, Std.ExtTreeSet.mem_ofList, List.contains_iff_mem, List.mem_map]
  simp only [List.mem_filter, decide_eq_true_eq, and_assoc]

/-- Whether the house rules add the second feat of the merged pair. -/
def mergesFeats (house : HouseRules) (active : List Trait) : Bool :=
  house.mergePointBlankAndPreciseShot && (foldedNames .feat active).contains "point-blank shot"

/-- The feats are the folded names of feat traits, and one more if the house rule merges it. -/
theorem mem_findFeats_iff {house : HouseRules} {active : List Trait} :
    name ∈ findFeats house active ↔
      (∃ t ∈ active, t.kind = .feat ∧ Text.fold t.name = name) ∨
        mergesFeats house active = true ∧ name = "precise shot" := by
  rw [← mem_foldedNames_iff]
  change name ∈ (if mergesFeats house active then (foldedNames .feat active).insert "precise shot"
    else foldedNames .feat active) ↔ _
  cases mergesFeats house active with
  | false => simp
  | true =>
    rw [if_pos rfl, Std.ExtTreeSet.mem_insert, Std.LawfulEqCmp.compare_eq_iff_eq, or_comm,
      @eq_comm _ name, and_iff_right rfl]

end Profile

namespace Stats.IsComposed

variable {answer : Question → Answer} {rules : Rules} {skills : List Skill} {c : Character}
  {s : Stats} (h : s.IsComposed answer rules skills c)

include h

/-- The feats on a block are those found among the active traits. -/
theorem feats_eq : s.profile.feats = Profile.findFeats rules.house c.activeTraits := by
  rw [h.profile]
  simp only [Profile.inquire, Inquiry.result_bind, Inquiry.result_pure]

/-- The talents on a block are the names of the active talents. -/
theorem talents_eq : s.profile.talents = Profile.foldedNames .talent c.activeTraits := by
  rw [h.profile]
  simp only [Profile.inquire, Inquiry.result_bind, Inquiry.result_pure]

/-- Every feat or talent that is owned is on the block, for only gear has to be equipped. -/
theorem mem_feats_or_talents {t : Trait} (ht : t ∈ c.ownedTraits)
    (hkind : t.kind = .feat ∨ t.kind = .talent) :
    Text.fold t.name ∈ s.profile.feats ∨ Text.fold t.name ∈ s.profile.talents := by
  have hactive : t ∈ c.activeTraits := by
    refine List.mem_filter.mpr ⟨ht, ?_⟩
    rcases hkind with hkind | hkind <;> rw [Trait.contributes, hkind] <;> rfl
  rw [h.feats_eq, h.talents_eq]
  rcases hkind with hkind | hkind
  · exact .inl (Profile.mem_findFeats_iff.mpr (.inl ⟨t, hactive, hkind, rfl⟩))
  · exact .inr (Profile.mem_foldedNames_iff.mpr ⟨t, hactive, hkind, rfl⟩)

end Stats.IsComposed

end CharacterSheet
