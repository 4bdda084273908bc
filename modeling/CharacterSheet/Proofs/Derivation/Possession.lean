import CharacterSheet.Proofs.Derivation.Feats
import CharacterSheet.Proofs.Derivation.Repeating
import CharacterSheet.Proofs.Text.Folding

/-!
# What a character possesses

A name is folded before it is looked for. The lists of feats and talents on the block hold folded
names, but the names of owned traits are compared with it as they are written, up to Latin case
only. So a trait whose name has other capitals is not found among the owned traits, under no
spelling; only if it is a feat or a talent, it is found on a block that is up to date.
-/

namespace CharacterSheet

open Text

theorem Trait.nameMatches_fold_iff {t : Trait} {name : String} :
    t.nameMatches (fold name) = true ↔ HasLatinCapitals t.name ∧ fold t.name = fold name := by
  rw [nameMatches, trim_fold]
  exact sameLatin_trim_fold_iff

theorem Character.possesses_iff {c : Character} {name : String} :
    c.possesses name = true ↔
      (∃ t ∈ c.ownedTraits, HasLatinCapitals t.name ∧ fold t.name = fold name) ∨
        fold name ∈ c.stats.profile.feats ∨ fold name ∈ c.stats.profile.talents := by
  rw [possesses]
  simp only [Bool.or_eq_true, List.any_eq_true, Trait.nameMatches_fold_iff,
    Std.ExtTreeSet.contains_iff_mem, or_assoc]

namespace Desk

variable {φ : Type} [DecidableEq φ]

/-- A name is possessed exactly if some owned trait with no capitals but Latin ones has it, or if it
is on the lists of feats and talents of the block, in each case up to letter case and blanks around.
After an update every feat and talent that is owned is possessed, whatever its capitals. -/
theorem possesses_iff_named_or_listed (desk : Desk φ) (c : Character) (name : String) :
    (c.possesses name = true ↔
      (∃ t ∈ c.ownedTraits, HasLatinCapitals t.name ∧ fold t.name = fold name) ∨
        fold name ∈ c.stats.profile.feats ∨ fold name ∈ c.stats.profile.talents) ∧
    ∀ t ∈ c.ownedTraits, t.kind = .feat ∨ t.kind = .talent → fold t.name = fold name →
      (desk.update c).1.possesses name = true := by
  refine ⟨Character.possesses_iff, fun t ht hkind hname => ?_⟩
  have hlisted := (desk.isComposed_derive c).mem_feats_or_talents ht hkind
  rw [hname] at hlisted
  rw [update_fst]
  exact Character.possesses_iff.mpr (.inr hlisted)

/-- A character with a sword and a feat, both named with a capital that is not Latin. -/
def fencer : Character where
  id := "hero"
  traits := [
    { id := "w", name := "Épée", kind := .weapon, equipped := true },
    { id := "f", name := "Épée Mastery", kind := .feat }]

/-- The fencer possesses the feat once the block is up to date. -/
theorem possesses_iff_named_or_listed_fencer :
    (∃ t ∈ fencer.ownedTraits, t.kind = .feat ∧ fold t.name = fold " ÉPÉE mastery") ∧
      fencer.possesses " ÉPÉE mastery" = false ∧
      (exact.update fencer).1.possesses " ÉPÉE mastery" = true := by
  have howned : ∃ t ∈ fencer.ownedTraits, t.kind = .feat ∧ fold t.name = fold " ÉPÉE mastery" := by
    decide +kernel
  obtain ⟨t, ht, hkind, hname⟩ := howned
  refine ⟨⟨t, ht, hkind, hname⟩, by decide +kernel, ?_⟩
  exact (possesses_iff_named_or_listed exact fencer _).2 t ht (.inl hkind) hname

/-- The fencer does not possess all that is owned: not the sword, on no block. -/
theorem not_possesses_fencer :
    (¬ ∀ t ∈ fencer.ownedTraits, fencer.possesses t.name = true) ∧
      ¬ ∀ t ∈ (exact.update fencer).1.ownedTraits,
        (exact.update fencer).1.possesses t.name = true := by
  decide +kernel

end Desk

end CharacterSheet
