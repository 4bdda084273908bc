import CharacterSheet.Proofs.Character.Support
import CharacterSheet.Proofs.Derivation.Inputs
import Mathlib.Logic.Function.Iterate

/-!
# Deleting the orphans of a derivation

A derivation answers the orphans that should be deleted. Deleting them once is enough exactly if no
trait that is kept has a deleted one as its supplier: otherwise that trait is an orphan in turn,
and what it contributed is lost. Deleting again and again comes to an end with the largest set of
traits that support one another.
-/

namespace CharacterSheet

/-- Where deleting the orphans makes no new ones, a derivation does not see the difference. -/
theorem Character.sameInputs_pruned {c : Character} (h : c.pruned.orphanedTraits = []) :
    c.pruned.SameInputs c where
  id := rfl
  abilities := rfl
  trainedSkills := rfl
  condition := rfl
  currentHealth := rfl
  temporaryHealth := rfl
  currentShields := rfl
  shieldsActive := rfl
  ownedTraits := by
    rw [ownedTraits, h, traits_pruned]
    exact List.filter_eq_self.mpr fun _ _ => rfl

namespace Desk

variable {φ : Type} [DecidableEq φ] (desk : Desk φ) (c : Character)

/-- The character without the traits that a derivation answers as orphans. -/
def prune (desk : Desk φ) (c : Character) : Character := c.withoutTraits (desk.derive c).1.orphans

theorem prune_eq_pruned : desk.prune c = c.pruned := rfl

theorem orphans_derive_eq_nil_iff : (desk.derive c).1.orphans = [] ↔ c.orphanedTraits = [] := by
  rw [orphans_derive, List.map_eq_nil_iff]

/-- After the orphans of a derivation are deleted, the next one has no orphans and the same stat
block exactly if no trait that is kept has one of the orphans as its supplier. -/
theorem derive_prune_iff :
    (((desk.derive c).2.derive (desk.prune c)).1.orphans = [] ∧
        ((desk.derive c).2.derive (desk.prune c)).1.stats = (desk.derive c).1.stats) ↔
      ∀ t ∈ c.ownedTraits, ∀ s, t.supplier = some s → s.id ∉ (desk.derive c).1.orphans := by
  rw [derive_fst_derive_snd, orphans_derive_eq_nil_iff, prune_eq_pruned, orphans_derive,
    ← Character.orphanedTraits_pruned_eq_nil_iff]
  refine and_iff_left_of_imp fun hnone => ?_
  exact desk.derive_stats_congr (Character.sameInputs_pruned hnone)

/-- A character with a feat that was granted by another one, whose own supplier is gone. -/
def stranded : Character where
  id := "hero"
  traits := [
    { id := "a", name := "Dodge", kind := .feat, supplier := some ⟨"b", "Training"⟩ },
    { id := "b", name := "Training", kind := .feat, supplier := some ⟨"c", "Academy"⟩ }]

/-- The feat counts until the one that granted it is deleted. -/
theorem derive_prune_stranded :
    ¬ (((exact.derive stranded).2.derive (exact.prune stranded)).1.orphans = [] ∧
      ((exact.derive stranded).2.derive (exact.prune stranded)).1.stats =
        (exact.derive stranded).1.stats) := by
  rintro ⟨hnone, -⟩
  have horphans : ((exact.derive stranded).2.derive (exact.prune stranded)).1.orphans = ["a"] := by
    decide +kernel
  rw [horphans] at hnone
  cases hnone

open Classical in
/-- Deleting the orphans again and again comes to an end after at most as many rounds as there are
traits. Left are, in their order, the traits whose ids are in the largest supported set. -/
theorem iterate_prune :
    ∃ n ≤ c.traits.length, ∃ ids, IsGreatest {ids | c.IsSupported ids} ids ∧
      desk.prune^[n] c = { c with traits := c.traits.filter fun t => t.id ∈ ids } ∧
      (desk.derive (desk.prune^[n] c)).1.orphans = [] ∧
      ∀ m < n, (desk.derive (desk.prune^[m] c)).1.orphans ≠ [] := by
  -- each round deletes at least one trait and keeps the supported sets
  induction hlength : c.traits.length using Nat.strongRecOn generalizing c with
  | ind length ih =>
  subst hlength
  by_cases horphans : c.orphanedTraits = []
  · obtain ⟨ids, hgreatest, hall⟩ := Character.exists_isGreatest_isSupported horphans
    have hkept : c.traits.filter (fun t => t.id ∈ ids) = c.traits :=
      List.filter_eq_self.mpr fun t ht => decide_eq_true (hall t ht)
    refine ⟨0, Nat.zero_le _, ids, hgreatest, ?_,
      (desk.orphans_derive_eq_nil_iff c).mpr horphans, nofun⟩
    rw [hkept]
    rfl
  · have hshorter := Character.length_traits_pruned_lt horphans
    obtain ⟨n, hn, ids, hgreatest, hleft, hnone, hsome⟩ := ih _ hshorter c.pruned rfl
    simp only [Character.isSupported_pruned_iff] at hgreatest
    refine ⟨n + 1, by omega, ids, hgreatest, ?_, hnone, ?_⟩
    · -- none of the supported traits is among those deleted in the first round
      rw [Function.iterate_succ_apply, prune_eq_pruned, hleft, Character.traits_pruned,
        hgreatest.1.filter_ownedTraits]
      rfl
    · intro m hm
      cases m with
      | zero => exact fun h => horphans ((desk.orphans_derive_eq_nil_iff c).mp h)
      | succ m => exact hsome m (by omega)

end Desk

end CharacterSheet
