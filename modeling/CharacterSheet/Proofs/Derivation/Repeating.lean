import CharacterSheet.Proofs.Derivation.Inputs
import CharacterSheet.Proofs.Inquiry.Run

/-!
# Deriving again

A derivation does not look at the stat block that the character has, so deriving again and again
gives the block of the first time. The attacks on a block are those that the finished block gives:
they were made from the block before it had any attacks and warnings, which no attack depends on.
-/

namespace CharacterSheet

/-- Another stat block does not change what is derived. -/
theorem Character.sameInputs_withStats (c : Character) (stats : Stats) :
    { c with stats }.SameInputs c :=
  ⟨rfl, rfl, rfl, rfl, rfl, rfl, rfl, rfl, rfl⟩

/-- Whatever the answers, the attacks on the block are those of a character that has this block. -/
theorem Stats.yields_attacks (rules : Rules) (skills : List Skill) (c : Character) :
    (Stats.inquire rules skills c).Yields fun stats =>
      stats.attacks = c.attacksWith stats rules := by
  unfold Stats.inquire
  refine Inquiry.yields_bind _ fun profile => ?_
  refine Inquiry.yields_bind _ fun scored => ?_
  refine Inquiry.yields_bind _ fun skillSheet => ?_
  refine Inquiry.yields_bind _ fun shields => ?_
  refine Inquiry.yields_bind _ fun defenses => ?_
  refine Inquiry.yields_bind _ fun health => ?_
  refine Inquiry.yields_bind _ fun offense => ?_
  exact Inquiry.yields_pure rfl

/-- The attacks on a block do not depend on the warnings that are put into it. -/
theorem Derivation.attacks_of {c : Character} {rules : Rules} {result : Stats × List String}
    (h : result.1.attacks = c.attacksWith result.1 rules) :
    (Derivation.of c result).stats.attacks = c.attacksWith (Derivation.of c result).stats rules :=
  h

namespace Desk

variable {φ : Type} [DecidableEq φ] (desk : Desk φ) (c : Character)

/-- The block that was stored before does not enter a derivation. -/
theorem derive_withStats (stats : Stats) :
    (desk.derive { c with stats }).1 = (desk.derive c).1 := by
  have hsame := c.sameInputs_withStats stats
  rw [derive_fst, derive_fst, hsame.inquire, hsame.activeTraits]
  rfl

/-- The attacks on a block are those that follow from the rest of it. -/
theorem attacks_derive :
    (desk.derive c).1.stats.attacks = c.attacksWith (desk.derive c).1.stats desk.rules := by
  rw [derive_fst]
  apply Derivation.attacks_of
  exact (Stats.yields_attacks desk.rules desk.skills c).remembering _ _ _

/-- Updates a character several times in a row. -/
def updateTimes (desk : Desk φ) : Nat → Character → Character × Desk φ
  | 0, c => (c, desk)
  | n + 1, c => (desk.update c).2.2.updateTimes n (desk.update c).1

theorem update_fst : (desk.update c).1 = { c with stats := (desk.derive c).1.stats } := rfl

/-- A second update changes nothing. -/
theorem update_update :
    ((desk.update c).2.2.update (desk.update c).1).1 = (desk.update c).1 := by
  have hderive : ((desk.update c).2.2.derive (desk.update c).1).1 = (desk.derive c).1 := by
    rw [update_fst]
    exact (desk.derive_fst_derive_snd c _).trans (desk.derive_withStats c _)
  rw [update_fst, hderive]
  rfl

theorem updateTimes_succ (n : Nat) : (desk.updateTimes (n + 1) c).1 = (desk.update c).1 := by
  induction n generalizing desk c with
  | zero => rfl
  | succ n ih =>
    rw [updateTimes, ih]
    exact desk.update_update c

/-- What is derived does not depend on the stat block that the character has. So a character that
was updated any number of times has the block of its first update, and attacks made from its block
are the ones that stand on it. -/
theorem updateTimes_eq_update :
    (∀ stats, (desk.derive { c with stats }).1 = (desk.derive c).1) ∧
      ∀ n, (desk.updateTimes (n + 1) c).1 = { c with stats := (desk.derive c).1.stats } ∧
        (desk.updateTimes (n + 1) c).1.attacks desk.rules =
          (desk.updateTimes (n + 1) c).1.stats.attacks := by
  refine ⟨desk.derive_withStats c, fun n => ?_⟩
  rw [updateTimes_succ, update_fst]
  exact ⟨rfl, (desk.attacks_derive c).symm⟩

end Desk

end CharacterSheet
