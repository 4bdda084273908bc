import CharacterSheet.Character.Basic
import Mathlib.Data.List.Basic
import Mathlib.Order.Bounds.Defs

/-!
# Supported traits

A set of traits is supported if each of them has no supplier or one in the set. Deleting the orphans
of a character leaves the supported sets of its traits as they are, but it can make new orphans:
traits that had an orphan as supplier. Where there are no orphans, the set of all traits is the
largest supported one.
-/

namespace CharacterSheet.Character

variable {c : Character}

/-! ## Orphans -/

/-- An orphan names a supplier that the character does not have. -/
theorem isOrphan_eq_true_iff {t : Trait} :
    c.isOrphan t = true ↔
      ∃ s, t.supplier = some s ∧ ¬ ∃ other ∈ c.traits, other.id = s.id := by
  simp [isOrphan, Option.any_eq_true]

/-- The identities of the orphans. -/
theorem mem_orphanIds_iff {i : TraitId} :
    i ∈ c.orphanedTraits.map (·.id) ↔ ∃ t ∈ c.traits, c.isOrphan t = true ∧ t.id = i := by
  simp [orphanedTraits, and_assoc]

/-- A trait is owned if it shares its identity with no orphan. -/
theorem mem_ownedTraits_iff {t : Trait} :
    t ∈ c.ownedTraits ↔ t ∈ c.traits ∧ t.id ∉ c.orphanedTraits.map (·.id) := by
  simp [ownedTraits]

/-- Whoever has a supplier and is no orphan is supplied by a trait of the character. -/
theorem exists_supplier {t : Trait} (ht : t ∈ c.ownedTraits) {s : Supplier}
    (hs : t.supplier = some s) : ∃ other ∈ c.traits, other.id = s.id := by
  obtain ⟨hmem, howned⟩ := mem_ownedTraits_iff.mp ht
  by_contra hnone
  have horphan : c.isOrphan t = true :=
    isOrphan_eq_true_iff.mpr ⟨s, hs, hnone⟩
  exact howned (mem_orphanIds_iff.mpr ⟨t, hmem, horphan, rfl⟩)

/-! ## Deleting orphans -/

/-- The character without the traits that have the id of an orphan. -/
def pruned (c : Character) : Character := c.withoutTraits (c.orphanedTraits.map (·.id))

theorem traits_pruned (c : Character) : c.pruned.traits = c.ownedTraits := rfl

/-- A trait that is kept becomes an orphan exactly if its supplier is deleted. -/
theorem isOrphan_pruned_iff {t : Trait} (ht : t ∈ c.ownedTraits) :
    c.pruned.isOrphan t = true ↔
      ∃ s, t.supplier = some s ∧ s.id ∈ c.orphanedTraits.map (·.id) := by
  rw [isOrphan_eq_true_iff, traits_pruned]
  apply exists_congr
  intro s
  apply and_congr_right
  intro hs
  -- the supplier is there before pruning, and stays unless its identity is that of an orphan
  obtain ⟨other, hother, heq⟩ := exists_supplier ht hs
  constructor
  · intro hnone
    by_contra hid
    rw [← heq] at hid
    exact hnone ⟨other, mem_ownedTraits_iff.mpr ⟨hother, hid⟩, heq⟩
  · rintro hid ⟨kept, hkept, heq⟩
    rw [← heq] at hid
    exact (mem_ownedTraits_iff.mp hkept).2 hid

/-- Pruning leaves no orphan unless an owned trait hangs on one. -/
theorem orphanedTraits_pruned_eq_nil_iff (c : Character) :
    c.pruned.orphanedTraits = [] ↔
      ∀ t ∈ c.ownedTraits, ∀ s, t.supplier = some s → s.id ∉ c.orphanedTraits.map (·.id) := by
  rw [orphanedTraits, List.filter_eq_nil_iff, traits_pruned]
  apply forall₂_congr
  intro t ht
  rw [isOrphan_pruned_iff ht, not_exists]
  exact forall_congr' fun s => not_and

/-- Where there are orphans, pruning leaves fewer traits. -/
theorem length_traits_pruned_lt (h : c.orphanedTraits ≠ []) :
    c.pruned.traits.length < c.traits.length := by
  obtain ⟨t, ht⟩ := List.exists_mem_of_ne_nil _ h
  rw [traits_pruned, ownedTraits]
  refine List.length_filter_lt_length_iff_exists.mpr ⟨t, (List.mem_filter.mp ht).1, ?_⟩
  simpa using ⟨t, ht, rfl⟩

/-! ## Supported sets -/

/-- A set of ids of traits, in which each trait has no supplier or one in the set. Traits that share
an id are in the set together. -/
structure IsSupported (c : Character) (ids : Set TraitId) : Prop where
  owned : ∀ i ∈ ids, ∃ t ∈ c.traits, t.id = i
  supplied : ∀ t ∈ c.traits, t.id ∈ ids → ∀ s, t.supplier = some s → s.id ∈ ids

/-- No identity of a supported set belongs to an orphan. -/
theorem IsSupported.not_mem_orphanIds {ids : Set TraitId} (h : c.IsSupported ids) {i : TraitId}
    (hi : i ∈ ids) : i ∉ c.orphanedTraits.map (·.id) := by
  intro hmem
  obtain ⟨t, ht, horphan, rfl⟩ := mem_orphanIds_iff.mp hmem
  obtain ⟨s, hs, hnone⟩ := isOrphan_eq_true_iff.mp horphan
  exact hnone (h.owned _ (h.supplied t ht hi s hs))

/-- No trait in a supported set is deleted with the orphans. -/
theorem IsSupported.filter_ownedTraits {ids : Set TraitId} [DecidablePred (· ∈ ids)]
    (h : c.IsSupported ids) :
    c.ownedTraits.filter (fun t => t.id ∈ ids) = c.traits.filter fun t => t.id ∈ ids := by
  rw [ownedTraits, List.filter_filter]
  refine List.filter_congr fun t _ => ?_
  by_cases hid : t.id ∈ ids
  · simpa [hid] using h.not_mem_orphanIds hid
  · simp [hid]

/-- Deleting orphans leaves the supported sets as they are. -/
theorem isSupported_pruned_iff {ids : Set TraitId} :
    c.pruned.IsSupported ids ↔ c.IsSupported ids := by
  constructor
  · intro h
    constructor
    · intro i hi
      obtain ⟨t, ht, heq⟩ := h.owned i hi
      exact ⟨t, (mem_ownedTraits_iff.mp ht).1, heq⟩
    · intro t ht hi
      -- the id is that of a trait that is kept, so all traits with this id are
      obtain ⟨kept, hkept, heq⟩ := h.owned _ hi
      have hid := (mem_ownedTraits_iff.mp hkept).2
      rw [heq] at hid
      exact h.supplied t (mem_ownedTraits_iff.mpr ⟨ht, hid⟩) hi
  · intro h
    constructor
    · intro i hi
      obtain ⟨t, ht, rfl⟩ := h.owned i hi
      exact ⟨t, mem_ownedTraits_iff.mpr ⟨ht, h.not_mem_orphanIds hi⟩, rfl⟩
    · intro t ht
      exact h.supplied t (mem_ownedTraits_iff.mp ht).1

/-- Without orphans everything is supported. -/
theorem exists_isGreatest_isSupported (h : c.orphanedTraits = []) :
    ∃ ids, IsGreatest {ids | c.IsSupported ids} ids ∧ ∀ t ∈ c.traits, t.id ∈ ids := by
  refine ⟨{i | ∃ t ∈ c.traits, t.id = i}, ⟨⟨fun i hi => hi, ?_⟩, ?_⟩, fun t ht => ⟨t, ht, rfl⟩⟩
  · intro t ht _ s hs
    have howned : t ∈ c.ownedTraits := mem_ownedTraits_iff.mpr ⟨ht, by simp [h]⟩
    exact exists_supplier howned hs
  · exact fun ids hids i hi => hids.owned i hi

end CharacterSheet.Character
