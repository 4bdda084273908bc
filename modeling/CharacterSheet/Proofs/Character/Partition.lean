import CharacterSheet.Proofs.Character.Support

/-!
# Orphans and owned traits

Whether a trait is an orphan is decided for each trait, but what is owned is decided by id: a trait
that shares its id with an orphan is not owned, although it may be no orphan itself. Such a trait is
stray. Orphans, owned traits and stray ones make up all the traits, so the first two divide the
traits between them exactly if there is no stray one.
-/

namespace CharacterSheet.Character

variable {c : Character} {t : Trait}

/-- The traits that are no orphans but have the id of one. -/
def strayTraits (c : Character) : List Trait :=
  c.traits.filter fun t => !c.isOrphan t && (c.orphanedTraits.map (·.id)).contains t.id

/-- Each trait is either an orphan or owned, and none gets lost. -/
structure SplitsTraits (c : Character) : Prop where
  exactlyOne : ∀ t ∈ c.traits, Xor (t ∈ c.orphanedTraits) (t ∈ c.ownedTraits)
  lengths : c.orphanedTraits.length + c.ownedTraits.length = c.traits.length

theorem mem_orphanedTraits_iff :
    t ∈ c.orphanedTraits ↔ t ∈ c.traits ∧ c.isOrphan t = true := by
  simp [orphanedTraits]

/-- A stray is no orphan, but shares its identity with one. -/
theorem mem_strayTraits_iff :
    t ∈ c.strayTraits ↔
      t ∈ c.traits ∧ t ∉ c.orphanedTraits ∧ t.id ∈ c.orphanedTraits.map (·.id) := by
  rw [strayTraits, List.mem_filter, mem_orphanedTraits_iff, Bool.and_eq_true, Bool.not_eq_true',
    List.contains_iff_mem]
  apply and_congr_right
  intro ht
  simp [ht]

/-- No orphan is owned. -/
theorem disjoint_orphanedTraits_ownedTraits : c.orphanedTraits.Disjoint c.ownedTraits :=
  fun _ horphan howned => (mem_ownedTraits_iff.mp howned).2 (List.mem_map_of_mem horphan)

/-- Apart from the order, the traits are the orphans, the owned traits and the stray ones. -/
theorem perm_traits (c : Character) :
    (c.orphanedTraits ++ (c.ownedTraits ++ c.strayTraits)).Perm c.traits := by
  -- all that are no orphans, divided by whether their id is that of one
  have hrest : (c.ownedTraits ++ c.strayTraits).Perm (c.traits.filter fun t => !c.isOrphan t) := by
    have hsplit := List.filter_append_perm
      (fun t => !(c.orphanedTraits.map (·.id)).contains t.id)
      (c.traits.filter fun t => !c.isOrphan t)
    rw [List.filter_filter, List.filter_filter] at hsplit
    have howned : c.ownedTraits = c.traits.filter fun t =>
        !(c.orphanedTraits.map (·.id)).contains t.id && !c.isOrphan t := by
      refine List.filter_congr fun t ht => ?_
      cases horphan : c.isOrphan t with
      | false => simp
      | true => simpa using ⟨t, mem_orphanedTraits_iff.mpr ⟨ht, horphan⟩, rfl⟩
    have hstray : c.strayTraits = c.traits.filter fun t =>
        !!(c.orphanedTraits.map (·.id)).contains t.id && !c.isOrphan t :=
      List.filter_congr fun t _ => by rw [Bool.not_not, Bool.and_comm]
    rw [howned, hstray]
    exact hsplit
  exact (hrest.append_left _).trans (List.filter_append_perm _ _)

/-- Orphans and owned traits are all traits if there is no stray. -/
theorem splitsTraits_iff_strayTraits_eq_nil : c.SplitsTraits ↔ c.strayTraits = [] := by
  have hlength := c.perm_traits.length_eq
  rw [List.length_append, List.length_append] at hlength
  constructor
  · intro h
    -- both parts together with the strays are as many as the traits, so none is left for the strays
    have := h.lengths
    rw [← List.length_eq_zero_iff]
    omega
  · intro h
    constructor
    · intro t ht
      by_cases horphan : t ∈ c.orphanedTraits
      · exact .inl ⟨horphan, disjoint_orphanedTraits_ownedTraits horphan⟩
      · refine .inr ⟨mem_ownedTraits_iff.mpr ⟨ht, fun hid => ?_⟩, horphan⟩
        exact List.ne_nil_of_mem (mem_strayTraits_iff.mpr ⟨ht, horphan, hid⟩) h
    · rw [h, List.length_nil] at hlength
      omega

/-- Orphans and owned traits are in the order of the traits; an orphan is a trait whose supplier is
not among the traits; no trait is both an orphan and owned. Each trait is one of the two, and their
numbers add up, exactly if only orphans have the id of an orphan. -/
theorem orphanedTraits_ownedTraits_partition (c : Character) :
    c.orphanedTraits.Sublist c.traits ∧ c.ownedTraits.Sublist c.traits ∧
      (∀ t ∈ c.traits, t ∈ c.orphanedTraits ↔
        ∃ s, t.supplier = some s ∧ ∀ other ∈ c.traits, other.id ≠ s.id) ∧
      c.orphanedTraits.Disjoint c.ownedTraits ∧
      (c.SplitsTraits ↔ ∀ t ∈ c.traits, ∀ orphan ∈ c.orphanedTraits,
        t.id = orphan.id → t ∈ c.orphanedTraits) := by
  refine ⟨List.filter_sublist, List.filter_sublist, fun t ht => ?_,
    disjoint_orphanedTraits_ownedTraits, ?_⟩
  · rw [mem_orphanedTraits_iff, isOrphan_eq_true_iff]
    simp [ht]
  · rw [splitsTraits_iff_strayTraits_eq_nil, List.eq_nil_iff_forall_not_mem]
    constructor
    · intro hnone t ht orphan horphan hid
      by_contra hnot
      exact hnone t (mem_strayTraits_iff.mpr ⟨ht, hnot, hid ▸ List.mem_map_of_mem horphan⟩)
    · intro hall t hstray
      obtain ⟨ht, hnot, hid⟩ := mem_strayTraits_iff.mp hstray
      obtain ⟨orphan, horphan, heq⟩ := List.mem_map.mp hid
      exact hnot (hall t ht orphan horphan heq.symm)

/-- A character with two traits of one id, of which only the first one is an orphan. -/
def twins : Character where
  id := "hero"
  traits := [
    { id := "a", name := "Dodge", kind := .feat, supplier := some ⟨"gone", "Academy"⟩ },
    { id := "a", name := "Mobility", kind := .feat }]

/-- The second trait is neither an orphan nor owned. -/
theorem not_splitsTraits_twins : ¬ twins.SplitsTraits := by
  intro h
  have hlengths : twins.orphanedTraits.length + twins.ownedTraits.length = 1 := by decide +kernel
  rw [h.lengths] at hlengths
  cases hlengths

end CharacterSheet.Character
