import CharacterSheet.Proofs.Character.Support

/-!
# New traits

A trait is new to a character if nobody has its id and nobody names it as supplier. Such a trait
makes no orphan of the others and takes none from them, so they are owned as before; only whether
it is an orphan itself is left open.
-/

namespace CharacterSheet.Character

/-- The character with one more trait behind its first `n` traits. -/
def insertTrait (c : Character) (n : Nat) (t : Trait) : Character :=
  { c with traits := c.traits.take n ++ t :: c.traits.drop n }

/-- A trait that is added stands at the end. -/
theorem withTrait_eq_insertTrait (c : Character) (t : Trait) :
    c.withTrait t = c.insertTrait c.traits.length t := by
  simp [withTrait, insertTrait]

/-- Nobody has the id of the trait, and nobody names it as supplier. -/
structure IsNew (c : Character) (t : Trait) : Prop where
  fresh : ∀ other ∈ c.traits, other.id ≠ t.id
  unnamed : ∀ other ∈ c.traits, ∀ s, other.supplier = some s → s.id ≠ t.id

variable {c : Character} {t : Trait} {n : Nat}

/-- The traits are the earlier ones and the new one. -/
theorem mem_traits_insertTrait_iff {other : Trait} :
    other ∈ (c.insertTrait n t).traits ↔ other = t ∨ other ∈ c.traits := by
  have hsplit : other ∈ c.traits ↔ other ∈ c.traits.take n ∨ other ∈ c.traits.drop n := by
    rw [← List.mem_append, List.take_append_drop]
  rw [hsplit, insertTrait, List.mem_append, List.mem_cons]
  exact or_left_comm

/-- Of some kind are the earlier traits before the place, perhaps the new one, and those behind. -/
theorem filter_traits_insertTrait (p : Trait → Bool) :
    (c.insertTrait n t).traits.filter p =
      (c.traits.take n).filter p ++ ([t].filter p ++ (c.traits.drop n).filter p) := by
  rw [← List.filter_append, ← List.filter_append, List.singleton_append]
  rfl

/-! ## The other traits -/

/-- A new trait makes no orphan and saves none. -/
theorem isOrphan_insertTrait (hnew : c.IsNew t) {other : Trait} (hother : other ∈ c.traits) :
    (c.insertTrait n t).isOrphan other = c.isOrphan other := by
  rw [Bool.eq_iff_iff, isOrphan_eq_true_iff, isOrphan_eq_true_iff]
  refine exists_congr fun s => and_congr_right fun hs => not_congr ?_
  simp only [mem_traits_insertTrait_iff, or_and_right, exists_or, exists_eq_left]
  exact or_iff_right (hnew.unnamed other hother s hs).symm

/-- Whether an orphan has the id of an earlier trait does not change. -/
theorem mem_orphanIds_insertTrait_iff (hnew : c.IsNew t) {other : Trait}
    (hother : other ∈ c.traits) :
    other.id ∈ (c.insertTrait n t).orphanedTraits.map (·.id) ↔
      other.id ∈ c.orphanedTraits.map (·.id) := by
  rw [mem_orphanIds_iff, mem_orphanIds_iff]
  constructor
  · rintro ⟨orphan, hmem, horphan, hid⟩
    rcases mem_traits_insertTrait_iff.mp hmem with rfl | hmem
    · exact absurd hid.symm (hnew.fresh other hother)
    · exact ⟨orphan, hmem, isOrphan_insertTrait hnew hmem ▸ horphan, hid⟩
  · rintro ⟨orphan, hmem, horphan, hid⟩
    exact ⟨orphan, mem_traits_insertTrait_iff.mpr (.inr hmem),
      (isOrphan_insertTrait hnew hmem).trans horphan, hid⟩

/-- The id of the new trait is that of an orphan if the trait is one. -/
theorem mem_orphanIds_insertTrait_self_iff (hnew : c.IsNew t) :
    t.id ∈ (c.insertTrait n t).orphanedTraits.map (·.id) ↔
      (c.insertTrait n t).isOrphan t = true := by
  rw [mem_orphanIds_iff]
  constructor
  · rintro ⟨orphan, hmem, horphan, hid⟩
    rcases mem_traits_insertTrait_iff.mp hmem with rfl | hmem
    · exact horphan
    · exact absurd hid (hnew.fresh orphan hmem)
  · exact fun horphan => ⟨t, mem_traits_insertTrait_iff.mpr (.inl rfl), horphan, rfl⟩

/-! ## Orphans and owned traits -/

/-- The orphans are the earlier ones and perhaps the new one. -/
theorem orphanedTraits_insertTrait (hnew : c.IsNew t) :
    (c.insertTrait n t).orphanedTraits =
      (c.traits.take n).filter c.isOrphan ++
        ([t].filter (c.insertTrait n t).isOrphan ++ (c.traits.drop n).filter c.isOrphan) := by
  have hbefore : (c.traits.take n).filter (c.insertTrait n t).isOrphan =
      (c.traits.take n).filter c.isOrphan :=
    List.filter_congr fun _ h => isOrphan_insertTrait hnew (List.mem_of_mem_take h)
  have hbehind : (c.traits.drop n).filter (c.insertTrait n t).isOrphan =
      (c.traits.drop n).filter c.isOrphan :=
    List.filter_congr fun _ h => isOrphan_insertTrait hnew (List.mem_of_mem_drop h)
  rw [orphanedTraits, filter_traits_insertTrait, hbefore, hbehind]

/-- The traits of a list that are not deleted with the orphans of a character. -/
def ownedAmong (c : Character) (traits : List Trait) : List Trait :=
  traits.filter fun t => !(c.orphanedTraits.map (·.id)).contains t.id

/-- What is owned of two lists is what is owned of each. -/
theorem ownedAmong_append (traits traits' : List Trait) :
    c.ownedAmong (traits ++ traits') = c.ownedAmong traits ++ c.ownedAmong traits' :=
  List.filter_append ..

/-- What is owned may be counted before and behind any place. -/
theorem ownedTraits_eq_ownedAmong (n : Nat) :
    c.ownedTraits = c.ownedAmong (c.traits.take n) ++ c.ownedAmong (c.traits.drop n) := by
  rw [← ownedAmong_append, List.take_append_drop]
  rfl

/-- The owned traits are the earlier ones and perhaps the new one. -/
theorem ownedTraits_insertTrait (hnew : c.IsNew t) :
    (c.insertTrait n t).ownedTraits =
      c.ownedAmong (c.traits.take n) ++
        ([t].filter (fun t => !(c.insertTrait n t).isOrphan t) ++
          c.ownedAmong (c.traits.drop n)) := by
  -- nothing hangs on a new identity, so the orphans among the others stay the same
  have hother : ∀ other ∈ c.traits,
      (!((c.insertTrait n t).orphanedTraits.map (·.id)).contains other.id) =
        !(c.orphanedTraits.map (·.id)).contains other.id := fun other h => by
    rw [Bool.not_inj_iff, Bool.eq_iff_iff, List.contains_iff_mem, List.contains_iff_mem,
      mem_orphanIds_insertTrait_iff hnew h]
  have hself : (!((c.insertTrait n t).orphanedTraits.map (·.id)).contains t.id) =
      !(c.insertTrait n t).isOrphan t := by
    rw [Bool.not_inj_iff, Bool.eq_iff_iff, List.contains_iff_mem,
      mem_orphanIds_insertTrait_self_iff hnew]
  rw [ownedTraits, filter_traits_insertTrait, ownedAmong, ownedAmong]
  refine congrArg₂ _ (List.filter_congr fun _ h => hother _ (List.mem_of_mem_take h)) ?_
  refine congrArg₂ _ ?_ (List.filter_congr fun _ h => hother _ (List.mem_of_mem_drop h))
  rw [List.filter_singleton, List.filter_singleton, hself]

/-- A new orphan changes nothing about what is owned. -/
theorem ownedTraits_insertTrait_of_isOrphan (hnew : c.IsNew t)
    (h : (c.insertTrait n t).isOrphan t = true) :
    (c.insertTrait n t).ownedTraits = c.ownedTraits := by
  rw [ownedTraits_insertTrait hnew, ownedTraits_eq_ownedAmong n, List.filter_singleton, h]
  rfl

/-- A new trait without a supplier is owned together with the others. -/
theorem ownedTraits_insertTrait_of_supplier_eq_none (hnew : c.IsNew t) (h : t.supplier = none) :
    (c.insertTrait n t).ownedTraits =
      c.ownedAmong (c.traits.take n) ++ t :: c.ownedAmong (c.traits.drop n) := by
  have horphan : (c.insertTrait n t).isOrphan t = false := by rw [isOrphan, h]; rfl
  rw [ownedTraits_insertTrait hnew, List.filter_singleton, horphan]
  rfl

/-- A new orphan behind all other traits comes last among the orphans. -/
theorem orphanedTraits_withTrait (hnew : c.IsNew t) (h : (c.withTrait t).isOrphan t = true) :
    (c.withTrait t).orphanedTraits = c.orphanedTraits ++ [t] := by
  rw [withTrait_eq_insertTrait] at h ⊢
  rw [orphanedTraits_insertTrait hnew, List.take_length, List.drop_length, List.filter_nil,
    List.append_nil, List.filter_singleton, h]
  rfl

end CharacterSheet.Character
