import CharacterSheet.Proofs.Character.NewTrait
import CharacterSheet.Proofs.Derivation.Inputs
import Mathlib.Data.List.Forall2

/-!
# Orphans contribute nothing

Of a trait with the id of an orphan a derivation sees the id and the supplier only, which decide who
is an orphan. So whatever else is written in such traits the same is derived, and a new orphan is
answered as an orphan and leaves the stat block as it is.
-/

namespace CharacterSheet

/-- Members that differ only where both are dropped leave the same list. -/
theorem filter_eq_of_forall₂ {α : Type} {R : α → α → Prop} {p : α → Bool}
    (hR : ∀ a b, R a b → b = a ∨ p a = false ∧ p b = false) {as bs : List α}
    (h : List.Forall₂ R as bs) : bs.filter p = as.filter p := by
  induction h with
  | nil => rfl
  | cons hab _ ih =>
    rw [List.filter_cons, List.filter_cons, ih]
    rcases hR _ _ hab with rfl | ⟨ha, hb⟩
    · rfl
    · rw [ha, hb, if_neg Bool.false_ne_true, if_neg Bool.false_ne_true]

namespace Character

/-- What stands in the place of a trait: the trait itself, or any other one with its id and its
supplier if the id is that of an orphan. -/
def RewritesOrphan (c : Character) (t t' : Trait) : Prop :=
  t' = t ∨ t.id ∈ c.orphanedTraits.map (·.id) ∧ t'.id = t.id ∧ t'.supplier = t.supplier

instance (c : Character) (t t' : Trait) : Decidable (c.RewritesOrphan t t') :=
  inferInstanceAs (Decidable (_ ∨ _))

/-- The traits of a character, where those with the id of an orphan may be rewritten. -/
def RewritesOrphans (c : Character) (traits : List Trait) : Prop :=
  List.Forall₂ c.RewritesOrphan c.traits traits

/-! ## Rewritten orphans -/

/-- The id of a trait and its supplier. -/
def link (t : Trait) : TraitId × Option Supplier := (t.id, t.supplier)

/-- Who is an orphan follows from ids and suppliers. -/
theorem orphanIds_eq_links (c : Character) :
    c.orphanedTraits.map (·.id) =
      ((c.traits.map link).filter fun l =>
        l.2.any fun s => !(c.traits.map link).any fun other => other.1 = s.id).map (·.1) := by
  rw [List.filter_map, List.map_map, orphanedTraits]
  simp only [List.any_map]
  rfl

variable {c : Character} {traits : List Trait}

theorem RewritesOrphans.map_link (h : c.RewritesOrphans traits) :
    traits.map link = c.traits.map link := by
  rw [eq_comm, ← List.forall₂_eq_eq_eq, List.forall₂_map_left_iff, List.forall₂_map_right_iff]
  refine List.Forall₂.imp (fun t t' ht => ?_) h
  rcases ht with rfl | ⟨-, hid, hsupplier⟩
  · rfl
  · rw [link, link, hid, hsupplier]

/-- Rewritten orphans are orphans still, with the same identities. -/
theorem RewritesOrphans.orphanIds (h : c.RewritesOrphans traits) :
    ({ c with traits } : Character).orphanedTraits.map (·.id) = c.orphanedTraits.map (·.id) := by
  rw [orphanIds_eq_links, orphanIds_eq_links]
  dsimp only
  rw [h.map_link]

/-- The owned traits are as they were before orphans were rewritten. -/
theorem RewritesOrphans.ownedTraits (h : c.RewritesOrphans traits) :
    ({ c with traits } : Character).ownedTraits = c.ownedTraits := by
  rw [Character.ownedTraits, Character.ownedTraits, h.orphanIds]
  refine filter_eq_of_forall₂ (fun t t' ht => ?_) h
  rcases ht with rfl | ⟨hid, hsame, -⟩
  · exact .inl rfl
  · right
    rw [hsame, Bool.not_eq_false', List.contains_iff_mem]
    exact ⟨hid, hid⟩

/-- So the stages find the same inputs. -/
theorem RewritesOrphans.sameInputs (h : c.RewritesOrphans traits) :
    { c with traits }.SameInputs c :=
  ⟨rfl, rfl, rfl, rfl, rfl, rfl, rfl, rfl, h.ownedTraits⟩

/-! ## New orphans -/

/-- A new orphan adds nothing to what the stages find. -/
theorem sameInputs_withTrait {t : Trait} (hnew : c.IsNew t)
    (h : (c.withTrait t).isOrphan t = true) : (c.withTrait t).SameInputs c := by
  refine ⟨rfl, rfl, rfl, rfl, rfl, rfl, rfl, rfl, ?_⟩
  rw [withTrait_eq_insertTrait] at h ⊢
  exact ownedTraits_insertTrait_of_isOrphan hnew h

end Character

namespace Desk

variable {φ : Type} [DecidableEq φ]

/-- However traits with the id of an orphan are rewritten, as long as they keep their ids and
suppliers the same stat block and the same orphans are derived. A new trait whose supplier is
missing leaves the stat block as it is and comes last among the orphans. -/
theorem derive_ignores_orphans (desk : Desk φ) (c : Character) :
    (∀ traits, c.RewritesOrphans traits →
        (desk.derive { c with traits }).1 = (desk.derive c).1) ∧
      ∀ t, c.IsNew t →
        (∃ s, t.supplier = some s ∧ ∀ other ∈ (c.withTrait t).traits, other.id ≠ s.id) →
          (desk.derive (c.withTrait t)).1.stats = (desk.derive c).1.stats ∧
            (desk.derive (c.withTrait t)).1.orphans = (desk.derive c).1.orphans ++ [t.id] := by
  constructor
  · intro traits h
    have hstats := desk.derive_stats_congr h.sameInputs
    have horphans := h.orphanIds
    rw [← desk.orphans_derive, ← desk.orphans_derive] at horphans
    exact congrArg₂ Derivation.mk hstats horphans
  · rintro t hnew ⟨s, hs, hmissing⟩
    have horphan : (c.withTrait t).isOrphan t = true :=
      Character.isOrphan_eq_true_iff.mpr ⟨s, hs, fun ⟨other, hother, hid⟩ =>
        hmissing other hother hid⟩
    refine ⟨desk.derive_stats_congr (Character.sameInputs_withTrait hnew horphan), ?_⟩
    rw [orphans_derive, orphans_derive, Character.orphanedTraits_withTrait hnew horphan,
      List.map_append]
    rfl

/-- A character with an orphan, and with another trait that has the id of the orphan. -/
def forsaken : Character where
  id := "hero"
  traits := [
    { id := "a", name := "Dodge", kind := .feat, supplier := some ⟨"gone", "Academy"⟩ },
    { id := "b", name := "Human", kind := .species },
    { id := "a", name := "Mobility", kind := .feat }]

/-- The traits of the same character, both of the same id rewritten. -/
def rewritten : List Trait := [
  { id := "a", name := "Large", kind := .armor, supplier := some ⟨"gone", "Academy"⟩
    equipped := true, armor := some ⟨.heavy, 6, 2, none⟩ },
  { id := "b", name := "Human", kind := .species },
  { id := "a", name := "Scout", kind := .classLevel, slot := some "Talents"
    contributions := [⟨"hitPoints", .text "many", none, false⟩] }]

/-- A feat whose supplier is none of the traits. -/
def lateFeat : Trait :=
  { id := "c", name := "Toughness", kind := .feat, supplier := some ⟨"lost", "Training"⟩
    contributions := [⟨"hitPointBonus", .ofInt 4, none, false⟩] }

/-- The orphan and the other trait with its id may be rewritten, and another orphan may come. -/
theorem derive_ignores_orphans_forsaken :
    forsaken.RewritesOrphans rewritten ∧
      (exact.derive { forsaken with traits := rewritten }).1 = (exact.derive forsaken).1 ∧
      forsaken.IsNew lateFeat ∧
      (∃ s, lateFeat.supplier = some s ∧
        ∀ other ∈ (forsaken.withTrait lateFeat).traits, other.id ≠ s.id) ∧
      (exact.derive (forsaken.withTrait lateFeat)).1.stats = (exact.derive forsaken).1.stats ∧
      (exact.derive (forsaken.withTrait lateFeat)).1.orphans =
        (exact.derive forsaken).1.orphans ++ ["c"] := by
  have hrewrites : forsaken.RewritesOrphans rewritten :=
    .cons (by decide +kernel) (.cons (by decide +kernel) (.cons (by decide +kernel) .nil))
  have hnew : forsaken.IsNew lateFeat := ⟨by decide +kernel, by simp [forsaken, lateFeat]⟩
  have hmissing : ∃ s, lateFeat.supplier = some s ∧
      ∀ other ∈ (forsaken.withTrait lateFeat).traits, other.id ≠ s.id :=
    ⟨⟨"lost", "Training"⟩, rfl, by decide +kernel⟩
  exact ⟨hrewrites, (derive_ignores_orphans exact forsaken).1 rewritten hrewrites, hnew, hmissing,
    (derive_ignores_orphans exact forsaken).2 lateFeat hnew hmissing⟩

end Desk

end CharacterSheet
