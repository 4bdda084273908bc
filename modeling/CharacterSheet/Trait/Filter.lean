import CharacterSheet.Trait.Basic

/-!
# Filters

Which contributions a reduction sees.
-/

namespace CharacterSheet

/-- A restriction on traits by kind, and on contributions. The lists of kinds are kept sorted, so
that filters made from the same kinds in another order are equal. -/
structure Filter where
  /-- Whether situational contributions are left out. -/
  withoutSituational : Bool := false
  /-- The kinds that are let through; every kind when the list is empty. -/
  only : List TraitKind := []
  /-- The kinds that are kept out. -/
  excluding : List TraitKind := []
deriving DecidableEq, Repr

namespace Filter

/-- Everything passes. -/
def all : Filter := {}

/-- Situational contributions do not pass. -/
def plain : Filter := { withoutSituational := true }

/-- Kinds in the order of their ranks. -/
def sortKinds (kinds : List TraitKind) : List TraitKind :=
  kinds.mergeSort fun a b => a.rank ≤ b.rank

/-- The filter narrowed to traits of some kinds. -/
def onlyKinds (f : Filter) (kinds : List TraitKind) : Filter := { f with only := sortKinds kinds }

/-- The filter without traits of some kinds. -/
def withoutKinds (f : Filter) (kinds : List TraitKind) : Filter :=
  { f with excluding := sortKinds kinds }

/-- Only class levels pass. -/
def classLevels : Filter := { only := [.classLevel] }

/-- Whether a trait passes. -/
def acceptsTrait (f : Filter) (t : Trait) : Bool :=
  (f.only.isEmpty || f.only.contains t.kind) && !f.excluding.contains t.kind

/-- Whether a contribution of a trait that passes does so too. -/
def acceptsContribution (f : Filter) (c : Contribution) : Bool :=
  !(f.withoutSituational && c.situational)

/-- Reads a filter from data. -/
def ofData? (d : Data) : Option Filter := do
  let fields ← d.record?
  let kinds := Data.list? TraitKind.ofData?
  let base : Filter := ⟨← fields.orElse "without_situational" Data.bool? false, [], []⟩
  return (base.onlyKinds (← fields.orElse "only" kinds [])).withoutKinds
    (← fields.orElse "excluding" kinds [])

end Filter

end CharacterSheet
