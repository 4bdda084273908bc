import CharacterSheet.Requirement.Basic

/-!
# Requirements inside requirements

A property holds everywhere in a requirement if it holds of the requirement and of whatever stands
inside its lists of options and parts.
-/

namespace CharacterSheet.Requirement

/-- A requirement stands inside itself and inside the lists that it is an option or a part of. -/
inductive Inside (inner : Requirement) : Requirement → Prop
  | refl : Inside inner inner
  | anyOf {option : Requirement} {options : List Requirement} (hmem : option ∈ options)
      (h : Inside inner option) : Inside inner (.anyOf options)
  | allOf {part : Requirement} {parts : List Requirement} (hmem : part ∈ parts)
      (h : Inside inner part) : Inside inner (.allOf parts)

/-- Something holds of a requirement and of everything inside it. -/
def Everywhere (p : Requirement → Prop) (r : Requirement) : Prop :=
  ∀ inner, Inside inner r → p inner

variable {p : Requirement → Prop}

/-- Everywhere in a choice is at the choice and everywhere in its options. -/
theorem everywhere_anyOf {options : List Requirement} :
    Everywhere p (.anyOf options) ↔ p (.anyOf options) ∧ ∀ r ∈ options, Everywhere p r := by
  constructor
  · intro h
    refine ⟨h _ .refl, ?_⟩
    intro r hr inner hinner
    exact h inner (.anyOf hr hinner)
  · rintro ⟨hself, hoptions⟩ inner hinner
    cases hinner with
    | refl => exact hself
    | anyOf hmem h => exact hoptions _ hmem inner h

/-- Everywhere in a list of demands is at the list and everywhere in its parts. -/
theorem everywhere_allOf {parts : List Requirement} :
    Everywhere p (.allOf parts) ↔ p (.allOf parts) ∧ ∀ r ∈ parts, Everywhere p r := by
  constructor
  · intro h
    refine ⟨h _ .refl, ?_⟩
    intro r hr inner hinner
    exact h inner (.allOf hr hinner)
  · rintro ⟨hself, hparts⟩ inner hinner
    cases hinner with
    | refl => exact hself
    | allOf hmem h => exact hparts _ hmem inner h

/-- Whether a requirement is no list of others. -/
def isSingle : Requirement → Bool
  | anyOf _ | allOf _ => false
  | _ => true

theorem everywhere_of_isSingle {r : Requirement} (h : r.isSingle = true) :
    Everywhere p r ↔ p r := by
  constructor
  · exact fun hp => hp r .refl
  · intro hp inner hinner
    cases hinner with
    | refl => exact hp
    | anyOf => cases h
    | allOf => cases h

end CharacterSheet.Requirement
