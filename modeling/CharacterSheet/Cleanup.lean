import CharacterSheet.Trait.Basic

/-!
# Cleaning up orphans

Orphaned traits are deleted from wherever the host keeps them. A store that fails to delete one is
asked for the next all the same: the stat block is right without the orphans in any case.
-/

namespace CharacterSheet

/-- Why a store does not delete a trait. -/
inductive StoreError where
  | notFound (id : TraitId)
  | backend (message : String)
deriving DecidableEq, Repr

/-- The wording of a store's error. -/
def StoreError.message : StoreError → String
  | notFound id => "Trait not found: " ++ id
  | backend message => "Store error: " ++ message

/-- How a store with states `σ` deletes a trait of a character. -/
abbrev TraitStore (σ : Type) := String → TraitId → σ → Except StoreError Unit × σ

namespace TraitStore

/-- Asks a store to delete each of a list of traits; answers how many it did delete, and its state
afterwards. -/
def cleanUp {σ : Type} (store : TraitStore σ) (character : String) : List TraitId → σ → Nat × σ
  | [], state => (0, state)
  | id :: rest, state =>
    let (outcome, state) := store character id state
    let (deleted, state) := cleanUp store character rest state
    (if outcome.toBool then deleted + 1 else deleted, state)

end TraitStore

/-- A store that holds a set of traits; deleting any of the broken ones fails. -/
def shelf (broken : List TraitId) : TraitStore (Std.ExtTreeSet TraitId) := fun _ id present =>
  if broken.contains id then (.error (.backend "offline"), present)
  else if present.contains id then (.ok (), present.erase id)
  else (.error (.notFound id), present)

/-- A store that writes down each call with its outcome. -/
def TraitStore.logged {σ : Type} (store : TraitStore σ) : TraitStore (σ × List String) :=
  fun character id (state, log) =>
    let (outcome, state) := store character id state
    let words := match outcome with
      | .ok () => "ok"
      | .error e => e.message
    (outcome, state, log ++ [character ++ " " ++ id ++ ": " ++ words])

end CharacterSheet
