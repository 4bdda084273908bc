/-!
# Memo tables

A table of answers already given, which keeps count of how often it was asked and could or could
not answer. An answer is computed at the first request for its key and repeated afterwards.
-/

namespace CharacterSheet

/-- A memo table from keys `κ` to answers `α`. -/
structure Memo (κ α : Type) where
  /-- The answers given so far, the latest first. -/
  entries : List (κ × α) := []
  /-- Requests that the table could answer. -/
  hits : Nat := 0
  /-- Requests for which an answer had to be computed. -/
  misses : Nat := 0

namespace Memo

variable {κ α : Type}

/-- The table before any request. -/
def empty : Memo κ α := {}

/-- A new cycle begins: the table forgets its answers and counts from zero again. -/
def beginCycle (memo : Memo κ α) : Memo κ α := { memo with entries := [], hits := 0, misses := 0 }

@[simp] theorem beginCycle_eq (memo : Memo κ α) : memo.beginCycle = empty := rfl

/-- How many answers are kept. -/
def size (memo : Memo κ α) : Nat := memo.entries.length

/-- The answer kept for a key. -/
def find? [DecidableEq κ] (memo : Memo κ α) (key : κ) : Option α := memo.entries.lookup key

/-- The answer to a request, and the table afterwards. `compute` gives the answer when none is kept
for the key. -/
def request [DecidableEq κ] (memo : Memo κ α) (key : κ) (compute : Unit → α) : α × Memo κ α :=
  match memo.find? key with
  | some answer => (answer, { memo with hits := memo.hits + 1 })
  | none =>
    let answer := compute ()
    (answer, { memo with entries := (key, answer) :: memo.entries, misses := memo.misses + 1 })

end Memo

end CharacterSheet
