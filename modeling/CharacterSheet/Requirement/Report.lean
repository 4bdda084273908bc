import CharacterSheet.Requirement.Clause

/-!
# Reports

What checking clauses against a character comes to: for one clause a verdict, and for a list of
clauses the failures and the notes in order.
-/

namespace CharacterSheet

/-- The outcome of checking one clause. -/
structure Verdict where
  satisfied : Bool
  /-- The trimmed clause if it is not met, or if it is left to the game master. -/
  reason : Option String
  requirement : Requirement

/-- The verdict on a clause that states a requirement. -/
def Verdict.of (text : String) (c : Character) (requirement : Requirement) : Verdict :=
  let satisfied := requirement.isMet c
  let isNarrative := match requirement with
    | .narrative _ => true
    | _ => false
  ⟨satisfied, if isNarrative || !satisfied then some (Text.trim text) else none, requirement⟩

/-- Checks one clause, if it can be read. -/
def Clause.evaluate (text : String) (c : Character) : Option Verdict :=
  (parse text).map (Verdict.of text c)

/-- The outcome of checking a list of clauses. -/
structure Report where
  satisfied : Bool
  failures : List String
  /-- Clauses left to the game master. -/
  notes : List String
deriving DecidableEq, Repr

namespace Report

/-- The report on no clauses. -/
def empty : Report := ⟨true, [], []⟩

/-- The report with one more verdict. -/
def push (r : Report) (v : Verdict) : Report :=
  match v.satisfied, v.reason with
  | false, some reason => { r with satisfied := false, failures := r.failures ++ [reason] }
  | true, some note => { r with notes := r.notes ++ [note] }
  | _, none => r

end Report

/-- Checks a list of clauses, if they can all be read. -/
def Character.meets (c : Character) (clauses : List String) : Option Report :=
  clauses.foldlM (fun report text => (Clause.evaluate text c).map report.push) Report.empty

end CharacterSheet
