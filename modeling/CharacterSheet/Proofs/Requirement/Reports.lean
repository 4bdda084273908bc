import CharacterSheet.Proofs.Requirement.Termination
import CharacterSheet.Requirement.Report

/-!
# Reports on lists of clauses

A verdict gives a reason for every clause that is not met, so no such clause is passed over when a
report is made. A report is put together from what each of its clauses adds: its failures are the
clauses that are not met, its notes those left to the game master, both in the order of the list. A
list with a clause whose reading comes to no end has no report.
-/

namespace CharacterSheet

open Clause

/-- Whether a requirement is left to the game master. -/
def Requirement.isNarrative : Requirement → Bool
  | .narrative _ => true
  | _ => false

/-- What is left to the game master is met by everyone. -/
theorem Requirement.isMet_of_isNarrative {r : Requirement} (h : r.isNarrative = true)
    (c : Character) : r.isMet c = true := by
  cases r with
  | narrative text => rw [isMet]
  | _ => cases h

/-- A reason is given exactly for the clauses that are not met and for those left to the game
master. -/
theorem Verdict.reason_of (text : String) (c : Character) (r : Requirement) :
    (Verdict.of text c r).reason =
      if r.isNarrative || !r.isMet c then some (Text.trim text) else none := by
  cases r <;> rfl

namespace Report

/-- Two reports as one: met if both are, with what both list. -/
def append (r s : Report) : Report :=
  ⟨r.satisfied && s.satisfied, r.failures ++ s.failures, r.notes ++ s.notes⟩

/-- The report on no clauses adds nothing behind another one. -/
theorem append_empty (r : Report) : r.append empty = r := by
  simp [append, empty]

/-- The report on no clauses adds nothing before another one. -/
theorem empty_append (r : Report) : empty.append r = r := by
  simp [append, empty]

/-- Of three reports it does not matter which two are put together first. -/
theorem append_assoc (r s t : Report) : (r.append s).append t = r.append (s.append t) := by
  simp [append, Bool.and_assoc]

/-- What clauses that can be read add to a report, read off the requirements that they state. -/
def listing (c : Character) (clauses : List String) : Report where
  satisfied := clauses.all fun text => (parse text).any (·.isMet c)
  failures := (clauses.filter fun text => (parse text).any (!·.isMet c)).map Text.trim
  notes := (clauses.filter fun text => (parse text).any (·.isNarrative)).map Text.trim

/-- Two lists of clauses add what each of them adds. -/
theorem listing_append (c : Character) (clauses others : List String) :
    listing c (clauses ++ others) = (listing c clauses).append (listing c others) := by
  simp [listing, append]

/-- One more clause adds what it lists on its own. -/
theorem push_of {text : String} {requirement : Requirement} (h : parse text = some requirement)
    (r : Report) (c : Character) :
    r.push (Verdict.of text c requirement) = r.append (listing c [text]) := by
  have hsatisfied : (Verdict.of text c requirement).satisfied = requirement.isMet c := rfl
  have hreason := Verdict.reason_of text c requirement
  rw [push, hsatisfied]
  cases hmet : requirement.isMet c with
  | false =>
    -- a clause that is not met is not left to the game master, and it has a reason
    have hnarrative : requirement.isNarrative = false := by
      rw [← Bool.not_eq_true]
      intro hleft
      rw [Requirement.isMet_of_isNarrative hleft] at hmet
      cases hmet
    rw [hreason]
    simp [listing, append, h, hmet, hnarrative]
  | true =>
    cases hnarrative : requirement.isNarrative <;> rw [hreason] <;>
      simp [listing, append, h, hmet, hnarrative]

/-- Checking clauses one after the other adds what all of them list, unless one of them cannot be
read. -/
theorem foldlM_push (c : Character) (clauses : List String) (r : Report) :
    clauses.foldlM (fun report text => (evaluate text c).map report.push) r =
      if clauses.all fun text => (parse text).isSome then some (r.append (listing c clauses))
      else none := by
  -- generalized over the report so far, to whose end the listing of the rest is joined
  induction clauses generalizing r with
  | nil => exact congrArg some (append_empty r).symm
  | cons text clauses ih =>
    rw [List.foldlM_cons, evaluate, List.all_cons]
    cases hparse : parse text with
    | none => rfl
    | some requirement =>
      have hlisting : listing c (text :: clauses) = (listing c [text]).append (listing c clauses) :=
        listing_append c [text] clauses
      simp only [Option.map_some, Option.bind_eq_bind, Option.bind_some, ih, push_of hparse,
        append_assoc, hlisting, Option.isSome_some, Bool.true_and]

end Report

/-- A list of clauses that can all be read has a report, and no other list has. -/
theorem Character.meets_eq_listing (c : Character) (clauses : List String) :
    c.meets clauses =
      if clauses.all fun text => (parse text).isSome then some (Report.listing c clauses)
      else none := by
  rw [meets, Report.foldlM_push, Report.empty_append]

/-- The report on two lists of clauses is put together from the reports on each. -/
theorem Character.meets_append (c : Character) (clauses others : List String) :
    c.meets (clauses ++ others) =
      (c.meets clauses).bind fun report => (c.meets others).map report.append := by
  rw [meets_eq_listing, meets_eq_listing, meets_eq_listing, List.all_append,
    Report.listing_append]
  cases clauses.all fun text => (parse text).isSome <;>
    cases others.all fun text => (parse text).isSome <;> rfl

end CharacterSheet
