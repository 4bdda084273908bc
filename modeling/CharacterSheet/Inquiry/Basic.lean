import CharacterSheet.Inquiry.Memo
import CharacterSheet.Inquiry.Question

/-!
# Inquiries

An inquiry is a computation that asks questions, one after the other and each depending on the
answers before it, and that may warn on the way. What answers the questions is left open:
`Inquiry.answeredBy` takes a function, and `Inquiry.remembering` puts a memo table before it.
-/

namespace CharacterSheet

/-- A computation that asks questions and may warn. -/
inductive Inquiry (α : Type) where
  | done (a : α)
  | ask (q : Question) (next : Answer → Inquiry α)
  | warn (message : String) (next : Inquiry α)

namespace Inquiry

variable {α β : Type}

/-- Goes on with another inquiry once the result is there. -/
def andThen (next : α → Inquiry β) : Inquiry α → Inquiry β
  | done a => next a
  | ask q rest => ask q fun answer => (rest answer).andThen next
  | warn message rest => warn message (rest.andThen next)

instance : Monad Inquiry where
  pure := done
  bind x next := x.andThen next

/-- The result of an inquiry whose questions a function answers, and the warnings in order. -/
def answeredBy (answer : Question → Answer) : Inquiry α → α × List String
  | done a => (a, [])
  | ask q next => (next (answer q)).answeredBy answer
  | warn message next =>
    let (a, warnings) := next.answeredBy answer
    (a, message :: warnings)

/-- The same with a memo table, which keeps each answer under the key of its question: the function
is asked only where the table has no answer. -/
def remembering {κ : Type} [DecidableEq κ] (key : Question → κ) (answer : Question → Answer) :
    Inquiry α → Memo κ Answer → (α × List String) × Memo κ Answer
  | done a, memo => ((a, []), memo)
  | ask q next, memo =>
    let (given, memo) := memo.request (key q) fun _ => answer q
    (next given).remembering key answer memo
  | warn message next, memo =>
    let ((a, warnings), memo) := next.remembering key answer memo
    ((a, message :: warnings), memo)

/-- Warns of something. -/
def warning (message : String) : Inquiry Unit := warn message (done ())

end Inquiry

/-- From where questions are asked: about which character, in which stage, and with which roll
variables published. -/
structure Standpoint where
  character : String
  stage : Stage
  vars : Variables

namespace Standpoint

variable (here : Standpoint)

/-- Asks what the contributions under a key reduce to. -/
def ask (mode : Mode) (key : String) (filter : Filter) : Inquiry Answer :=
  .ask ⟨here.stage, key, mode, filter, here.character, here.vars⟩ .done

/-- A number. Where a value cannot be resolved, zero takes its place with a warning. -/
def number (mode : Mode) (key : String) (filter : Filter) : Inquiry Int := do
  match ← here.ask mode key filter with
  | .ok reduced => return reduced.number?.getD 0
  | .error e =>
    Inquiry.warning (key ++ " (" ++ here.stage.name ++ "): " ++ e.message ++ "; using 0")
    return 0

/-- A sum. -/
def sum (key : String) (filter : Filter) : Inquiry Int := here.number .sum key filter

/-- A maximum. -/
def max (key : String) (filter : Filter) : Inquiry Int := here.number .max key filter

/-- Whether some contribution switches the key on. -/
def any (key : String) (filter : Filter) : Inquiry Bool := do
  match ← here.ask .or key filter with
  | .ok (.flag b) => return b
  | _ => return false

/-- The values that are not null, in lower case. -/
def texts (key : String) (filter : Filter) : Inquiry (List String) := do
  match ← here.ask .lowerCaseValues key filter with
  | .ok (.texts ss) => return ss
  | _ => return []

/-- The first value that is not null, as shown. -/
def firstText (key : String) (filter : Filter) : Inquiry (Option String) := do
  match ← here.ask .first key filter with
  | .ok (.value (some v)) => return some v.display
  | _ => return none

/-- The contributions in words. -/
def summary (key : String) (filter : Filter) : Inquiry String := do
  match ← here.ask .summary key filter with
  | .ok (.summary s) => return s
  | _ => return ""

/-- All values. -/
def values (key : String) (filter : Filter) : Inquiry (List Value) := do
  match ← here.ask .values key filter with
  | .ok (.values vs) => return vs
  | _ => return []

/-- A whole number scaled by the factors contributed under a key. A factor that cannot be resolved
makes all of them count for nothing, with a warning. -/
def scaled (n : Int) (key : String) : Inquiry Int := do
  let factors ← here.values key .all
  if factors.isEmpty then return n
  match Value.resolveWhole here.vars.lookup (Value.ofInt n :: factors.map Value.asFactor) with
  | .ok result => return result
  | .error e =>
    Inquiry.warning (key ++ ": " ++ e.message ++ "; ignoring")
    return n

end Standpoint

end CharacterSheet
