import CharacterSheet.Inquiry.Basic

/-!
# Running an inquiry

An inquiry whose questions a function answers has a result, warnings, and a list of questions that
it came to ask. Each of the three is determined along a bind: first the part before it, then the
part behind it for the result of the first. What holds of the result whatever the answers are also
holds where a memo table gives some of them.
-/

namespace CharacterSheet

namespace Inquiry

variable {α β : Type} (answer : Question → Answer)

/-- The result of an inquiry. -/
def result (x : Inquiry α) : α := (x.answeredBy answer).1

/-- The warnings of an inquiry, in order. -/
def warnings (x : Inquiry α) : List String := (x.answeredBy answer).2

/-- The questions that an inquiry asks, in order. -/
def questions : Inquiry α → List Question
  | done _ => []
  | ask q next => q :: (next (answer q)).questions
  | warn _ next => next.questions

/-- A run is its result and its warnings. -/
theorem answeredBy_eq (x : Inquiry α) :
    x.answeredBy answer = (x.result answer, x.warnings answer) := rfl

/-! ## One step -/

/-- An inquiry that is over has its result. -/
@[simp] theorem result_pure (a : α) : (pure a : Inquiry α).result answer = a := rfl

/-- An inquiry that is over gives no warning. -/
@[simp] theorem warnings_pure (a : α) : (pure a : Inquiry α).warnings answer = [] := rfl

/-- An inquiry that is over asks nothing. -/
@[simp] theorem questions_pure (a : α) : (pure a : Inquiry α).questions answer = [] := rfl

/-- The result is that of going on with the answer. -/
@[simp] theorem result_ask (q : Question) (next : Answer → Inquiry α) :
    (ask q next).result answer = (next (answer q)).result answer := rfl

/-- A question gives no warning of its own. -/
@[simp] theorem warnings_ask (q : Question) (next : Answer → Inquiry α) :
    (ask q next).warnings answer = (next (answer q)).warnings answer := rfl

/-- A question is asked before those that come after its answer. -/
@[simp] theorem questions_ask (q : Question) (next : Answer → Inquiry α) :
    (ask q next).questions answer = q :: (next (answer q)).questions answer := rfl

/-- A warning does not change the result. -/
@[simp] theorem result_warn (message : String) (next : Inquiry α) :
    (warn message next).result answer = next.result answer := rfl

/-- A warning is given before those that come after it. -/
@[simp] theorem warnings_warn (message : String) (next : Inquiry α) :
    (warn message next).warnings answer = message :: next.warnings answer := rfl

/-- A warning asks nothing. -/
@[simp] theorem questions_warn (message : String) (next : Inquiry α) :
    (warn message next).questions answer = next.questions answer := rfl

/-- A warning alone gives nothing but itself. -/
@[simp] theorem warnings_warning (message : String) :
    (warning message).warnings answer = [message] := rfl

/-- A warning alone asks nothing. -/
@[simp] theorem questions_warning (message : String) :
    (warning message).questions answer = [] := rfl

/-! ## Binds -/

/-- The result of two inquiries in a row is that of the second one, made with the result of the
first. -/
@[simp] theorem result_bind (x : Inquiry α) (next : α → Inquiry β) :
    (x >>= next).result answer = (next (x.result answer)).result answer := by
  induction x with
  | done a => rfl
  | ask q rest ih => exact ih (answer q)
  | warn message rest ih => exact ih

/-- Two inquiries in a row give the warnings of both. -/
@[simp] theorem warnings_bind (x : Inquiry α) (next : α → Inquiry β) :
    (x >>= next).warnings answer =
      x.warnings answer ++ (next (x.result answer)).warnings answer := by
  induction x with
  | done a => rfl
  | ask q rest ih => exact ih (answer q)
  | warn message rest ih => exact congrArg (message :: ·) ih

/-- Two inquiries in a row ask the questions of both. -/
@[simp] theorem questions_bind (x : Inquiry α) (next : α → Inquiry β) :
    (x >>= next).questions answer =
      x.questions answer ++ (next (x.result answer)).questions answer := by
  induction x with
  | done a => rfl
  | ask q rest ih => exact congrArg (q :: ·) (ih (answer q))
  | warn message rest ih => exact ih

/-- Runs that begin alike and go on in the same way are alike. -/
theorem answeredBy_bind_congr {x y : Inquiry α} {next next' : α → Inquiry β}
    (hx : x.answeredBy answer = y.answeredBy answer) (hnext : ∀ a, next a = next' a) :
    (x >>= next).answeredBy answer = (y >>= next').answeredBy answer := by
  have hresult : x.result answer = y.result answer := congrArg Prod.fst hx
  have hwarnings : x.warnings answer = y.warnings answer := congrArg Prod.snd hx
  rw [funext hnext, answeredBy_eq, answeredBy_eq, result_bind, warnings_bind, result_bind,
    warnings_bind, hresult, hwarnings]

/-- Only the answers to the questions that are asked matter. -/
theorem answeredBy_congr {answer answer' : Question → Answer} (x : Inquiry α)
    (h : ∀ q ∈ x.questions answer, answer q = answer' q) :
    x.answeredBy answer = x.answeredBy answer' := by
  induction x with
  | done a => rfl
  | ask q next ih =>
    have hq : answer q = answer' q := h q (by simp)
    simp only [answeredBy, ← hq]
    exact ih (answer q) fun q' hq' => h q' (by simp [hq'])
  | warn message next ih => rw [answeredBy, answeredBy, ih h]

/-! ## Whatever the answers -/

/-- Something holds of the result, whatever the questions are answered with. -/
def Yields (p : α → Prop) : Inquiry α → Prop
  | done a => p a
  | ask _ next => ∀ given, (next given).Yields p
  | warn _ next => next.Yields p

/-- An inquiry that is over yields what its result is. -/
theorem yields_pure {p : α → Prop} {a : α} (h : p a) : (pure a : Inquiry α).Yields p := h

/-- Two inquiries in a row yield what the second one does, whatever the first one gives. -/
theorem yields_bind {p : β → Prop} (x : Inquiry α) {next : α → Inquiry β}
    (h : ∀ a, (next a).Yields p) : (x >>= next).Yields p := by
  induction x with
  | done a => exact h a
  | ask q rest ih => exact fun given => ih given
  | warn message rest ih => exact ih

/-- With any memo table an inquiry yields what it does without one. -/
theorem Yields.remembering {κ : Type} [DecidableEq κ] {p : α → Prop} {x : Inquiry α}
    (h : x.Yields p) (key : Question → κ) (answer : Question → Answer) (memo : Memo κ Answer) :
    p (x.remembering key answer memo).1.1 := by
  induction x generalizing memo with
  | done a => exact h
  | ask q next ih => exact ih _ (h _) _
  | warn message next ih => exact ih h memo

end Inquiry

end CharacterSheet
