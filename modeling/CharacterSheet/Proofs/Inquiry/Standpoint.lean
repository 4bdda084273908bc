import CharacterSheet.Proofs.Inquiry.Run

/-!
# Questions from a standpoint

Each way to ask from a standpoint poses exactly one question, whatever the answer. A number that
cannot be resolved, and factors that cannot, come to a fallback with one warning.
-/

namespace CharacterSheet

namespace Standpoint

variable (here : Standpoint) (answer : Question → Answer)

/-- The question for what the contributions under a key reduce to. -/
def question (mode : Mode) (key : String) (filter : Filter) : Question :=
  ⟨here.stage, key, mode, filter, here.character, here.vars⟩

/-! ## What is asked -/

/-- Asking in a mode is one question. -/
@[simp] theorem questions_ask (mode : Mode) (key : String) (filter : Filter) :
    (here.ask mode key filter).questions answer = [here.question mode key filter] := rfl

/-- The result of asking is the answer. -/
@[simp] theorem result_ask (mode : Mode) (key : String) (filter : Filter) :
    (here.ask mode key filter).result answer = answer (here.question mode key filter) := rfl

/-- Asking gives no warning. -/
@[simp] theorem warnings_ask (mode : Mode) (key : String) (filter : Filter) :
    (here.ask mode key filter).warnings answer = [] := rfl

/-- A number takes one question. -/
@[simp] theorem questions_number (mode : Mode) (key : String) (filter : Filter) :
    (here.number mode key filter).questions answer = [here.question mode key filter] := by
  simp only [number, Inquiry.questions_bind, questions_ask, result_ask]
  cases answer (here.question mode key filter) <;> rfl

/-- A sum takes one question. -/
@[simp] theorem questions_sum (key : String) (filter : Filter) :
    (here.sum key filter).questions answer = [here.question .sum key filter] :=
  here.questions_number answer .sum key filter

/-- A maximum takes one question. -/
@[simp] theorem questions_max (key : String) (filter : Filter) :
    (here.max key filter).questions answer = [here.question .max key filter] :=
  here.questions_number answer .max key filter

/-- Whether anything is there takes one question. -/
@[simp] theorem questions_any (key : String) (filter : Filter) :
    (here.any key filter).questions answer = [here.question .or key filter] := by
  simp only [any, Inquiry.questions_bind, questions_ask]
  split <;> rfl

/-- Texts take one question. -/
@[simp] theorem questions_texts (key : String) (filter : Filter) :
    (here.texts key filter).questions answer = [here.question .lowerCaseValues key filter] := by
  simp only [texts, Inquiry.questions_bind, questions_ask]
  split <;> rfl

/-- The first text takes one question. -/
@[simp] theorem questions_firstText (key : String) (filter : Filter) :
    (here.firstText key filter).questions answer = [here.question .first key filter] := by
  simp only [firstText, Inquiry.questions_bind, questions_ask]
  split <;> rfl

/-- A summary takes one question. -/
@[simp] theorem questions_summary (key : String) (filter : Filter) :
    (here.summary key filter).questions answer = [here.question .summary key filter] := by
  simp only [summary, Inquiry.questions_bind, questions_ask]
  split <;> rfl

/-- A summary gives no warning. -/
@[simp] theorem warnings_summary (key : String) (filter : Filter) :
    (here.summary key filter).warnings answer = [] := by
  simp only [summary, Inquiry.warnings_bind, warnings_ask]
  split <;> rfl

/-- Values take one question. -/
@[simp] theorem questions_values (key : String) (filter : Filter) :
    (here.values key filter).questions answer = [here.question .values key filter] := by
  simp only [values, Inquiry.questions_bind, questions_ask]
  split <;> rfl

/-- Values give no warning. -/
@[simp] theorem warnings_values (key : String) (filter : Filter) :
    (here.values key filter).warnings answer = [] := by
  simp only [values, Inquiry.warnings_bind, warnings_ask]
  split <;> rfl

/-- A scaled number takes one question, for the factors. -/
@[simp] theorem questions_scaled (n : Int) (key : String) :
    (here.scaled n key).questions answer = [here.question .values key .all] := by
  simp only [scaled, Inquiry.questions_bind, questions_values]
  split
  · rfl
  · split <;> rfl

/-! ## Fallbacks -/

/-- A number that cannot be resolved is zero, with a warning. -/
theorem number_of_error {mode : Mode} {key : String} {filter : Filter} {e : ResolveError}
    (h : answer (here.question mode key filter) = .error e) :
    (here.number mode key filter).answeredBy answer =
      (0, [key ++ " (" ++ here.stage.name ++ "): " ++ e.message ++ "; using 0"]) := by
  rw [Inquiry.answeredBy_eq]
  simp only [number, Inquiry.result_bind, Inquiry.warnings_bind, result_ask, warnings_ask, h]
  rfl

/-- A number that can be resolved is the one of the answer, without a warning. -/
theorem number_of_ok {mode : Mode} {key : String} {filter : Filter} {reduced : Reduced}
    (h : answer (here.question mode key filter) = .ok reduced) :
    (here.number mode key filter).answeredBy answer = (reduced.number?.getD 0, []) := by
  rw [Inquiry.answeredBy_eq]
  simp only [number, Inquiry.result_bind, Inquiry.warnings_bind, result_ask, warnings_ask, h]
  rfl

/-- The values are those of the answer. -/
theorem result_values_of_ok {key : String} {filter : Filter} {vs : List Value}
    (h : answer (here.question .values key filter) = .ok (.values vs)) :
    (here.values key filter).result answer = vs := by
  simp only [values, Inquiry.result_bind, result_ask, h]
  rfl

/-- A number whose factors cannot be resolved stays as it is, with a warning. -/
theorem scaled_of_error {n : Int} {key : String} {vs : List Value} {e : ResolveError}
    (h : answer (here.question .values key .all) = .ok (.values vs)) (hvs : vs ≠ [])
    (he : Value.resolveWhole here.vars.lookup (Value.ofInt n :: vs.map Value.asFactor) =
      .error e) :
    (here.scaled n key).answeredBy answer = (n, [key ++ ": " ++ e.message ++ "; ignoring"]) := by
  have hempty : vs.isEmpty = false := by simpa using hvs
  rw [Inquiry.answeredBy_eq]
  simp only [scaled, Inquiry.result_bind, Inquiry.warnings_bind, here.result_values_of_ok answer h,
    warnings_values, hempty, he]
  rfl

/-- Without factors a number stays as it is. -/
theorem scaled_of_nil (n : Int) (key : String) (answer : Question → Answer)
    (h : answer (here.question .values key .all) = .ok (.values [])) :
    (here.scaled n key).answeredBy answer = (n, []) := by
  rw [Inquiry.answeredBy_eq]
  simp only [scaled, Inquiry.result_bind, Inquiry.warnings_bind, here.result_values_of_ok answer h,
    warnings_values]
  rfl

end Standpoint

end CharacterSheet
