import CharacterSheet.Proofs.Inquiry.Standpoint
import CharacterSheet.Proofs.Text.Lowering
import CharacterSheet.Proofs.Text.Search

/-!
# Values without variables

A variable is written with an at sign. What resolves a value trims it, lower-cases it and cuts it
into parts, and none of that brings an at sign into a text. So a value without one resolves to the
same number whatever the variables are, and questions about such values have the same answers.
-/

namespace CharacterSheet

/-- The value names no variable: it is no text with an at sign. -/
def Value.IsLiteral (v : Value) : Prop := ∀ s, v = text s → '@' ∉ s.toList

instance (v : Value) : Decidable v.IsLiteral :=
  decidable_of_iff (∀ s ∈ v.text?, '@' ∉ s.toList) (by
    cases v <;> simp [Value.text?, Value.IsLiteral])

/-- No contribution of the trait names a variable. -/
def Trait.IsLiteral (t : Trait) : Prop := ∀ k ∈ t.contributions, k.value.IsLiteral

instance (t : Trait) : Decidable t.IsLiteral :=
  inferInstanceAs (Decidable (∀ k ∈ t.contributions, k.value.IsLiteral))

/-! ## At signs -/

namespace Text

/-- The sign of variables has no case. -/
theorem isCaseless_at : isCaseless (0x40, 0x40) = true := by decide

variable {s : String}

/-- Trimming brings no character into a text. -/
theorem not_mem_trim {c : Char} (h : c ∉ s.toList) : c ∉ (trim s).toList := by
  rw [trim, String.toList_ofList]
  exact fun hc => h (mem_of_mem_trimChars hc)

/-- Lower-casing brings no sign of variables into a text. -/
theorem at_not_mem_lower (h : '@' ∉ s.toList) : '@' ∉ (lower s).toList := by
  rw [lower, String.toList_ofList]
  exact fun hc => h (mem_of_mem_lowerFrom_of_isCaseless isCaseless_at (by decide) hc)

/-- What stands behind a beginning has no further character in it. -/
theorem not_mem_of_after? {beginning rest : String} (h : after? beginning s = some rest) {c : Char}
    (hc : c ∉ s.toList) : c ∉ rest.toList := by
  rw [toList_of_after? h, List.mem_append, not_or] at hc
  exact hc.2

/-- A text without the sign of variables does not begin with it. -/
theorem after?_at (h : '@' ∉ s.toList) : after? "@" s = none := by
  cases hrest : after? "@" s with
  | none => rfl
  | some rest =>
    rw [toList_of_after? hrest] at h
    exact absurd (List.mem_append_left _ (by decide)) h

end Text

/-- A number is written with digits, a point and a sign, or as a word. -/
theorem Decimal.at_not_mem_positional (d : Decimal) : '@' ∉ d.positional.toList := by
  have hdigits : '@' ∉ Nat.toDigits 10 d.significand := fun h => by
    have hdigit := Nat.isDigit_of_mem_toDigits (by decide) (by decide) h
    exact absurd hdigit (by decide)
  have hsign : ∀ body : List Char, '@' ∉ body →
      '@' ∉ if d.negative then '-' :: body else body := by
    intro body hbody
    split <;> simp [hbody]
  rw [positional, String.toList_ofList]
  refine hsign _ ?_
  split
  · simp [hdigits, List.mem_replicate]
  split
  · rw [List.mem_append, List.mem_cons, not_or, not_or]
    exact ⟨fun h => hdigits (List.mem_of_mem_take h), by decide,
      fun h => hdigits (List.mem_of_mem_drop h)⟩
  · simp [hdigits, List.mem_replicate]

/-- A number is written without the sign of variables. -/
theorem Binary64.at_not_mem_positional (x : Binary64) : '@' ∉ x.positional.toList := by
  cases x with
  | finite q => exact Decimal.at_not_mem_positional _
  | negZero => decide
  | infinite negative => cases negative <;> decide
  | nan => decide

/-! ## Tokens -/

namespace Token

variable (lookup lookup' : Lookup) {s : String}

/-- A literal text is read in the same way wherever variables are looked up. -/
theorem scalar_congr (h : '@' ∉ s.toList) : scalar lookup s = scalar lookup' s := by
  rw [scalar, scalar]
  cases hsign : Text.after? "-" s with
  | none => simp only [Text.after?_at h]
  | some rest =>
    simp only [Text.after?_at (Text.not_mem_trim (Text.not_mem_of_after? hsign h))]

/-- The operand of a literal text is read in the same way. -/
theorem operand_congr {rest : String} (h : '@' ∉ rest.toList) (whole : String) :
    operand lookup rest whole = operand lookup' rest whole := by
  delta operand
  rw [scalar_congr lookup lookup' (Text.not_mem_trim h)]

/-- A trimmed literal text is read in the same way. -/
theorem ofTrimmed_congr (h : '@' ∉ s.toList) : ofTrimmed lookup s = ofTrimmed lookup' s := by
  -- an operand is cut from the text, for a bound from the lowered one, so it has no at sign
  have hrest : ∀ {beginning rest : String}, Text.after? beginning s = some rest →
      operand lookup rest s = operand lookup' rest s :=
    fun hstart => operand_congr lookup lookup' (Text.not_mem_of_after? hstart h) s
  have hbound : ∀ {beginning rest : String}, Text.after? beginning (Text.lower s) = some rest →
      operand lookup rest s = operand lookup' rest s :=
    fun hstart =>
      operand_congr lookup lookup' (Text.not_mem_of_after? hstart (Text.at_not_mem_lower h)) s
  simp only [ofTrimmed]
  split
  · next hstart => rw [hrest hstart]
  split
  · next hstart => rw [hrest hstart]
  split
  · next hstart => rw [hrest hstart]
  split
  · next hstart => rw [hbound hstart]
  split
  · next hstart => rw [hbound hstart]
  · rw [scalar_congr lookup lookup' h]

/-- A literal value is read in the same way. -/
theorem ofValue_congr {v : Value} (h : v.IsLiteral) : ofValue lookup v = ofValue lookup' v := by
  cases v with
  | text s =>
    have htrim : '@' ∉ (Text.trim s).toList := Text.not_mem_trim (h s rfl)
    rw [ofValue, ofValue, ofTrimmed_congr lookup lookup' htrim]
  | _ => rfl

end Token

/-! ## Values -/

namespace Value

/-- A number is literal. -/
theorem isLiteral_ofInt (n : Int) : (ofInt n).IsLiteral := by
  rintro s ⟨⟩

/-- A literal value is a literal factor. -/
theorem IsLiteral.asFactor {v : Value} (h : v.IsLiteral) : v.asFactor.IsLiteral := by
  intro s hs
  cases v with
  | bool b => cases hs
  | null => cases hs
  | number x =>
    cases hs
    simpa using x.at_not_mem_positional
  | text t =>
    rw [Value.asFactor] at hs
    split at hs
    · cases hs
      exact h _ rfl
    · cases hs
      simpa using Text.not_mem_trim (h t rfl)

variable (lookup lookup' : Lookup) {values : List Value}

/-- Literal values are tallied in the same way. -/
theorem tally_congr (h : ∀ v ∈ values, v.IsLiteral) (t : Tally) :
    tally lookup t values = tally lookup' t values := by
  induction values generalizing t with
  | nil => rfl
  | cons v rest ih =>
    obtain ⟨hv, hrest⟩ := List.forall_mem_cons.mp h
    simp only [tally, Token.ofValue_congr lookup lookup' hv, ih hrest]

/-- Literal values are resolved in the same way. -/
theorem resolve_congr (h : ∀ v ∈ values, v.IsLiteral) :
    resolve lookup values = resolve lookup' values := by
  rw [resolve, resolve, tally_congr lookup lookup' h]

/-- Literal values are resolved to the same whole number. -/
theorem resolveWhole_congr (h : ∀ v ∈ values, v.IsLiteral) :
    resolveWhole lookup values = resolveWhole lookup' values := by
  rw [resolveWhole, resolveWhole, resolve_congr lookup lookup' h]

/-- A single literal value is resolved in the same way. -/
theorem resolveOne_congr {v : Value} (h : v.IsLiteral) :
    resolveOne lookup v = resolveOne lookup' v := by
  rw [resolveOne, resolveOne, resolve_congr lookup lookup' (List.forall_mem_singleton.mpr h)]

end Value

/-! ## Questions -/

namespace Sourced

variable (lookup lookup' : Lookup) {found : List Sourced}

/-- The largest one of literal values is the same. -/
theorem largest?_congr (h : ∀ s ∈ found, s.2.value.IsLiteral) (best : Option Binary64) :
    largest? lookup best found = largest? lookup' best found := by
  induction found generalizing best with
  | nil => rfl
  | cons s rest ih =>
    obtain ⟨hs, hrest⟩ := List.forall_mem_cons.mp h
    simp only [largest?, Value.resolveOne_congr lookup lookup' hs, ih hrest]

/-- Literal values are reduced in the same way, in any mode. -/
theorem reduce_congr (h : ∀ s ∈ found, s.2.value.IsLiteral) (mode : Mode) :
    reduce lookup found mode = reduce lookup' found mode := by
  cases mode with
  | sum =>
    rw [reduce, reduce, Value.resolveWhole_congr lookup lookup' (List.forall_mem_map.mpr h)]
  | max => rw [reduce, reduce, largest?_congr lookup lookup' h]
  | _ => rfl

end Sourced

section Answers

variable {traits : List Trait}

/-- Whatever is found among literal traits is literal. -/
theorem Pool.isLiteral_of_mem_matching (h : ∀ t ∈ traits, t.IsLiteral) {lookup : Lookup}
    {key : String} {filter : Filter} {s : Sourced}
    (hs : s ∈ (Pool.mk traits lookup).matching key filter) : s.2.value.IsLiteral := by
  obtain ⟨t, ht, hs⟩ := List.mem_flatMap.mp hs
  obtain ⟨k, hk, rfl⟩ := List.mem_map.mp hs
  exact h t (List.mem_of_mem_filter ht) k (List.mem_of_mem_filter hk)

/-- The answer about values without variables does not hang on the roll variables. -/
theorem Question.answer_withVars (h : ∀ t ∈ traits, t.IsLiteral) (q : Question)
    (vars : Variables) : answer traits { q with vars } = answer traits q :=
  Sourced.reduce_congr _ _ (fun _ hs => Pool.isLiteral_of_mem_matching h hs) q.mode

namespace Standpoint

variable (here : Standpoint) (vars : Variables)

/-- A number from literal traits does not depend on the variables. -/
theorem result_number_withVars (h : ∀ t ∈ traits, t.IsLiteral) (mode : Mode) (key : String)
    (filter : Filter) :
    ({ here with vars }.number mode key filter).result (Question.answer traits) =
      (here.number mode key filter).result (Question.answer traits) := by
  have hanswer := Question.answer_withVars h (here.question mode key filter) vars
  simp only [number, Inquiry.result_bind, result_ask]
  rw [← hanswer]
  rfl

/-- The values are those that are found. -/
theorem result_values_answer (key : String) (filter : Filter) :
    (here.values key filter).result (Question.answer traits) =
      ((Pool.mk traits here.vars.lookup).matching key filter).map (·.2.value) :=
  here.result_values_of_ok _ rfl

/-- Literal factors do not depend on the variables. -/
theorem result_scaled_withVars (h : ∀ t ∈ traits, t.IsLiteral) (n : Int) (key : String) :
    ({ here with vars }.scaled n key).result (Question.answer traits) =
      (here.scaled n key).result (Question.answer traits) := by
  have hfactors : ∀ v ∈ Value.ofInt n ::
      (((Pool.mk traits here.vars.lookup).matching key .all).map (·.2.value)).map Value.asFactor,
      v.IsLiteral := by
    rw [List.forall_mem_cons, List.forall_mem_map, List.forall_mem_map]
    exact ⟨Value.isLiteral_ofInt n, fun s hs => (Pool.isLiteral_of_mem_matching h hs).asFactor⟩
  have hmatching : (Pool.mk traits vars.lookup).matching key .all =
      (Pool.mk traits here.vars.lookup).matching key .all := rfl
  simp only [scaled, Inquiry.result_bind, result_values_answer, hmatching,
    Value.resolveWhole_congr vars.lookup here.vars.lookup hfactors]

end Standpoint

end Answers

end CharacterSheet
