import CharacterSheet.Value.Resolve

/-!
# Tallies

A list of values is tallied token by token, up to the first value that is none. So whether and how
it fails to resolve does not hang on what was tallied before it.
-/

namespace CharacterSheet.Value

variable (lookup : Lookup)

/-- Why the value is no token, if it is none. -/
def error? (v : Value) : Option ResolveError :=
  match Token.ofValue lookup v with
  | .error e => some e
  | .ok _ => none

/-- The token of the value, if it has one. -/
def token? (v : Value) : Option Token :=
  match Token.ofValue lookup v with
  | .error _ => none
  | .ok read => read

/-- The tokens of the values, in order. -/
def tokens (values : List Value) : List Token := values.filterMap (token? lookup)

theorem error?_eq_some_iff {v : Value} {e : ResolveError} :
    v.error? lookup = some e ↔ Token.ofValue lookup v = .error e := by
  rw [error?]
  cases Token.ofValue lookup v <;> simp

/-- Values are taken in up to the first that is no token, and if there is none, as their tokens. -/
theorem tally_eq (t : Tally) (values : List Value) :
    tally lookup t values = (values.findSome? (error? lookup)).elim
      (.ok ((tokens lookup values).foldl Tally.push t)) .error := by
  induction values generalizing t with
  | nil => rfl
  | cons v rest ih =>
    rw [tally, tokens, List.findSome?_cons, List.filterMap_cons, error?, token?]
    cases Token.ofValue lookup v with
    | error e => rfl
    | ok read =>
      cases read with
      | none => exact ih t
      | some token => exact ih (t.push token)

/-- Whether and how reading fails does not depend on what was read before. -/
theorem tally_error_congr (t t' : Tally) {values : List Value} {e : ResolveError}
    (h : tally lookup t values = .error e) : tally lookup t' values = .error e := by
  rw [tally_eq] at h ⊢
  cases hfirst : values.findSome? (error? lookup) with
  | none =>
    rw [hfirst] at h
    cases h
  | some first => rwa [hfirst] at h

/-- Only reading can fail; what was read always comes to a number. -/
theorem tally_of_resolveWhole_error {values : List Value} {e : ResolveError}
    (h : resolveWhole lookup values = .error e) : tally lookup Tally.empty values = .error e := by
  rw [resolveWhole, resolve] at h
  cases htally : tally lookup Tally.empty values with
  | error e' => simpa [htally, Except.map] using h
  | ok t => simp [htally, Except.map] at h

/-- A number before the values does not keep them from failing. -/
theorem resolveWhole_ofInt_cons_error (n : Int) {values : List Value} {e : ResolveError}
    (h : resolveWhole lookup values = .error e) :
    resolveWhole lookup (ofInt n :: values) = .error e := by
  have hrest := tally_of_resolveWhole_error lookup h
  have hcons : tally lookup (Tally.empty.push (.add (Binary64.ofInt n))) values = .error e :=
    tally_error_congr lookup Tally.empty _ hrest
  rw [resolveWhole, resolve, tally, ofInt, Token.ofValue]
  simp only [hcons]
  rfl

theorem ne_nil_of_resolveWhole_error {values : List Value} {e : ResolveError}
    (h : resolveWhole lookup values = .error e) : values ≠ [] := by
  rintro rfl
  cases tally_of_resolveWhole_error lookup h

end CharacterSheet.Value
