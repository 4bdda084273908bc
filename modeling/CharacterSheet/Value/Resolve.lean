import CharacterSheet.Value.Token

/-!
# Resolving values to a number

A list of values resolves to the sum of its plain numbers, or to the last override if there is
one; then the scaling steps are applied in the order they were met, then the largest lower bound,
and last the smallest upper bound.
-/

namespace CharacterSheet

/-- What the tokens met so far amount to. -/
structure Tally where
  total : Binary64
  override : Option Binary64
  scalings : List Scaling
  atLeast : Option Binary64
  atMost : Option Binary64

namespace Tally

/-- Before the first token. -/
def empty : Tally := ⟨0, none, [], none, none⟩

/-- Takes in one more token. -/
def push (t : Tally) : Token → Tally
  | .add x => { t with total := t.total.add x }
  | .scale step => { t with scalings := t.scalings ++ [step] }
  | .override x => { t with override := some x }
  | .atLeast x => { t with atLeast := some (t.atLeast.elim x (·.max x)) }
  | .atMost x => { t with atMost := some (t.atMost.elim x (·.min x)) }

/-- Applies one scaling step. -/
def applyScaling (x : Binary64) : Scaling → Binary64
  | .times y => x.mul y
  | .dividedBy y => x.div y

/-- The number that the tokens amount to. -/
def result (t : Tally) : Binary64 :=
  let scaled := t.scalings.foldl applyScaling (t.override.getD t.total)
  let raised := t.atLeast.elim scaled scaled.max
  t.atMost.elim raised raised.min

end Tally

namespace Value

/-- Takes the values in one after the other, up to the first that is no token. -/
def tally (lookup : Lookup) : Tally → List Value → Except ResolveError Tally
  | t, [] => .ok t
  | t, value :: rest =>
    match Token.ofValue lookup value with
    | .error e => .error e
    | .ok none => tally lookup t rest
    | .ok (some token) => tally lookup (t.push token) rest

/-- The number that a list of values resolves to; the empty list resolves to zero. -/
def resolve (lookup : Lookup) (values : List Value) : Except ResolveError Binary64 :=
  (tally lookup Tally.empty values).map Tally.result

/-- The whole number that a list of values resolves to, the form every sheet value takes. -/
def resolveWhole (lookup : Lookup) (values : List Value) : Except ResolveError Int :=
  (resolve lookup values).map Binary64.toWhole

/-- The number that one value resolves to on its own; null resolves to none. -/
def resolveOne (lookup : Lookup) (value : Value) : Except ResolveError (Option Binary64) :=
  if value.isNull then .ok none else (resolve lookup [value]).map some

/-- A value of a list of factors: a number, or a text that is not one already, is turned into the
directive that multiplies by it. -/
def asFactor : Value → Value
  | number x => text ("*" ++ x.positional)
  | text s =>
    if (Text.trimStartChars s.toList).head? = some '*' then text s
    else text ("*" ++ Text.trim s)
  | value => value

end Value

/-- The lookup that knows no variable. -/
def noVariables : Lookup := fun _ => none

end CharacterSheet
