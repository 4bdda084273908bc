import CharacterSheet.Value.Basic

/-!
# Tokens

A value that takes part in a sum is read as a token: a plain number that is added, or a directive.

* `*n` and `/n` scale the sum,
* `=n` replaces it,
* `min n` and `max n` bound it from below and from above.

A number may be written as `@name` for a variable, or `-@name` for its negative.
-/

namespace CharacterSheet

/-- What a number on the sheet can look up: the value of a variable by its name without `@`. -/
abbrev Lookup := String → Option Binary64

/-- Roll variables by name; published ones are named with a leading `@`. -/
abbrev Variables := Std.ExtTreeMap String Int

/-- The value of a variable, stored under its name or under its name behind an `@`. -/
def Variables.lookup (vars : Variables) : Lookup := fun name =>
  (vars[name]? <|> vars["@" ++ name]?).map Binary64.ofInt

/-- Publishes a roll variable. -/
def Variables.publish (vars : Variables) (name : String) (value : Int) : Variables :=
  vars.insert ("@" ++ name) value

/-- Why a value is no token. -/
inductive ResolveError where
  | notNumeric (text : String)
  | unknownVariable (name : String)
  | malformedDirective (text : String)
deriving DecidableEq, Repr

/-- The wording of an error on the sheet. -/
def ResolveError.message : ResolveError → String
  | notNumeric text => "Non-numeric value: '" ++ text ++ "'"
  | unknownVariable name => "Unknown variable: '" ++ name ++ "'"
  | malformedDirective text => "Malformed directive: '" ++ text ++ "'"

/-- A step that multiplies or divides a sum. -/
inductive Scaling where
  | times (x : Binary64)
  | dividedBy (x : Binary64)
deriving DecidableEq, Repr

/-- The part a value plays in a sum. -/
inductive Token where
  | add (x : Binary64)
  | scale (step : Scaling)
  | override (x : Binary64)
  | atLeast (x : Binary64)
  | atMost (x : Binary64)
deriving DecidableEq, Repr

namespace Token

/-- The number that a text writes, or that the variable it names has. -/
def scalar (lookup : Lookup) (s : String) : Except ResolveError Binary64 :=
  match Value.parseNumber? s with
  | some x => .ok x
  | none =>
    let (negative, body) := match Text.after? "-" s with
      | some rest => (true, Text.trim rest)
      | none => (false, s)
    match Text.after? "@" body with
    | some name =>
      match lookup name with
      | some x => .ok (if negative then x.neg else x)
      | none => .error (.unknownVariable name)
    | none => .error (.notNumeric s)

/-- The operand of a directive. One that is no number makes the whole directive malformed. -/
def operand (lookup : Lookup) (rest whole : String) : Except ResolveError Binary64 :=
  match scalar lookup (Text.trim rest) with
  | .error (.notNumeric _) => .error (.malformedDirective whole)
  | result => result

/-- Reads a trimmed text that is not empty. The words of a bound may be written in any case. -/
def ofTrimmed (lookup : Lookup) (s : String) : Except ResolveError Token :=
  if let some rest := Text.after? "*" s then
    (operand lookup rest s).map fun x => scale (.times x)
  else if let some rest := Text.after? "/" s then
    match operand lookup rest s with
    | .ok x => if x.isZero then .error (.malformedDirective s) else .ok (scale (.dividedBy x))
    | .error e => .error e
  else if let some rest := Text.after? "=" s then (operand lookup rest s).map override
  else if let some rest := Text.after? "min " (Text.lower s) then
    (operand lookup rest s).map atLeast
  else if let some rest := Text.after? "max " (Text.lower s) then
    (operand lookup rest s).map atMost
  else (scalar lookup s).map add

/-- The token of a value. Null and blank text have none, and a truth value is not numeric. -/
def ofValue (lookup : Lookup) : Value → Except ResolveError (Option Token)
  | .null => .ok none
  | .number x => .ok (some (add x))
  | .bool b => .error (.notNumeric (Value.bool b).display)
  | .text s =>
    let s := Text.trim s
    if s = "" then .ok none else (ofTrimmed lookup s).map some

end Token

end CharacterSheet
