import CharacterSheet.Proofs.Derivation.Forward
import CharacterSheet.Proofs.Derivation.Published
import CharacterSheet.Proofs.Value.Literal

/-!
# Variables in directives

A number may be written as a variable wherever it stands in a directive. But the text behind the
word of a bound is taken from a copy in lower case, so a bound looks its variable up under the name
in lower case, while every other directive looks it up under the name as it is written.
-/

namespace CharacterSheet

/-! ## Directives -/

/-- The ways in which a number takes part in a sum. -/
inductive Directive where
  | plus
  | minus
  | times
  | dividedBy
  | override
  | atLeast
  | atMost
deriving DecidableEq, Repr

namespace Directive

/-- What is written before the number. -/
def sign : Directive → String
  | plus => ""
  | minus => "-"
  | times => "*"
  | dividedBy => "/"
  | override => "="
  | atLeast => "min "
  | atMost => "max "

/-- A directive with a number or a variable behind its sign. -/
def written (d : Directive) (operand : String) : String := d.sign ++ operand

/-- The part that the directive gives a number. -/
def token (d : Directive) (x : Binary64) : Token :=
  match d with
  | plus => .add x
  | minus => .add x.neg
  | times => .scale (.times x)
  | dividedBy => .scale (.dividedBy x)
  | override => .override x
  | atLeast => .atLeast x
  | atMost => .atMost x

/-- Whether the directive is a bound. -/
def isBound : Directive → Bool
  | atLeast | atMost => true
  | _ => false

/-- The name under which the directive looks up a variable. -/
def lookedUp (d : Directive) (name : String) : String :=
  match d with
  | atLeast | atMost => Text.lower name
  | _ => name

end Directive

/-! ## Texts with an at sign -/

namespace Text

/-- Trimming the end stops before the sign of variables. -/
theorem trimEndChars_append_at {s : List Char} (h : trimEndChars s = s) (front : List Char) :
    trimEndChars (front ++ '@' :: s) = front ++ '@' :: s := by
  refine List.rdropWhile_eq_self_iff.mpr fun hne => ?_
  rw [List.getLast_append_of_ne_nil _ (List.cons_ne_nil _ _)]
  cases s with
  | nil => decide
  | cons c s =>
    rw [List.getLast_cons (List.cons_ne_nil c s)]
    exact List.rdropWhile_eq_self_iff.mp h (List.cons_ne_nil c s)

variable {x : String}

/-- The characters of a trimmed name are trimmed. -/
theorem trimChars_toList (hx : trim x = x) : trimChars x.toList = x.toList := by
  rw [← String.toList_ofList (l := trimChars x.toList)]
  exact congrArg String.toList hx

/-- A trimmed name stays as it is behind an at sign and a front that does not begin with a blank. -/
theorem trim_append_at (hx : trim x = x) {front : String}
    (hfront : ∀ rest, trimStartChars (front.toList ++ '@' :: rest) = front.toList ++ '@' :: rest) :
    trim (front ++ ("@" ++ x)) = front ++ ("@" ++ x) := by
  have hlist : (front ++ ("@" ++ x)).toList = front.toList ++ '@' :: x.toList := by simp
  have hend : trimEndChars x.toList = x.toList := trimEndChars_of_trimChars (trimChars_toList hx)
  rw [trim, hlist, trimChars, hfront, trimEndChars_append_at hend, ← hlist, String.ofList_toList]

/-- A trimmed name is trimmed behind the sign of variables as well. -/
theorem trim_at (hx : trim x = x) : trim ("@" ++ x) = "@" ++ x := by
  have h : trim ("" ++ ("@" ++ x)) = "" ++ ("@" ++ x) := trim_append_at hx fun _ => rfl
  rwa [String.empty_append] at h

/-- A trimmed name is trimmed in small letters as well. -/
theorem trim_lower (hx : trim x = x) : trim (lower x) = lower x := by
  rw [trim, lower, String.toList_ofList, trimChars_lowerChars, trimChars_toList hx]

/-- A front in small letters and the name behind an at sign are lower-cased apart. -/
theorem lower_append_at {front : String} (hfront : ∀ c ∈ front.toList, IsSmall c) (x : String) :
    lower (front ++ ("@" ++ x)) = front ++ ("@" ++ lower x) := by
  have hbreak : IsBreak '@' := by decide
  have hlist : (front ++ ("@" ++ x)).toList = front.toList ++ '@' :: x.toList := by simp
  have hsmall : lowerChars front.toList = front.toList := lowerFrom_of_isSmall hfront
  rw [lower, hlist, lowerChars_append_break hbreak, hsmall, ← String.toList_inj]
  simp [lower]

end Text

/-- The signs of directives are written in small letters. -/
theorem Directive.isSmall_sign (d : Directive) : ∀ c ∈ d.sign.toList, Text.IsSmall c := by
  have hall : d.sign.toList.all (fun c => decide (Text.IsSmall c)) = true := by
    cases d <;> decide
  exact fun c hc => of_decide_eq_true (List.all_eq_true.mp hall c hc)

/-! ## Reading a variable -/

/-- The name of a variable is no number. -/
theorem Value.parseNumber?_eq_none {s : String} (htrim : Text.trim s = s)
    (h : ∃ rest, s.toList = '@' :: rest ∨ s.toList = '-' :: '@' :: rest) :
    parseNumber? s = none := by
  obtain ⟨rest, h | h⟩ := h
  · rw [parseNumber?, Text.trimChars_toList htrim, h]
    rfl
  · rw [parseNumber?, Text.trimChars_toList htrim, h]
    rfl

namespace Token

variable (lookup : Lookup) {x : String}

/-- The value of a variable. -/
def valueOf (name : String) : Except ResolveError Binary64 :=
  match lookup name with
  | some v => .ok v
  | none => .error (.unknownVariable name)

/-- A reference is the value of its variable. -/
theorem scalar_at (hx : Text.trim x = x) : scalar lookup ("@" ++ x) = valueOf lookup x := by
  have hnumber : Value.parseNumber? ("@" ++ x) = none :=
    Value.parseNumber?_eq_none (Text.trim_at hx) ⟨x.toList, .inl (by simp)⟩
  have hminus : Text.after? "-" ("@" ++ x) = none := Text.after?_eq_none (by simp)
  rw [scalar, hnumber, valueOf]
  simp only [hminus, Text.after?_append]
  cases lookup x <;> rfl

/-- A reference behind a minus is the negative value of its variable. -/
theorem scalar_minus_at (hx : Text.trim x = x) :
    scalar lookup ("-" ++ ("@" ++ x)) = (valueOf lookup x).map Binary64.neg := by
  have hnumber : Value.parseNumber? ("-" ++ ("@" ++ x)) = none :=
    Value.parseNumber?_eq_none (Text.trim_append_at hx fun _ => rfl) ⟨x.toList, .inr (by simp)⟩
  rw [scalar, hnumber, valueOf]
  simp only [Text.after?_append, Text.trim_at hx]
  cases lookup x <;> rfl

/-- A reference as an operand is the value of its variable. -/
theorem operand_at (hx : Text.trim x = x) (whole : String) :
    operand lookup ("@" ++ x) whole = valueOf lookup x := by
  delta operand
  rw [Text.trim_at hx, scalar_at lookup hx, valueOf]
  cases lookup x <;> rfl

/-- A directive with a number that it takes: every one but zero below a division. -/
def accept (d : Directive) (whole : String) (v : Binary64) : Except ResolveError Token :=
  if d = .dividedBy ∧ v.isZero = true then .error (.malformedDirective whole) else .ok (d.token v)

/-- A function that never fails may be bound. -/
theorem map_eq_bind {ε α β : Type} {f : α → β} {g : α → Except ε β} (h : ∀ a, g a = .ok (f a))
    (r : Except ε α) : r.map f = r.bind g := by
  cases r with
  | error e => rfl
  | ok a => exact (h a).symm

/-- What a directive with a variable behind it is read as. -/
theorem ofTrimmed_written (hx : Text.trim x = x) (d : Directive) :
    ofTrimmed lookup (d.written ("@" ++ x)) =
      (valueOf lookup (d.lookedUp x)).bind (accept d (d.written ("@" ++ x))) := by
  have hlower : Text.lower (d.written ("@" ++ x)) = d.written ("@" ++ Text.lower x) :=
    Text.lower_append_at d.isSmall_sign x
  have hoperand : ∀ whole, operand lookup ("@" ++ x) whole = valueOf lookup x :=
    operand_at lookup hx
  have hbound : ∀ whole,
      operand lookup ("@" ++ Text.lower x) whole = valueOf lookup (Text.lower x) :=
    operand_at lookup (Text.trim_lower hx)
  rw [ofTrimmed, hlower]
  -- each sign is found by its own test, and no test before it succeeds
  cases d <;>
    simp only [Directive.written, Directive.sign, Directive.lookedUp, Text.after?_append,
      Text.after?_eq_none, String.empty_append, String.reduceToList, String.toList_append,
      List.cons_append, List.nil_append, List.cons_prefix_cons, List.nil_prefix, Char.reduceEq,
      and_true, and_false, false_and, not_false_eq_true, hoperand, hbound, scalar_at lookup hx,
      scalar_minus_at lookup hx]
  case minus => cases valueOf lookup x <;> rfl
  case dividedBy =>
    cases valueOf lookup x with
    | error e => rfl
    | ok v =>
      by_cases hv : v.isZero = true
      · simp [accept, hv, Except.bind]
      · simp [accept, hv, Except.bind, Directive.token]
  all_goals exact map_eq_bind (fun _ => rfl) _

/-- A directive with a reference takes the value of the variable that it looks up. -/
theorem ofValue_written (hx : Text.trim x = x) (d : Directive) :
    ofValue lookup (.text (d.written ("@" ++ x))) =
      ((valueOf lookup (d.lookedUp x)).bind (accept d (d.written ("@" ++ x)))).map some := by
  have htrim : Text.trim (d.written ("@" ++ x)) = d.written ("@" ++ x) :=
    Text.trim_append_at hx (by cases d <;> exact fun _ => rfl)
  have hne : d.written ("@" ++ x) ≠ "" := by
    intro hempty
    have hlength := congrArg String.length hempty
    simp [Directive.written] at hlength
  rw [ofValue, htrim, if_neg hne, ofTrimmed_written lookup hx]

end Token

/-! ## Values in a list -/

namespace Value

/-- Wherever the value stands in a list, it takes part in the sum as the token does. -/
def StandsFor (lookup : Lookup) (value : Value) (token : Token) : Prop :=
  ∀ before behind t, tally lookup t (before ++ value :: behind) =
    (tally lookup t before).bind fun t => tally lookup (t.push token) behind

variable {lookup : Lookup}

/-- Values are tallied one after the other. -/
theorem tally_append (lookup : Lookup) (t : Tally) (before behind : List Value) :
    tally lookup t (before ++ behind) =
      (tally lookup t before).bind fun t => tally lookup t behind := by
  induction before generalizing t with
  | nil => rfl
  | cons value before ih =>
    rw [List.cons_append, tally, tally]
    cases Token.ofValue lookup value with
    | error e => rfl
    | ok read =>
      cases read with
      | none => exact ih t
      | some token => exact ih (t.push token)

/-- A value stands for the token that it is read as. -/
theorem standsFor_of_ofValue {value : Value} {token : Token}
    (h : Token.ofValue lookup value = .ok (some token)) : StandsFor lookup value token := by
  intro before behind t
  rw [tally_append]
  simp only [tally, h]

/-- A value that stands for a token resolves as the token does, at every place of a list. -/
theorem StandsFor.resolve_eq {value : Value} {token : Token} (h : StandsFor lookup value token)
    (before behind : List Value) :
    resolve lookup (before ++ value :: behind) =
      ((tally lookup Tally.empty before).bind fun t =>
        tally lookup (t.push token) behind).map Tally.result := by
  rw [resolve, h]

/-- A bound stands for a number only if it finds this number under the name in lower case. -/
theorem lookup_lower_of_standsFor {x : String} (hx : Text.trim x = x) {v : Binary64}
    {d : Directive} (hbound : d.isBound = true)
    (h : StandsFor lookup (.text (d.written ("@" ++ x))) (d.token v)) :
    lookup (Text.lower x) = some v := by
  -- the value is put into an empty sum, whose only token then shows what was looked up
  have hsingle : tally lookup Tally.empty [.text (d.written ("@" ++ x))] =
      .ok (Tally.empty.push (d.token v)) := h [] [] Tally.empty
  rw [tally, Token.ofValue_written lookup hx, Token.valueOf] at hsingle
  cases d <;> cases hbound
  all_goals
    simp only [Directive.lookedUp] at hsingle
    cases hfound : lookup (Text.lower x) with
    | none =>
      rw [hfound] at hsingle
      cases hsingle
    | some w =>
      rw [hfound] at hsingle
      cases hsingle
      rfl

/-- A variable behind a directive stands for its value, but behind a bound only if the name in lower
case has the same value. -/
theorem standsFor_written_iff {x : String} (hx : Text.trim x = x) {v : Binary64}
    (hv : lookup x = some v) {d : Directive} (hd : d = .dividedBy → v.isZero = false) :
    StandsFor lookup (.text (d.written ("@" ++ x))) (d.token v) ↔
      (d.isBound = true → lookup (Text.lower x) = some v) := by
  constructor
  · exact fun h hbound => lookup_lower_of_standsFor hx hbound h
  · intro hlower
    -- a bound looks up the lowered name, every other form the name as it is written
    have hfound : lookup (d.lookedUp x) = some v := by
      cases d with
      | atLeast => exact hlower rfl
      | atMost => exact hlower rfl
      | _ => exact hv
    refine standsFor_of_ofValue ?_
    rw [Token.ofValue_written lookup hx, Token.valueOf, hfound]
    simp only [Except.bind, Token.accept]
    rw [if_neg fun h => absurd h.2 (Bool.eq_false_iff.mp (hd h.1))]
    rfl

end Value

/-! ## Published variables -/

namespace Stats

/-- The names of the roll variables, without the at sign. -/
def rollNames : List String :=
  ["charLevel", "halfCharLevel", "heroicLevel", "STRMOD", "DEXMOD", "CONMOD", "INTMOD", "WISMOD",
    "CHAMOD", "fortDef", "refDef", "willDef", "flatFooted", "damageThreshold", "bab", "mab", "rab",
    "fab"]

/-- The names of the roll variables that have no capital letter. -/
def smallRollNames : List String := ["bab", "mab", "rab", "fab"]

/-- A block publishes its roll variables under the names that are listed. -/
theorem map_fst_rollVariables (s : Stats) :
    s.rollVariables.map Prod.fst = rollNames.map ("@" ++ ·) := by
  simp [rollVariables, rollNames]

/-- The names of roll variables are trimmed. -/
theorem trim_rollNames : ∀ x ∈ rollNames, Text.trim x = x := by decide

/-- Lower-casing leaves a name without a capital letter as it is. -/
theorem lower_smallRollNames : ∀ x ∈ smallRollNames, Text.lower x = x := by decide

/-- A name with a capital letter is not the name of a roll variable when it is in lower case. -/
theorem lower_rollNames : ∀ x ∈ rollNames, x ∉ smallRollNames → Text.lower x ∉ rollNames := by
  decide

/-- The name of a roll variable does not refer to another one. -/
theorem at_not_mem_rollNames : ∀ x ∈ rollNames, ∀ y ∈ rollNames,
    x ≠ "@" ++ y ∧ Text.lower x ≠ "@" ++ y := by decide

variable {s : Stats}
  (h : ∀ name value, s.vars[name]? = some value ↔ (name, value) ∈ s.rollVariables)

include h

/-- No other name is published. -/
theorem vars_eq_none {name : String} (hname : ∀ y ∈ rollNames, name ≠ "@" ++ y) :
    s.vars[name]? = none := by
  cases hvalue : s.vars[name]? with
  | none => rfl
  | some value =>
    have hmem : name ∈ s.rollVariables.map Prod.fst :=
      List.mem_map_of_mem ((h name value).mp hvalue)
    rw [map_fst_rollVariables, List.mem_map] at hmem
    obtain ⟨y, hy, heq⟩ := hmem
    exact absurd heq.symm (hname y hy)

/-- A published variable is looked up under its name, and in lower case only if that is its name. -/
theorem lookup_vars {x : String} {n : Int} (hx : ("@" ++ x, n) ∈ s.rollVariables) :
    Text.trim x = x ∧ s.vars.lookup x = some (Binary64.ofInt n) ∧
      (s.vars.lookup (Text.lower x) = some (Binary64.ofInt n) ↔ x ∈ smallRollNames) := by
  have hname : x ∈ rollNames := by
    have hmem : "@" ++ x ∈ s.rollVariables.map Prod.fst := List.mem_map_of_mem hx
    rw [map_fst_rollVariables, List.mem_map] at hmem
    obtain ⟨y, hy, heq⟩ := hmem
    rwa [(String.append_right_inj "@").mp heq] at hy
  have hfound : s.vars.lookup x = some (Binary64.ofInt n) := by
    rw [Variables.lookup, vars_eq_none h fun y hy => (at_not_mem_rollNames x hname y hy).1,
      (h ("@" ++ x) n).mpr hx]
    rfl
  refine ⟨trim_rollNames x hname, hfound, ?_⟩
  constructor
  -- a published name with a capital letter is not published in small letters as well
  · intro hlower
    by_contra hsmall
    have hnone : s.vars["@" ++ Text.lower x]? = none := by
      refine vars_eq_none h fun y hy heq => lower_rollNames x hname hsmall ?_
      rwa [(String.append_right_inj "@").mp heq]
    rw [Variables.lookup, vars_eq_none h fun y hy => (at_not_mem_rollNames x hname y hy).2,
      hnone] at hlower
    cases hlower
  · intro hsmall
    rw [lower_smallRollNames x hsmall, hfound]

end Stats

namespace Desk

variable {φ : Type} [DecidableEq φ]

/-- A variable of a trimmed name stands for its value behind every directive but the bounds, which
look it up under the name in lower case. So of the roll variables that a derived block publishes,
only those without a capital letter can be used in bounds. -/
theorem standsFor_variable_iff (desk : Desk φ) (c : Character) :
    (∀ (lookup : Lookup) (x : String) (v : Binary64) (d : Directive), Text.trim x = x →
      lookup x = some v → (d = .dividedBy → v.isZero = false) →
        (Value.StandsFor lookup (.text (d.written ("@" ++ x))) (d.token v) ↔
          (d.isBound = true → lookup (Text.lower x) = some v))) ∧
    ∀ (x : String) (n : Int) (d : Directive),
      ("@" ++ x, n) ∈ (desk.derive c).1.stats.rollVariables →
      (d = .dividedBy → (Binary64.ofInt n).isZero = false) →
        (Value.StandsFor (desk.derive c).1.stats.vars.lookup (.text (d.written ("@" ++ x)))
            (d.token (Binary64.ofInt n)) ↔
          (d.isBound = true → x ∈ Stats.smallRollNames)) := by
  refine ⟨fun lookup x v d hx hv hd => Value.standsFor_written_iff hx hv hd, ?_⟩
  intro x n d hmem hd
  have hvars : ∀ name value, (desk.derive c).1.stats.vars[name]? = some value ↔
      (name, value) ∈ (desk.derive c).1.stats.rollVariables :=
    fun _ _ => (desk.isComposed_derive c).getElem?_vars_iff
  obtain ⟨htrim, hfound, hlower⟩ := Stats.lookup_vars hvars hmem
  rw [Value.standsFor_written_iff htrim hfound hd, hlower]

/-- A soldier's attack bonus can be a lower bound, and a level can be subtracted. -/
theorem standsFor_variable_iff_soldier :
    let vars : Variables := .ofList [("@charLevel", (3 : Int))]
    Text.trim "charLevel" = "charLevel" ∧ vars.lookup "charLevel" = some (Binary64.ofInt 3) ∧
      Value.StandsFor vars.lookup (.text "-@charLevel") (.add (Binary64.ofInt 3).neg) ∧
      ("@bab", 1) ∈ (exact.derive (soldier [])).1.stats.rollVariables ∧
      Value.StandsFor (exact.derive (soldier [])).1.stats.vars.lookup (.text "min @bab")
        (.atLeast (Binary64.ofInt 1)) := by
  intro vars
  have htrim : Text.trim "charLevel" = "charLevel" := by decide +kernel
  have hlevel : vars.lookup "charLevel" = some (Binary64.ofInt 3) := by decide +kernel
  have hbab : ("@bab", 1) ∈ (exact.derive (soldier [])).1.stats.rollVariables := by decide +kernel
  obtain ⟨hdefined, hpublished⟩ := standsFor_variable_iff exact (soldier [])
  refine ⟨htrim, hlevel, ?_, hbab, ?_⟩
  · exact (hdefined vars.lookup "charLevel" _ .minus htrim hlevel nofun).mpr nofun
  · exact (hpublished "bab" 1 .atLeast hbab nofun).mpr fun _ => List.mem_cons_self

end Desk

/-- The level of a character stands for its value as a summand, but not as a lower bound. -/
theorem Value.not_standsFor_charLevel :
    let vars : Variables := .ofList [("@charLevel", (3 : Int))]
    vars.lookup "charLevel" = some (Binary64.ofInt 3) ∧
      (resolve vars.lookup [.text "min 3"]).toOption = some (Binary64.ofInt 3) ∧
      (resolve vars.lookup [.text "min @charLevel"]).toOption = none ∧
      ¬ StandsFor vars.lookup (.text "min @charLevel") (.atLeast (Binary64.ofInt 3)) := by
  refine ⟨by decide +kernel, by decide +kernel, by decide +kernel, fun h => ?_⟩
  have htrim : Text.trim "charLevel" = "charLevel" := by decide +kernel
  have hlower := lookup_lower_of_standsFor htrim (d := .atLeast) rfl h
  exact absurd hlower (by decide +kernel)

end CharacterSheet
