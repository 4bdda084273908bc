import CharacterSheet.Proofs.Value.SignedZero
import CharacterSheet.Proofs.Value.Variables
import Mathlib.Data.Nat.Digits.Defs

/-!
# Integers in directives

An integer written in decimal, by itself or behind a directive, is read as the number nearest to it,
unless it is beyond the range of numbers. A zero written with a minus sign keeps it, so what is read
is compared in plain form.
-/

namespace CharacterSheet

/-! ## Integer texts -/

namespace Decimal

/-- The integer that Latin digits write, behind one sign or none. -/
def integer? (s : List Char) : Option Int :=
  let (negative, digits) := sign s
  if digits.isEmpty || !digits.all isDigit then none
  else some (if negative then -(ofDigits digits : Int) else ofDigits digits)

variable {s digits : List Char} {n : Int}

theorem ne_sign_of_isDigit {c : Char} (h : isDigit c = true) : c ≠ '-' ∧ c ≠ '+' := by
  constructor
  · rintro rfl
    exact absurd h (by decide)
  · rintro rfl
    exact absurd h (by decide)

theorem sign_of_isDigit (h : ∀ c ∈ digits, isDigit c = true) : sign digits = (false, digits) := by
  cases digits with
  | nil => rfl
  | cons c rest =>
    obtain ⟨hminus, hplus⟩ := ne_sign_of_isDigit (h c List.mem_cons_self)
    simp [sign, hminus, hplus]

/-- An integer is written as digits, behind one sign or none. -/
theorem digits_of_integer? (h : integer? s = some n) :
    ∃ digits, digits ≠ [] ∧ (∀ c ∈ digits, isDigit c = true) ∧
      (s = '-' :: digits ∧ n = -(ofDigits digits : Int) ∨
        (s = '+' :: digits ∨ s = digits) ∧ n = ofDigits digits) := by
  simp only [integer?] at h
  split at h
  · cases h
  next hdigits =>
  simp only [Bool.or_eq_true, Bool.not_eq_true', List.isEmpty_iff, not_or, Bool.not_eq_false,
    List.all_eq_true] at hdigits
  refine ⟨(sign s).2, hdigits.1, hdigits.2, ?_⟩
  simp only [Option.some.injEq] at h
  revert h
  rw [sign.eq_def]
  split
  · exact fun h => .inl ⟨rfl, h.symm⟩
  · exact fun h => .inr ⟨.inl rfl, h.symm⟩
  · exact fun h => .inr ⟨.inr rfl, h.symm⟩

theorem read?_of_sign {negative : Bool} (hsign : sign s = (negative, digits)) (hne : digits ≠ [])
    (hdigits : ∀ c ∈ digits, isDigit c = true) :
    read? s = some ⟨negative, ofDigits digits, 0⟩ := by
  have htake : digits.takeWhile isDigit = digits := List.takeWhile_eq_self_iff.mpr hdigits
  have hdrop : digits.dropWhile isDigit = [] := List.dropWhile_eq_nil_iff.mpr hdigits
  simp [read?, hsign, htake, hdrop, hne, readExponent?]

/-- Three binary digits make less than a decimal one. -/
theorem digitCount_le {n bits places : Nat} (h : n < 2 ^ bits) (hbits : bits ≤ 3 * places)
    (hplaces : 0 < places) : digitCount n ≤ places := by
  refine Nat.toDigits_length 10 n places hplaces ?_
  calc n
    _ < 2 ^ bits := h
    _ ≤ 2 ^ (3 * places) := Nat.pow_le_pow_right (by decide) hbits
    _ = (2 ^ 3) ^ places := Nat.pow_mul 2 3 places
    _ ≤ 10 ^ places := Nat.pow_le_pow_left (by decide) places

/-- A decimal without places behind the point is rounded as the integer that it is, or both are
beyond the range of numbers. -/
theorem nearest_integer (negative : Bool) (m : Nat) :
    let n : Int := if negative then -(m : Int) else m
    (nearest ⟨negative, m, 0⟩).plain = (Binary64.ofInt n).plain ∨
      (nearest ⟨negative, m, 0⟩).isFinite = false ∧ (Binary64.ofInt n).isFinite = false := by
  intro n
  by_cases hzero : m = 0
  · subst hzero
    have hn : n = 0 := by simp [n]
    rw [hn, Binary64.ofInt_eq_finite (by decide)]
    exact .inl (Binary64.plain_zero negative)
  -- above 400 digits the text is refused unread, and no finite number is that large
  by_cases hcount : digitCount m ≤ 400
  · have hvalue : ((if negative then -(m : Rat) else m) : Rat) = (n : Rat) := by
      cases negative <;> simp [n]
    simp only [nearest, if_neg hzero, zpow_zero, mul_one, hvalue]
    rw [if_neg (by omega), if_neg (by omega)]
    exact .inl rfl
  · have habs : n.natAbs = m := by
      cases negative <;> simp [n]
    right
    constructor
    · simp only [nearest, if_neg hzero]
      rw [if_pos (by omega)]
      rfl
    · by_contra hfinite
      have hlt := Binary64.natAbs_lt_of_isFinite_ofInt (Bool.not_eq_false _ ▸ hfinite)
      exact hcount (digitCount_le (habs ▸ hlt) (by decide) (by decide))

end Decimal

/-- A text that writes an integer is read as the number nearest to it, if it has one. -/
theorem Value.parseNumber?_of_integer? {s : String} {n : Int}
    (h : Decimal.integer? (Text.trimChars s.toList) = some n) :
    (parseNumber? s).map Binary64.plain =
      if (Binary64.ofInt n).isFinite then some (Binary64.ofInt n).plain else none := by
  obtain ⟨digits, hne, hdigits, hs⟩ := Decimal.digits_of_integer? h
  have hplain := Decimal.read?_of_sign (Decimal.sign_of_isDigit hdigits) hne hdigits
  have haccept : ∀ {x y : Binary64}, x.plain = y.plain ∨ x.isFinite = false ∧ y.isFinite = false →
      (if x.isFinite then some x else none).map Binary64.plain =
        if y.isFinite then some y.plain else none := by
    rintro x y (heq | ⟨hx, hy⟩)
    · rw [← Binary64.isFinite_plain y, ← heq, Binary64.isFinite_plain]
      split <;> rfl
    · simp [hx, hy]
  -- with a minus, with a plus, and without a sign
  rcases hs with ⟨hs, rfl⟩ | ⟨hs | hs, rfl⟩
  · have hread : Decimal.read? ('-' :: digits) = _ := Decimal.read?_of_sign rfl hne hdigits
    refine Eq.trans ?_ (haccept (Decimal.nearest_integer true (Decimal.ofDigits digits)))
    simp [parseNumber?, hs, hread]
  · refine Eq.trans ?_ (haccept (Decimal.nearest_integer false (Decimal.ofDigits digits)))
    simp [parseNumber?, hs, hplain]
  · refine Eq.trans ?_ (haccept (Decimal.nearest_integer false (Decimal.ofDigits digits)))
    cases digits with
    | nil => exact absurd rfl hne
    | cons c rest =>
      obtain ⟨-, hplus⟩ := Decimal.ne_sign_of_isDigit (hdigits c List.mem_cons_self)
      simp [parseNumber?, hs, hplus, hplain]

/-! ## Directives -/

theorem Text.isSmall_of_isDigit {c : Char} (h : Decimal.isDigit c = true) : IsSmall c := by
  have hall : ∀ i ∈ List.range 10, IsSmall (Char.ofNat (0x30 + i)) := by decide
  simp only [Decimal.isDigit, Bool.and_eq_true, decide_eq_true_eq] at h
  have hfirst : 0x30 ≤ c.toNat := h.1
  have hlast : c.toNat ≤ 0x39 := h.2
  have hc := hall (c.toNat - 0x30) (List.mem_range.mpr (by omega))
  rwa [Nat.add_sub_cancel' hfirst, Char.ofNat_toNat] at hc

theorem Decimal.mem_of_integer? {s : List Char} {n : Int} (h : integer? s = some n) {c : Char}
    (hc : c ∈ s) : Text.IsSmall c ∧ (c = '-' ∨ c = '+' ∨ isDigit c = true) := by
  have hsigned : c = '-' ∨ c = '+' ∨ isDigit c = true := by
    obtain ⟨digits, -, hdigits, ⟨rfl, -⟩ | ⟨rfl | rfl, -⟩⟩ := digits_of_integer? h
    · exact (List.mem_cons.mp hc).imp_right fun hc => .inr (hdigits c hc)
    · exact .inr ((List.mem_cons.mp hc).imp_right (hdigits c))
    · exact .inr (.inr (hdigits c hc))
  refine ⟨?_, hsigned⟩
  rcases hsigned with rfl | rfl | hdigit
  · decide
  · decide
  · exact Text.isSmall_of_isDigit hdigit

/-- The directives that make whole numbers of whole numbers, written without another one's sign. -/
def Directive.keepsWhole : Directive → Bool
  | minus | dividedBy => false
  | _ => true

/-- The value writes the directive with the integer, or is null if there is none. Blanks may stand
around the number, and the word of a bound may be written in any case. -/
inductive Value.IsWhole : Value → Option (Directive × Int) → Prop where
  | null : IsWhole .null none
  | number {x : Binary64} {n : Int} (hx : x.plain = .finite n) (h : Binary64.ofInt n = .finite n) :
    IsWhole (.number x) (some (.plus, n))
  | text {s t : String} {d : Directive} {n : Int} (hd : d.keepsWhole = true)
    (hs : (if d.isBound then Text.lower (Text.trim s) else Text.trim s) = d.written t)
    (ht : Decimal.integer? (Text.trimChars t.toList) = some n) : IsWhole (.text s) (some (d, n))

/-- Why a text is no token whose number is beyond the range. -/
def Directive.refusal (d : Directive) (whole : String) : ResolveError :=
  if d = .plus then .notNumeric whole else .malformedDirective whole

/-- What is read, or refused, up to some form goes on to be so through a function that does not
look behind this form. -/
theorem map_map_eq_ite {ε α β γ δ : Type} {r : Except ε α} {form : α → γ} {form' : β → δ}
    {make : α → β} {fits : Bool} {a : α} {e : ε}
    (h : r.map form = if fits then .ok (form a) else .error e)
    (hmake : ∀ x, form x = form a → form' (make x) = form' (make a)) :
    (r.map make).map form' = if fits then .ok (form' (make a)) else .error e := by
  cases fits with
  | true =>
    cases r with
    | error e' => cases h
    | ok x => exact congrArg Except.ok (hmake x (Except.ok.inj h))
  | false =>
    cases r with
    | error e' => exact congrArg Except.error (Except.error.inj h)
    | ok x => cases h

namespace Token

variable (lookup : Lookup) {s t : String} {n : Int}

theorem scalar_integer (hs : Text.trimChars s.toList = s.toList)
    (h : Decimal.integer? s.toList = some n) :
    (scalar lookup s).map Binary64.plain =
      if (Binary64.ofInt n).isFinite then .ok (Binary64.ofInt n).plain
      else .error (.notNumeric s) := by
  have hat : '@' ∉ s.toList := fun hmem => absurd (Decimal.mem_of_integer? h hmem).2 (by decide)
  have hnumber := Value.parseNumber?_of_integer? (s := s) (by rwa [hs])
  rw [scalar]
  by_cases hfinite : (Binary64.ofInt n).isFinite = true
  · rw [if_pos hfinite] at hnumber ⊢
    obtain ⟨x, hx, hplain⟩ := Option.map_eq_some_iff.mp hnumber
    rw [hx, ← hplain]
    rfl
  -- what is no number may still be a name or a negated one, if it has an at sign; it has none
  · rw [if_neg hfinite] at hnumber ⊢
    rw [Option.map_eq_none_iff.mp hnumber]
    cases hminus : Text.after? "-" s with
    | none => simp only [Text.after?_at hat, Except.map]
    | some rest =>
      have hrest : '@' ∉ (Text.trim rest).toList :=
        Text.not_mem_trim (Text.not_mem_of_after? hminus hat)
      simp only [Text.after?_at hrest, Except.map]

variable (ht : Decimal.integer? (Text.trimChars t.toList) = some n)

include ht

theorem operand_integer (whole : String) : (operand lookup t whole).map Binary64.plain =
    if (Binary64.ofInt n).isFinite then .ok (Binary64.ofInt n).plain
    else .error (.malformedDirective whole) := by
  have htrim : (Text.trim t).toList = Text.trimChars t.toList := String.toList_ofList
  have hscalar := scalar_integer lookup (s := Text.trim t)
    (by rw [htrim, Text.trimChars_trimChars]) (by rwa [htrim])
  delta operand
  by_cases hfinite : (Binary64.ofInt n).isFinite = true
  · rw [if_pos hfinite] at hscalar ⊢
    cases hread : scalar lookup (Text.trim t) with
    | error e => rw [hread] at hscalar; cases hscalar
    | ok x => rw [hread] at hscalar; exact hscalar
  · rw [if_neg hfinite] at hscalar ⊢
    cases hread : scalar lookup (Text.trim t) with
    | error e =>
      rw [hread] at hscalar
      cases hscalar
      rfl
    | ok x => rw [hread] at hscalar; cases hscalar

/-- An integer by itself has no sign or word of a directive before it. -/
theorem ofTrimmed_integer (hs : Text.trimChars t.toList = t.toList) :
    ofTrimmed lookup t = (scalar lookup t).map .add := by
  rw [hs] at ht
  have hchars : ∀ c ∈ t.toList, Text.IsSmall c ∧ (c = '-' ∨ c = '+' ∨ Decimal.isDigit c = true) :=
    fun c hc => Decimal.mem_of_integer? ht hc
  have hlower : Text.lower t = t := by
    have hsmall : Text.lowerChars t.toList = t.toList :=
      Text.lowerFrom_of_isSmall fun c hc => (hchars c hc).1
    rw [Text.lower, hsmall, String.ofList_toList]
  -- none of the other beginnings stands before a sign or a digit
  have hnone : ∀ beginning : String,
      (∃ c ∈ beginning.toList, ¬ (c = '-' ∨ c = '+' ∨ Decimal.isDigit c = true)) →
      Text.after? beginning t = none := by
    rintro beginning ⟨c, hc, hsign⟩
    exact Text.after?_eq_none fun hinit => hsign (hchars c (hinit.subset hc)).2
  rw [ofTrimmed, hlower]
  simp only [hnone "*" ⟨'*', by decide⟩, hnone "/" ⟨'/', by decide⟩, hnone "=" ⟨'=', by decide⟩,
    hnone "min " ⟨'m', by decide⟩, hnone "max " ⟨'m', by decide⟩]

omit ht in
/-- Behind a sign or the word of a bound stands its operand. -/
theorem ofTrimmed_bound {u : String} {d : Directive} (hd : d.keepsWhole = true) (hplus : d ≠ .plus)
    (hs : (if d.isBound then Text.lower u else u) = d.written t) :
    ofTrimmed lookup u = (operand lookup t u).map d.token := by
  -- no sign stands before the word of a bound, or it would stand there in lower case too
  have hnone : ∀ (beginning : String) (b : Char), beginning.toList = [b] → Text.IsBreak b →
      (Text.lower u).toList.head? ≠ some b → Text.after? beginning u = none := by
    intro beginning b hbeginning hb hhead
    refine Text.after?_eq_none fun ⟨rest, hinit⟩ => hhead ?_
    rw [hbeginning] at hinit
    rw [Text.lower, String.toList_ofList, ← hinit, List.singleton_append,
      ← List.nil_append (b :: _), Text.lowerChars_append_break hb]
    rfl
  cases d with
  | minus => cases hd
  | dividedBy => cases hd
  | plus => exact absurd rfl hplus
  | times =>
    have hu : u = "*" ++ t := hs
    rw [ofTrimmed, hu, Text.after?_append]
    rfl
  | override =>
    have hu : u = "=" ++ t := hs
    have hstar : Text.after? "*" ("=" ++ t) = none := Text.after?_eq_none (by simp)
    have hslash : Text.after? "/" ("=" ++ t) = none := Text.after?_eq_none (by simp)
    rw [ofTrimmed, hu, hstar, hslash, Text.after?_append]
    rfl
  | atLeast =>
    have hlower : Text.lower u = "min " ++ t := hs
    rw [ofTrimmed, hnone "*" '*' rfl (by decide) (by simp [hlower]),
      hnone "/" '/' rfl (by decide) (by simp [hlower]),
      hnone "=" '=' rfl (by decide) (by simp [hlower]), hlower, Text.after?_append]
    rfl
  | atMost =>
    have hlower : Text.lower u = "max " ++ t := hs
    have hmin : Text.after? "min " ("max " ++ t) = none := Text.after?_eq_none (by simp)
    rw [ofTrimmed, hnone "*" '*' rfl (by decide) (by simp [hlower]),
      hnone "/" '/' rfl (by decide) (by simp [hlower]),
      hnone "=" '=' rfl (by decide) (by simp [hlower]), hlower, hmin, Text.after?_append]
    rfl

theorem ofTrimmed_of_isWhole {u : String} {d : Directive} (hd : d.keepsWhole = true)
    (hu : Text.trimChars u.toList = u.toList)
    (hs : (if d.isBound then Text.lower u else u) = d.written t) :
    (ofTrimmed lookup u).map plain =
      if (Binary64.ofInt n).isFinite then .ok (d.token (Binary64.ofInt n)).plain
      else .error (d.refusal u) := by
  -- only the sign of a zero may differ, and `plain` forgets it
  have htoken : ∀ x : Binary64, x.plain = (Binary64.ofInt n).plain →
      (d.token x).plain = (d.token (Binary64.ofInt n)).plain := by
    intro x hx
    cases d <;> first | cases hd; done | simp only [Directive.token, plain, Scaling.plain, hx]
  by_cases hplus : d = .plus
  · subst hplus
    have hplain : u = t := by simpa [Directive.written, Directive.sign, Directive.isBound] using hs
    subst hplain
    rw [ofTrimmed_integer lookup ht hu]
    exact map_map_eq_ite (scalar_integer lookup hu (by rwa [hu] at ht)) htoken
  · rw [ofTrimmed_bound lookup hd hplus hs, Directive.refusal, if_neg hplus]
    exact map_map_eq_ite (operand_integer lookup ht u) htoken

end Token

namespace Value

variable (lookup : Lookup)

/-- A text that writes a directive with an integer is read exactly if there is a number nearest to
the integer. -/
theorem ofValue_text_of_isWhole {s : String} {d : Directive} {n : Int}
    (h : IsWhole (.text s) (some (d, n))) :
    (Token.ofValue lookup (.text s)).map (Option.map Token.plain) =
      if (Binary64.ofInt n).isFinite then .ok (some (d.token (Binary64.ofInt n)).plain)
      else .error (d.refusal (Text.trim s)) := by
  cases h with
  | @text _ t _ _ hd hs ht =>
    have hne : Text.trim s ≠ "" := by
      intro hempty
      have hwritten : d.written t = "" := by
        rw [← hs, hempty]
        split <;> rfl
      have ht' : t.toList = [] := by
        have hlist := congrArg String.toList hwritten
        rw [Directive.written, String.toList_append] at hlist
        exact (List.append_eq_nil_iff.mp hlist).2
      rw [ht'] at ht
      cases ht
    have htrim : Text.trimChars (Text.trim s).toList = (Text.trim s).toList := by
      rw [Text.trim, String.toList_ofList, Text.trimChars_trimChars]
    rw [Token.ofValue]
    simp only [if_neg hne]
    exact map_map_eq_ite (Token.ofTrimmed_of_isWhole lookup ht hd htrim hs)
      fun token htoken => congrArg some htoken

/-- A value that writes a directive with an integer has the token that takes the number nearest to
it. -/
theorem ofValue_of_isWhole {v : Value} {part : Option (Directive × Int)}
    (h : v.IsWhole part) (hfinite : ∀ p ∈ part, (Binary64.ofInt p.2).isFinite = true) :
    (Token.ofValue lookup v).map (Option.map Token.plain) =
      .ok (part.map fun p => (p.1.token (Binary64.ofInt p.2)).plain) := by
  cases hv : h with
  | null => rfl
  | number hx hn => simp [Token.ofValue, Directive.token, Token.plain, Except.map, hx, hn]
  | @text s t d n hd hs ht =>
    have hn : (Binary64.ofInt n).isFinite = true := hfinite (d, n) rfl
    rw [ofValue_text_of_isWhole lookup (.text hd hs ht), if_pos hn]
    rfl

end Value

end CharacterSheet
