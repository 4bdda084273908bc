import CharacterSheet.Proofs.Requirement.Parts
import CharacterSheet.Proofs.Text.Numeral

/-!
# Clauses that state a number

A clause can state the least score of an ability, the least base attack bonus, or the greatest
character level. Each has a shape of its own around the digits. The shape and the digits can be told
from the clause, whatever script the digits are of; only Latin ones write a number.
-/

namespace CharacterSheet.Clause

open Text

/-! ## Written numbers -/

/-- Latin digits that write a number, which is not too large. -/
structure Writes (digits : List Char) (n : Int32) : Prop where
  ne_nil : digits ≠ []
  latin : ∀ c ∈ digits, Decimal.isDigit c = true
  le_max : Decimal.ofDigits digits ≤ 2147483647
  value : n.toInt = Decimal.ofDigits digits

/-- Digits are read as the number that they write. -/
theorem number?_eq_some_iff {digits : List Char} {n : Int32} :
    number? digits = some n ↔ Writes digits n := by
  rw [number?, Option.map_eq_some_iff]
  constructor
  · rintro ⟨m, hread, rfl⟩
    obtain ⟨hne, hlatin, hmax, rfl⟩ := natUpTo?_eq_some_iff.mp hread
    exact ⟨hne, hlatin, hmax, Int32.toInt_ofNat_of_lt (by omega)⟩
  · intro h
    have hmax := h.le_max
    refine ⟨_, natUpTo?_eq_some_iff.mpr ⟨h.ne_nil, h.latin, hmax, rfl⟩, ?_⟩
    rw [← Int32.toInt_inj, h.value]
    exact Int32.toInt_ofNat_of_lt (by omega)

/-- One or more decimal digits of any script. -/
structure IsNumeral (digits : List Char) : Prop where
  ne_nil : digits ≠ []
  decimal : ∀ c ∈ digits, isDecimalDigit c = true

/-- What writes a number is a numeral. -/
theorem Writes.isNumeral {digits : List Char} {n : Int32} (h : Writes digits n) :
    IsNumeral digits :=
  ⟨h.ne_nil, fun c hc => isDecimalDigit_of_isDigit (h.latin c hc)⟩

/-- A numeral has nothing but digits in it. -/
theorem IsNumeral.not_mem {digits : List Char} (h : IsNumeral digits) {c : Char}
    (hc : isDecimalDigit c = false) : c ∉ digits := by
  intro hmem
  rw [h.decimal c hmem] at hc
  cases hc

/-! ## The shapes of clauses with a number -/

/-- What a clause can state a number of. -/
inductive Measure where
  | ability (a : Ability)
  | baseAttackBonus
  | characterLevel

namespace Measure

/-- The requirement that a number states. -/
def asks : Measure → Int32 → Requirement
  | ability a => .abilityAtLeast a
  | baseAttackBonus => .baseAttackBonus
  | characterLevel => .characterLevel

/-- A requirement tells its measure and its number. -/
theorem asks_inj {measure measure' : Measure} {n n' : Int32}
    (h : measure.asks n = measure'.asks n') : measure = measure' ∧ n = n' := by
  cases measure <;> cases measure' <;> cases h <;> exact ⟨rfl, rfl⟩

/-- An optional plus sign. -/
def IsSign (sign : List Char) : Prop := sign = [] ∨ sign = ['+']

/-- The shape in which a normal form states a number in digits: the name of an ability or its
abbreviation, blanks, the digits and an optional plus sign; `base attack bonus`, optional blanks, an
optional plus sign and the digits; or the digits with the ending of an ordinal number, blanks and
`character level`. -/
def IsStated (digits s : List Char) : Measure → Prop
  | ability a => ∃ name gap sign, (name = a.name ∨ name = a.abbreviation) ∧
      gap ≠ [] ∧ (∀ c ∈ gap, isBlank c = true) ∧ IsSign sign ∧
      s = name.toList ++ (gap ++ (digits ++ sign))
  | baseAttackBonus => ∃ gap sign, (∀ c ∈ gap, isBlank c = true) ∧ IsSign sign ∧
      s = "base attack bonus".toList ++ (gap ++ (sign ++ digits))
  | characterLevel => ∃ ending gap, ending ∈ ordinalEndings ∧
      gap ≠ [] ∧ (∀ c ∈ gap, isBlank c = true) ∧
      s = digits ++ (ending ++ (gap ++ "character level".toList))

/-! ## A shape determines what is stated -/

/-- The names of an ability are words of letters, and the full name has all of these. -/
theorem ability_names (a : Ability) {name : String}
    (h : name = a.name ∨ name = a.abbreviation) :
    name.toList ⊆ a.name.toList ∧
      ∀ c ∈ name.toList, isBlank c = false ∧ isDecimalDigit c = false := by
  rcases h with rfl | rfl <;> cases a <;> decide

/-- No two abilities share a name. -/
theorem ability_eq_of_name {a a' : Ability} {name : String}
    (h : name = a.name ∨ name = a.abbreviation)
    (h' : name = a'.name ∨ name = a'.abbreviation) : a = a' := by
  rcases h with rfl | rfl <;> cases a <;> cases a' <;> first | rfl | exact absurd h' (by decide)

/-- The endings of ordinal numbers have no digit in them. -/
theorem ordinalEndings_letters : ∀ ending ∈ ordinalEndings,
    ∀ c ∈ ending, isDecimalDigit c = false := by decide

/-- A sign is no digit. -/
theorem IsSign.filter_eq_nil {sign : List Char} (h : IsSign sign) :
    sign.filter isDecimalDigit = [] := by
  rcases h with rfl | rfl <;> decide

/-- The digits are all the digits of the clause. -/
theorem IsStated.filter_eq {measure : Measure} {digits s : List Char}
    (h : measure.IsStated digits s) (hdigits : IsNumeral digits) :
    s.filter isDecimalDigit = digits := by
  -- everything but the numeral is free of digits: names, endings, blanks and the sign
  have hself : digits.filter isDecimalDigit = digits := List.filter_eq_self.mpr hdigits.decimal
  have hblanks : ∀ {gap : List Char}, (∀ c ∈ gap, isBlank c = true) →
      gap.filter isDecimalDigit = [] := fun hgap =>
    filter_isDecimalDigit_eq_nil fun c hc => isDecimalDigit_of_isBlank (hgap c hc)
  cases measure with
  | ability a =>
    obtain ⟨name, gap, sign, hname, -, hgap, hsign, rfl⟩ := h
    have hletters := filter_isDecimalDigit_eq_nil fun c hc => ((ability_names a hname).2 c hc).2
    simp [hself, hblanks hgap, hletters, hsign.filter_eq_nil]
  | baseAttackBonus =>
    obtain ⟨gap, sign, hgap, hsign, rfl⟩ := h
    have hletters : "base attack bonus".toList.filter isDecimalDigit = [] := by decide
    simp only [List.filter_append, hself, hblanks hgap, hletters, hsign.filter_eq_nil,
      List.nil_append]
  | characterLevel =>
    obtain ⟨ending, gap, hending, -, hgap, rfl⟩ := h
    have hletters : "character level".toList.filter isDecimalDigit = [] := by decide
    have hordinal := filter_isDecimalDigit_eq_nil (ordinalEndings_letters ending hending)
    simp only [List.filter_append, hself, hblanks hgap, hletters, hordinal, List.append_nil]

/-- The first word of a clause that states a number: the name of an ability, `base`, or one that
has a digit in it. -/
def Opens (word : List Char) : Measure → Prop
  | ability a => ∃ name, (name = a.name ∨ name = a.abbreviation) ∧ word = name.toList
  | baseAttackBonus => word = "base".toList
  | characterLevel => ∃ c ∈ word, isDecimalDigit c = true

/-- The first word of a text ends where the first gap begins. -/
theorem takeWhile_append_blank {word gap : List Char} (hword : ∀ c ∈ word, isBlank c = false)
    (hne : gap ≠ []) (hgap : ∀ c ∈ gap, isBlank c = true) (s : List Char) :
    (word ++ (gap ++ s)).takeWhile (fun c => !isBlank c) = word := by
  obtain ⟨c, gap, rfl⟩ := List.exists_cons_of_ne_nil hne
  have hc : isBlank c = true := hgap c List.mem_cons_self
  rw [List.takeWhile_append_of_pos fun c hc => by rw [hword c hc]; rfl, List.cons_append,
    List.takeWhile_cons_of_neg (by rw [hc]; exact Bool.false_ne_true), List.append_nil]

/-- A clause on a measure opens with a word for it. -/
theorem IsStated.opens {measure : Measure} {digits s : List Char}
    (h : measure.IsStated digits s) (hdigits : IsNumeral digits) :
    measure.Opens (s.takeWhile fun c => !isBlank c) := by
  cases measure with
  | ability a =>
    obtain ⟨name, gap, sign, hname, hne, hgap, -, rfl⟩ := h
    have hletters := fun c hc => ((ability_names a hname).2 c hc).1
    exact ⟨name, hname, takeWhile_append_blank hletters hne hgap _⟩
  | baseAttackBonus =>
    obtain ⟨gap, sign, -, -, rfl⟩ := h
    have hbase : ∀ c ∈ "base".toList, isBlank c = false := by decide
    have hspace : ∀ c ∈ [' '], isBlank c = true := by decide
    exact takeWhile_append_blank hbase (List.cons_ne_nil _ _) hspace
      ("attack bonus".toList ++ (gap ++ (sign ++ digits)))
  | characterLevel =>
    obtain ⟨ending, gap, -, -, -, rfl⟩ := h
    obtain ⟨c, rest, rfl⟩ := List.exists_cons_of_ne_nil hdigits.ne_nil
    have hc : isDecimalDigit c = true := hdigits.decimal c List.mem_cons_self
    refine ⟨c, ?_, hc⟩
    rw [List.cons_append,
      List.takeWhile_cons_of_pos (by rw [isBlank_of_isDecimalDigit hc]; rfl)]
    exact List.mem_cons_self

/-- The first word tells the measure. -/
theorem Opens.unique {word : List Char} {measure measure' : Measure} (h : measure.Opens word)
    (h' : measure'.Opens word) : measure = measure' := by
  -- neither the names of abilities nor `base` have a digit, and `base` is no such name
  have hname : ∀ {a : Ability} {name : String}, (name = a.name ∨ name = a.abbreviation) →
      name.toList ≠ "base".toList ∧ ¬ ∃ c ∈ name.toList, isDecimalDigit c = true := by
    rintro a name (rfl | rfl) <;> cases a <;> decide
  have hbase : ¬ ∃ c ∈ "base".toList, isDecimalDigit c = true := by decide
  cases measure with
  | ability a =>
    obtain ⟨name, ha, rfl⟩ := h
    cases measure' with
    | ability a' =>
      obtain ⟨name', ha', heq⟩ := h'
      rw [String.toList_inj] at heq
      subst heq
      rw [ability_eq_of_name ha ha']
    | baseAttackBonus => exact absurd h' (hname ha).1
    | characterLevel => exact absurd h' (hname ha).2
  | baseAttackBonus =>
    cases h
    cases measure' with
    | ability a' =>
      obtain ⟨name, ha', heq⟩ := h'
      exact absurd heq.symm (hname ha').1
    | baseAttackBonus => rfl
    | characterLevel => exact absurd h' hbase
  | characterLevel =>
    cases measure' with
    | ability a' =>
      obtain ⟨name, ha', rfl⟩ := h'
      exact absurd h (hname ha').2
    | baseAttackBonus =>
      cases h'
      exact absurd h hbase
    | characterLevel => rfl

/-- A clause states at most one number of one thing. -/
theorem IsStated.unique {measure measure' : Measure} {digits digits' s : List Char}
    (h : measure.IsStated digits s) (h' : measure'.IsStated digits' s)
    (hdigits : IsNumeral digits) (hdigits' : IsNumeral digits') :
    measure = measure' ∧ digits = digits' :=
  ⟨(h.opens hdigits).unique (h'.opens hdigits'),
    (h.filter_eq hdigits).symm.trans (h'.filter_eq hdigits')⟩

/-! ## The characters of such a clause -/

/-- The letters of the words that state a number. -/
def letters : Measure → List Char
  | ability a => a.name.toList
  | baseAttackBonus => "base attack bonus".toList
  | characterLevel => ordinalEndings.flatten ++ "character level".toList

/-- A clause on a measure is made of its letters, blanks, digits and a sign. -/
theorem IsStated.mem_cases {measure : Measure} {digits s : List Char}
    (h : measure.IsStated digits s) (hdigits : IsNumeral digits) {c : Char} (hc : c ∈ s) :
    c ∈ measure.letters ∨ isBlank c = true ∨ isDecimalDigit c = true ∨ c = '+' := by
  have hsigned : ∀ {sign : List Char}, IsSign sign → c ∈ sign → c = '+' := by
    rintro sign (rfl | rfl) hc
    · cases hc
    · exact List.mem_singleton.mp hc
  -- the letters come from the name and the ending, the rest is blank, digit or sign
  cases measure with
  | ability a =>
    obtain ⟨name, gap, sign, hname, -, hgap, hsign, rfl⟩ := h
    simp only [List.mem_append] at hc
    rcases hc with hc | hc | hc | hc
    · exact .inl ((ability_names a hname).1 hc)
    · exact .inr (.inl (hgap c hc))
    · exact .inr (.inr (.inl (hdigits.decimal c hc)))
    · exact .inr (.inr (.inr (hsigned hsign hc)))
  | baseAttackBonus =>
    obtain ⟨gap, sign, hgap, hsign, rfl⟩ := h
    rw [List.mem_append, List.mem_append, List.mem_append] at hc
    rcases hc with hc | hc | hc | hc
    · exact .inl hc
    · exact .inr (.inl (hgap c hc))
    · exact .inr (.inr (.inr (hsigned hsign hc)))
    · exact .inr (.inr (.inl (hdigits.decimal c hc)))
  | characterLevel =>
    obtain ⟨ending, gap, hending, -, hgap, rfl⟩ := h
    rw [List.mem_append, List.mem_append, List.mem_append] at hc
    rcases hc with hc | hc | hc | hc
    · exact .inr (.inr (.inl (hdigits.decimal c hc)))
    · exact .inl (List.mem_append_left _ (List.mem_flatten_of_mem hending hc))
    · exact .inr (.inl (hgap c hc))
    · exact .inl (List.mem_append_right _ hc)

end Measure

/-! ## The forms that read a number -/

/-- What stands behind an optional plus sign at the beginning. -/
theorem exists_sign_before (s : List Char) :
    ∃ sign, Measure.IsSign sign ∧ s = sign ++ (['+'].isPrefixOf? s).getD s := by
  cases hstart : ['+'].isPrefixOf? s with
  | none => exact ⟨[], .inl rfl, rfl⟩
  | some rest =>
    rw [List.isPrefixOf?_eq_some_iff_append_eq] at hstart
    exact ⟨['+'], .inr rfl, hstart.symm⟩

/-- A text is a sign behind what is left without it. -/
theorem exists_sign_behind (s : List Char) :
    ∃ sign, Measure.IsSign sign ∧ s = (['+'].isSuffixOf? s).getD s ++ sign := by
  cases hend : ['+'].isSuffixOf? s with
  | none => exact ⟨[], .inl rfl, (List.append_nil s).symm⟩
  | some front =>
    rw [List.isSuffixOf?_eq_some_iff_append_eq] at hend
    exact ⟨['+'], .inr rfl, hend.symm⟩

/-- A sign before digits can be removed. -/
theorem getD_sign_before {digits sign : List Char} (hsign : Measure.IsSign sign)
    (h : '+' ∉ digits) : (['+'].isPrefixOf? (sign ++ digits)).getD (sign ++ digits) = digits := by
  rcases hsign with rfl | rfl
  · rw [List.nil_append]
    cases hstart : ['+'].isPrefixOf? digits with
    | none => rfl
    | some rest =>
      rw [List.isPrefixOf?_eq_some_iff_append_eq] at hstart
      simp [← hstart] at h
  · rw [List.isPrefixOf?_eq_some_iff_append_eq.mpr rfl, Option.getD_some]

/-- A sign behind digits can be removed. -/
theorem getD_sign_behind {digits sign : List Char} (hsign : Measure.IsSign sign)
    (h : '+' ∉ digits) : (['+'].isSuffixOf? (digits ++ sign)).getD (digits ++ sign) = digits := by
  rcases hsign with rfl | rfl
  · rw [List.append_nil]
    cases hend : ['+'].isSuffixOf? digits with
    | none => rfl
    | some front =>
      rw [List.isSuffixOf?_eq_some_iff_append_eq] at hend
      simp [← hend] at h
  · rw [List.isSuffixOf?_eq_some_iff_append_eq.mpr rfl, Option.getD_some]

/-- The forms that hold a number, in the order in which they are tried. -/
def numeric? (s : List Char) : Option Requirement :=
  ability? s <|> baseAttackBonus? s <|> characterLevel? s

/-- A requirement that a clause states with a number. -/
def IsStatedBy (s : List Char) (r : Requirement) : Prop :=
  ∃ (measure : Measure) (digits : List Char) (n : Int32),
    measure.IsStated digits s ∧ Writes digits n ∧ r = measure.asks n

/-- What is read as the score of an ability states it. -/
theorem ability?_eq_some {s : List Char} {r : Requirement} (h : ability? s = some r) :
    IsStatedBy s r := by
  obtain ⟨a, -, h⟩ := List.exists_of_findSome?_eq_some h
  obtain ⟨name, hname, h⟩ := List.exists_of_findSome?_eq_some h
  simp only [Option.bind_eq_bind, Option.bind_eq_some_iff,
    List.isPrefixOf?_eq_some_iff_append_eq] at h
  obtain ⟨behind, rfl, rest, hgap, n, hread, h⟩ := h
  cases h
  obtain ⟨gap, hne, hblank, rfl, -⟩ := blanks?_eq_some_iff.mp hgap
  obtain ⟨sign, hsign, hrest⟩ := exists_sign_behind rest
  refine ⟨.ability a, _, n, ?_, number?_eq_some_iff.mp hread, rfl⟩
  exact ⟨name, gap, sign, by simpa using hname, hne, hblank, hsign, by rw [← hrest]⟩

/-- What is read as a base attack bonus states it. -/
theorem baseAttackBonus?_eq_some {s : List Char} {r : Requirement}
    (h : baseAttackBonus? s = some r) : IsStatedBy s r := by
  simp only [baseAttackBonus?, Option.bind_eq_bind, Option.bind_eq_some_iff,
    List.isPrefixOf?_eq_some_iff_append_eq] at h
  obtain ⟨behind, rfl, n, hread, h⟩ := h
  cases h
  obtain ⟨sign, hsign, hrest⟩ := exists_sign_before (trimStartChars behind)
  refine ⟨.baseAttackBonus, _, n, ?_, number?_eq_some_iff.mp hread, rfl⟩
  refine ⟨behind.takeWhile isBlank, sign, fun c hc => List.mem_takeWhile_imp hc, hsign, ?_⟩
  rw [← hrest, trimStartChars, List.takeWhile_append_dropWhile]

/-- What is read as a character level states it. -/
theorem characterLevel?_eq_some {s : List Char} {r : Requirement}
    (h : characterLevel? s = some r) : IsStatedBy s r := by
  simp only [characterLevel?, Option.bind_eq_bind, Option.bind_eq_some_iff] at h
  obtain ⟨n, hread, rest, hordinal, h⟩ := h
  split at h
  · next hgap =>
    cases h
    obtain ⟨ending, hending, hrest⟩ := List.exists_of_findSome?_eq_some hordinal
    rw [List.isPrefixOf?_eq_some_iff_append_eq] at hrest
    obtain ⟨gap, hne, hblank, rfl, -⟩ := blanks?_eq_some_iff.mp hgap
    refine ⟨.characterLevel, _, n, ?_, number?_eq_some_iff.mp hread, rfl⟩
    exact ⟨ending, gap, hending, hne, hblank,
      by rw [hrest, List.takeWhile_append_dropWhile]⟩
  · cases h

/-- What is read as a clause with a number states it. -/
theorem numeric?_eq_some {s : List Char} {r : Requirement} (h : numeric? s = some r) :
    IsStatedBy s r := by
  simp only [numeric?, Option.orElse_eq_orElse, Option.orElse_eq_or, Option.or_eq_some_iff] at h
  rcases h with h | ⟨-, h | ⟨-, h⟩⟩
  · exact ability?_eq_some h
  · exact baseAttackBonus?_eq_some h
  · exact characterLevel?_eq_some h

/-- A numeral does not begin with a blank. -/
theorem IsNumeral.trimStartChars_append {digits : List Char} (h : IsNumeral digits)
    (s : List Char) : trimStartChars (digits ++ s) = digits ++ s := by
  obtain ⟨c, rest, rfl⟩ := List.exists_cons_of_ne_nil h.ne_nil
  have hc : isBlank c = false := isBlank_of_isDecimalDigit (h.decimal c List.mem_cons_self)
  rw [List.cons_append, trimStartChars, List.dropWhile_cons_of_neg (by simp [hc])]

/-- The digits of an ordinal number end where its ending begins, and only this ending stands
there. -/
theorem ordinalEndings_append : ∀ ending ∈ ordinalEndings, ∀ rest : List Char,
    (ending ++ rest).takeWhile Decimal.isDigit = [] ∧
      (ending ++ rest).dropWhile Decimal.isDigit = ending ++ rest ∧
      ordinalEndings.findSome? (·.isPrefixOf? (ending ++ rest)) = some rest := by
  intro ending hending rest
  simp only [ordinalEndings, List.mem_cons, List.not_mem_nil, or_false] at hending
  rcases hending with rfl | rfl | rfl | rfl <;>
    simp [ordinalEndings, List.isPrefixOf?, Decimal.isDigit]

section Read

variable {digits s : List Char} {n : Int32}

/-- A clause that states the score of an ability is read. -/
theorem isSome_ability? {a : Ability} (h : (Measure.ability a).IsStated digits s)
    (hn : Writes digits n) : (ability? s).isSome = true := by
  obtain ⟨name, gap, sign, hname, hne, hgap, hsign, rfl⟩ := h
  have ha : a ∈ Ability.all := by cases a <;> decide
  have hstart : name.toList.isPrefixOf? (name.toList ++ (gap ++ (digits ++ sign))) =
      some (gap ++ (digits ++ sign)) := List.isPrefixOf?_eq_some_iff_append_eq.mpr rfl
  have hblanks : blanks? (gap ++ (digits ++ sign)) = some (digits ++ sign) :=
    blanks?_eq_some_iff.mpr ⟨gap, hne, hgap, rfl, hn.isNumeral.trimStartChars_append sign⟩
  have hsigned := getD_sign_behind hsign (hn.isNumeral.not_mem (c := '+') (by decide))
  rw [ability?, List.findSome?_isSome_iff]
  refine ⟨a, ha, ?_⟩
  rw [List.findSome?_isSome_iff]
  refine ⟨name, by simpa using hname, ?_⟩
  simp only [hstart, hblanks, hsigned, number?_eq_some_iff.mpr hn, Option.bind_eq_bind,
    Option.bind_some, Option.isSome_some, Option.pure_def]

/-- A clause that states a base attack bonus is read. -/
theorem isSome_baseAttackBonus? (h : Measure.baseAttackBonus.IsStated digits s)
    (hn : Writes digits n) : (baseAttackBonus? s).isSome = true := by
  obtain ⟨gap, sign, hgap, hsign, rfl⟩ := h
  have hstart : "base attack bonus".toList.isPrefixOf?
      ("base attack bonus".toList ++ (gap ++ (sign ++ digits))) = some (gap ++ (sign ++ digits)) :=
    List.isPrefixOf?_eq_some_iff_append_eq.mpr rfl
  have hrest : trimStartChars (gap ++ (sign ++ digits)) = sign ++ digits := by
    rw [trimStartChars_append_of_blanks hgap]
    rcases hsign with rfl | rfl
    · simpa using hn.isNumeral.trimStartChars_append []
    · exact trimStartChars_append (List.cons_ne_nil _ _) (by decide) digits
  have hsigned := getD_sign_before hsign (hn.isNumeral.not_mem (c := '+') (by decide))
  simp only [baseAttackBonus?, hstart, hrest, hsigned, number?_eq_some_iff.mpr hn,
    Option.bind_eq_bind, Option.bind_some, Option.isSome_some, Option.pure_def]

/-- A clause that states a character level is read. -/
theorem isSome_characterLevel? (h : Measure.characterLevel.IsStated digits s)
    (hn : Writes digits n) : (characterLevel? s).isSome = true := by
  obtain ⟨ending, gap, hending, hne, hgap, rfl⟩ := h
  obtain ⟨htake, hdrop, hordinal⟩ :=
    ordinalEndings_append ending hending (gap ++ "character level".toList)
  have hlevel : blanks? (gap ++ "character level".toList) = some "character level".toList :=
    blanks?_eq_some_iff.mpr ⟨gap, hne, hgap, rfl, by decide⟩
  rw [characterLevel?, List.takeWhile_append_of_pos hn.latin, List.dropWhile_append_of_pos hn.latin,
    htake, hdrop, hordinal, List.append_nil, number?_eq_some_iff.mpr hn, Option.bind_eq_bind,
    Option.bind_some, Option.bind_eq_bind, Option.bind_some, if_pos hlevel]
  rfl

/-- A clause that states a number is read. -/
theorem isSome_numeric? {measure : Measure} (h : measure.IsStated digits s) (hn : Writes digits n) :
    (numeric? s).isSome = true := by
  simp only [numeric?, Option.orElse_eq_orElse, Option.orElse_eq_or, Option.isSome_or,
    Bool.or_eq_true]
  cases measure with
  | ability a => exact .inl (isSome_ability? h hn)
  | baseAttackBonus => exact .inr (.inl (isSome_baseAttackBonus? h hn))
  | characterLevel => exact .inr (.inr (isSome_characterLevel? h hn))

end Read

/-- Digits write one number only. -/
theorem Writes.unique {digits : List Char} {n n' : Int32} (h : Writes digits n)
    (h' : Writes digits n') : n = n' := by
  rw [← Int32.toInt_inj, h.value, h'.value]

/-- These forms read exactly the clauses that state a number. -/
theorem numeric?_eq_some_iff {s : List Char} {r : Requirement} :
    numeric? s = some r ↔ IsStatedBy s r := by
  refine ⟨numeric?_eq_some, ?_⟩
  rintro ⟨measure, digits, n, h, hn, rfl⟩
  obtain ⟨r, hr⟩ := Option.isSome_iff_exists.mp (isSome_numeric? h hn)
  obtain ⟨measure', digits', n', h', hn', rfl⟩ := numeric?_eq_some hr
  obtain ⟨rfl, rfl⟩ := h.unique h' hn.isNumeral hn'.isNumeral
  rw [hr, hn.unique hn']

/-- The forms that hold a number are the first ones that are tried after free alternatives. -/
theorem afterOr?_eq (s : List Char) :
    afterOr? s = (numeric? s).or ((proficient? s).or (droid? s)) := by
  simp only [afterOr?, numeric?, Option.orElse_eq_orElse, Option.orElse_eq_or, Option.or_assoc]

end CharacterSheet.Clause
