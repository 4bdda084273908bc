import CharacterSheet.Proofs.Requirement.Parts
import CharacterSheet.Requirement.Report

/-!
# Grouped alternatives

A clause `(…) or (…)` is met by whoever meets one of its two groups. The groups are divided at the
last `) or (`, so of more than two groups all but the last one are read as one clause. The law that
a clause `(a) or (b) or …` is met by whoever meets one of the alternatives holds for two of them;
for more it holds where reading all but the last one together makes no difference.
-/

namespace CharacterSheet.Clause

open Text

/-! ## Dividing into groups -/

/-- A second group stands behind a closing parenthesis. -/
theorem secondGroup?_of_ne {c : Char} (hc : c ≠ ')') (s : List Char) :
    secondGroup? (c :: s) = none := by
  have h : ([')'] : List Char).isPrefixOf? (c :: s) = none := by
    simp [List.isPrefixOf?, Ne.symm hc]
  rw [secondGroup?, h]
  rfl

/-- Where the only closing parenthesis is the one at the end, nothing is divided. -/
theorem divide?_of_not_mem {s : List Char} (hs : ')' ∉ s) : divide? (s ++ [')']) = none := by
  induction s with
  | nil => decide
  | cons c s ih =>
    have hc : c ≠ ')' := fun h => hs (by simp [h])
    have hrest : divide? (s ++ [')']) = none := ih fun h => hs (by simp [h])
    rw [List.cons_append, divide?, hrest, secondGroup?_of_ne hc]
    split
    · next h =>
      split at h
      · cases h
      · cases h
    · rfl

/-- The separator of two groups with what stands behind it. -/
def behindFirst (last : List Char) : List Char :=
  ')' :: ' ' :: 'o' :: 'r' :: ' ' :: '(' :: (last ++ [')'])

/-- The second group is found behind the separator. -/
theorem secondGroup?_behindFirst {last : List Char} (hne : last ≠ []) (hline : '\n' ∉ last) :
    secondGroup? (behindFirst last) = some last := by
  have hspace : isBlank ' ' = true := by decide
  have ho : isBlank 'o' = false := by decide
  have hopen : isBlank '(' = false := by decide
  have hinner : ([')'] : List Char).isSuffixOf? (last ++ [')']) = some last := by simp
  simp [secondGroup?, behindFirst, blanks?, trimStartChars, List.isPrefixOf?, hspace, ho, hopen,
    hinner, hne, hline]

/-- A text is divided at the last separator with one line before it and one behind it. -/
theorem divide?_append {first last : List Char} (hfirst : '\n' ∉ first) (hne : last ≠ [])
    (hline : '\n' ∉ last) (hlast : ')' ∉ last) :
    divide? (first ++ behindFirst last) = some (first, last) := by
  -- the last separator wins, so the induction goes through what stands before it
  induction first with
  | nil =>
    have hrest : divide? (' ' :: 'o' :: 'r' :: ' ' :: '(' :: (last ++ [')'])) = none :=
      divide?_of_not_mem (s := ' ' :: 'o' :: 'r' :: ' ' :: '(' :: last) (by simp [hlast])
    have hsecond := secondGroup?_behindFirst hne hline
    rw [behindFirst] at hsecond
    rw [List.nil_append, behindFirst, divide?, if_neg (by decide), hrest, hsecond]
    rfl
  | cons c first ih =>
    have hc : c ≠ '\n' := fun h => hfirst (by simp [h])
    have hrest := ih fun h => hfirst (by simp [h])
    rw [List.cons_append, divide?, if_neg hc, hrest]

/-- Two groups, of which the second one has no parentheses, are found as they are written. -/
theorem groups?_append {first last : List Char} (hfirst : first ≠ []) (hline : '\n' ∉ first)
    (hlast : last ≠ []) (hline' : '\n' ∉ last) (hclose : ')' ∉ last) :
    groups? ('(' :: (first ++ behindFirst last)) = some (first, last) := by
  obtain ⟨c, rest, rfl⟩ := List.exists_cons_of_ne_nil hfirst
  have hc : c ≠ '\n' := fun h => hline (by simp [h])
  have hrest : '\n' ∉ rest := fun h => hline (by simp [h])
  rw [List.cons_append, groups?, if_neg hc, divide?_append hrest hlast hline' hclose]
  rfl

/-! ## The normal form of two groups -/

/-- Lower-casing leaves something of each text that has something in it. -/
theorem lowerChars_ne_nil {s : List Char} (h : s ≠ []) : lowerChars s ≠ [] := by
  obtain ⟨c, rest, rfl⟩ := List.exists_cons_of_ne_nil h
  obtain ⟨small, heq, hne, -⟩ := lowerFrom_cons [] c rest
  rw [lowerChars, heq]
  simp [hne]

/-- Parentheses and plain spaces break words. -/
theorem isBreak_parenthesis : IsBreak '(' ∧ IsBreak ')' ∧ IsBreak ' ' := by decide

/-- Of a separator and the second group, the group is lower-cased. -/
theorem lowerChars_behindFirst (last : List Char) :
    lowerChars (behindFirst last) = behindFirst (lowerChars last) := by
  -- each of the brackets and blanks between the groups is a break, so lowering goes piece by piece
  obtain ⟨hopen, hclose, hspace⟩ := isBreak_parenthesis
  have hor : lowerChars ['o', 'r'] = ['o', 'r'] := by decide
  have h₁ := lowerChars_append_break hclose [] (' ' :: 'o' :: 'r' :: ' ' :: '(' :: (last ++ [')']))
  have h₂ := lowerChars_append_break hspace [] ('o' :: 'r' :: ' ' :: '(' :: (last ++ [')']))
  have h₃ := lowerChars_append_break hspace ['o', 'r'] ('(' :: (last ++ [')']))
  have h₄ := lowerChars_append_break hopen [] (last ++ [')'])
  have h₅ := lowerChars_append_break hclose last []
  simp only [List.nil_append, List.cons_append] at h₁ h₂ h₃ h₄
  have hnil : lowerChars [] = [] := rfl
  rw [behindFirst, h₁, h₂, h₃, h₄, h₅, hor, hnil]
  rfl

/-- The clause with two groups in parentheses. -/
def pair (first last : List Char) : List Char := '(' :: (first ++ behindFirst last)

/-- Both groups are shorter than the clause. -/
theorem length_lt_pair (first last : List Char) :
    first.length < (pair first last).length ∧ last.length < (pair first last).length := by
  simp only [pair, behindFirst, List.length_cons, List.length_append]
  omega

/-- Of two groups each is lower-cased on its own. -/
theorem lowerChars_pair (first last : List Char) :
    lowerChars (pair first last) = pair (lowerChars first) (lowerChars last) := by
  obtain ⟨hopen, hclose, -⟩ := isBreak_parenthesis
  have h₁ := lowerChars_append_break hopen [] (first ++ behindFirst last)
  have h₂ : lowerChars (first ++ behindFirst last) =
      lowerChars first ++ lowerChars (behindFirst last) := by
    -- both sides are divided at the parenthesis that the separator begins with
    have hfirst := lowerChars_append_break hclose first
      (' ' :: 'o' :: 'r' :: ' ' :: '(' :: (last ++ [')']))
    have hnil := lowerChars_append_break hclose []
      (' ' :: 'o' :: 'r' :: ' ' :: '(' :: (last ++ [')']))
    rw [behindFirst, hfirst]
    rw [List.nil_append] at hnil
    rw [hnil]
    rfl
  rw [List.nil_append] at h₁
  rw [pair, h₁, h₂, lowerChars_behindFirst]
  rfl

/-- A clause in parentheses is brought into normal form by lower-casing it. -/
theorem normalForm_parenthesized (s : List Char) :
    normalForm ('(' :: (s ++ [')'])) = lowerChars ('(' :: (s ++ [')'])) := by
  have hopen : isBlank '(' = false := by decide
  have hclose : isBlank ')' = false := by decide
  have htrim : trimChars ('(' :: (s ++ [')'])) = '(' :: (s ++ [')']) := by
    rw [trimChars, trimStartChars, List.dropWhile_cons_of_neg (by simp [hopen])]
    exact List.rdropWhile_concat_neg _ ('(' :: s) _ (by simp [hclose])
  have hlower : lowerChars ('(' :: (s ++ [')'])) = lowerChars ('(' :: s) ++ [')'] :=
    lowerChars_append_break isBreak_parenthesis.2.1 ('(' :: s) []
  have hstops : stripStops (lowerChars ('(' :: s) ++ [')']) = lowerChars ('(' :: s) ++ [')'] :=
    List.rdropWhile_concat_neg _ _ _ (by simp [hclose])
  rw [normalForm, htrim, hlower, hstops]
  rcases stripQualifier_cases (lowerChars ('(' :: s) ++ [')']) with h | ⟨q, hq, front, hs, -⟩
  · exact h
  · -- qualifiers end with letters
    have hends : ∀ q ∈ qualifiers, (' ' :: q).getLast? ≠ some ')' := by decide
    have hlast := congrArg List.getLast? hs
    rw [List.getLast?_concat, List.getLast?_append_cons] at hlast
    exact absurd hlast.symm (hends q hq)

/-- Two groups are brought into normal form by lower-casing them. -/
theorem normalForm_pair (first last : List Char) :
    normalForm (pair first last) = pair (lowerChars first) (lowerChars last) := by
  have hpair : pair first last = '(' :: (first ++ ") or (".toList ++ last ++ [')']) := by
    simp [pair, behindFirst]
  rw [← lowerChars_pair, hpair, normalForm_parenthesized]

/-! ## Narrative phrases in groups -/

/-- Narrative phrases are not empty and have no parentheses. -/
theorem not_mem_narrativePhrases : ∀ p ∈ narrativePhrases, '(' ∉ p ∧ ')' ∉ p ∧ p ≠ [] := by
  decide

/-- A narrative phrase is in one of the two groups. -/
theorem isNarrative_pair (first last : List Char) :
    isNarrative (pair first last) = (isNarrative first || isNarrative last) := by
  apply isNarrative_eq_or
  intro p hp
  obtain ⟨hopen, hclose, hne⟩ := not_mem_narrativePhrases p hp
  -- a phrase has no parenthesis in it, so it lies between two of them
  have hor : ¬ p <:+: [' ', 'o', 'r', ' '] := by
    revert p
    decide
  have hpair : pair first last = [] ++ '(' :: (first ++
      ')' :: ([' ', 'o', 'r', ' '] ++ '(' :: (last ++ ')' :: []))) := rfl
  rw [hpair, infix_append_cons_iff hopen, infix_append_cons_iff hclose,
    infix_append_cons_iff hopen, infix_append_cons_iff hclose]
  simp [hne, hor]

/-! ## Reading two groups -/

/-- A narrative phrase makes the whole clause narrative. -/
theorem ofNormalForm_of_isNarrative {s : List Char} (h : isNarrative s = true) :
    ofNormalForm s = some (.narrative (String.ofList s)) := by
  rw [ofNormalForm, readWith, if_pos h]

/-- Lower-casing brings no separator into a text. -/
theorem lowerChars_not_mem {d : Char} (hd : IsSeparator d) {s : List Char} (h : d ∉ s) :
    d ∉ lowerChars s :=
  fun hmem => h (mem_of_mem_lowerFrom hd hmem)

/-- Two groups, of which the second one has no closing parenthesis, ask for any of what they ask
for, unless a phrase in one of them is narrative. -/
theorem ofNormalForm_pair {first last : List Char} (hfirst : first ≠ []) (hline : '\n' ∉ first)
    (hlast : last ≠ []) (hline' : '\n' ∉ last) (hclose : ')' ∉ last)
    (hnarrative : (isNarrative (normalForm first) || isNarrative (normalForm last)) = false) :
    ofNormalForm (normalForm (pair first last)) =
      ([first, last].mapM fun group => ofNormalForm (normalForm group)).map .anyOf := by
  have hnewline : IsSeparator '\n' := by decide
  have hgroups : groups? (pair (lowerChars first) (lowerChars last)) =
      some (lowerChars first, lowerChars last) :=
    groups?_append (lowerChars_ne_nil hfirst) (lowerChars_not_mem hnewline hline)
      (lowerChars_ne_nil hlast) (lowerChars_not_mem hnewline hline')
      (lowerChars_not_mem (.inr (.inr rfl)) hclose)
  -- both groups are shorter than the clause, so they are read as clauses
  obtain ⟨hpair, hpair'⟩ := length_lt_pair (lowerChars first) (lowerChars last)
  have hshorter := (length_normalForm_le first).trans_lt hpair
  have hshorter' := (length_normalForm_le last).trans_lt hpair'
  rw [isNarrative_normalForm, isNarrative_normalForm, ← isNarrative_pair] at hnarrative
  rw [normalForm_pair, ofNormalForm, readWith, hnarrative, hgroups]
  simp only [Bool.false_eq_true, if_false, List.mapM_cons, List.mapM_nil, normalForm_lowerChars,
    dif_pos hshorter, dif_pos hshorter']

/-! ## Any number of groups -/

/-- A clause of one line, with something on it and without parentheses. -/
structure IsPlain (clause : String) : Prop where
  not_blank : ∃ c ∈ clause.toList, isBlank c = false
  one_line : '\n' ∉ clause.toList
  no_open : '(' ∉ clause.toList
  no_close : ')' ∉ clause.toList

instance (clause : String) : Decidable (IsPlain clause) :=
  decidable_of_iff (clause.toList.any (!isBlank ·) = true ∧ '\n' ∉ clause.toList ∧
      '(' ∉ clause.toList ∧ ')' ∉ clause.toList)
    ⟨fun h => ⟨by simpa using h.1, h.2.1, h.2.2.1, h.2.2.2⟩,
      fun h => ⟨by simpa using h.not_blank, h.one_line, h.no_open, h.no_close⟩⟩

/-- The texts of groups with what stands between them. -/
def joined (clauses : List String) : String := ") or (".intercalate clauses

/-- Clauses as alternatives, each in parentheses. -/
def grouped (clauses : List String) : String := "(" ++ joined clauses ++ ")"

/-- A last clause stands behind a separator. -/
theorem joined_append {front : List String} (hfront : front ≠ []) (last : String) :
    joined (front ++ [last]) = joined front ++ ") or (" ++ last := by
  rw [joined, joined, String.intercalate_append_of_ne_nil hfront (by simp),
    String.intercalate_singleton]

/-- Several groups are two, of which the first one takes in all but the last. -/
theorem toList_grouped {front : List String} (hfront : front ≠ []) (last : String) :
    (grouped (front ++ [last])).toList = pair (joined front).toList last.toList := by
  simp [grouped, joined_append hfront, pair, behindFirst]

/-- A single clause is not joined to anything. -/
theorem joined_singleton (clause : String) : joined [clause] = clause :=
  String.intercalate_singleton

/-- A plain clause has something in it. -/
theorem IsPlain.ne_nil {clause : String} (h : IsPlain clause) : clause.toList ≠ [] := by
  obtain ⟨c, hc, -⟩ := h.not_blank
  exact List.ne_nil_of_mem hc

/-- Plain clauses are put together to one line that is not empty. -/
theorem joined_of_isPlain {clauses : List String} (hne : clauses ≠ [])
    (hplain : ∀ clause ∈ clauses, IsPlain clause) :
    (joined clauses).toList ≠ [] ∧ '\n' ∉ (joined clauses).toList := by
  induction clauses using List.reverseRecOn with
  | nil => exact absurd rfl hne
  | append_singleton front last ih =>
    have hlast : IsPlain last := hplain last (by simp)
    by_cases hfront : front = []
    · subst hfront
      rw [List.nil_append, joined_singleton]
      exact ⟨hlast.ne_nil, hlast.one_line⟩
    · obtain ⟨-, hline⟩ := ih hfront fun clause h => hplain clause (by simp [h])
      rw [joined_append hfront]
      refine ⟨?_, ?_⟩
      · simp
      · simp [hline, hlast.one_line]

/-- Whether a character meets a clause, if reading the clause comes to an end. -/
def isMet? (clause : String) (c : Character) : Option Bool :=
  (evaluate clause c).map (·.satisfied)

/-- A character meets a clause exactly if it meets what the clause states. -/
theorem isMet?_eq_map (clause : String) (c : Character) :
    isMet? clause c = (parse clause).map (·.isMet c) := by
  rw [isMet?, evaluate, Option.map_map]
  rfl

/-- What is left to the game master is met. -/
theorem isMet?_of_isNarrative {clause : String}
    (h : isNarrative (normalForm clause.toList) = true) (c : Character) :
    isMet? clause c = some true := by
  rw [isMet?_eq_map, parse, ofNormalForm_of_isNarrative h, Option.map_some, Requirement.isMet]

/-- A narrative phrase in one of the groups makes the whole clause narrative. -/
theorem isNarrative_grouped {front : List String} (hfront : front ≠ []) (last : String) :
    isNarrative (normalForm (grouped (front ++ [last])).toList) =
      (isNarrative (normalForm (joined front).toList) ||
        isNarrative (normalForm last.toList)) := by
  rw [toList_grouped hfront, normalForm_pair, isNarrative_pair, isNarrative_normalForm,
    isNarrative_normalForm]

section Several

variable {front : List String} {last : String} (hfront : front ≠ [])
  (hplain : ∀ clause ∈ front ++ [last], IsPlain clause)

include hfront hplain

/-- Of several groups all but the last one are read as one clause, unless a phrase is narrative. -/
theorem parse_grouped
    (hnarrative : (isNarrative (normalForm (joined front).toList) ||
      isNarrative (normalForm last.toList)) = false) :
    parse (grouped (front ++ [last])) = ([joined front, last].mapM parse).map .anyOf := by
  have hlast : IsPlain last := hplain last (by simp)
  obtain ⟨hne, hline⟩ := joined_of_isPlain hfront fun clause h => hplain clause (by simp [h])
  rw [parse, toList_grouped hfront,
    ofNormalForm_pair hne hline hlast.ne_nil hlast.one_line hlast.no_close hnarrative]
  rfl

/-- Several groups are read exactly if all but the last one are as one clause, and the last one is,
or if a phrase in them is narrative. -/
theorem isSome_parse_grouped_iff :
    (parse (grouped (front ++ [last]))).isSome = true ↔
      ((parse (joined front)).isSome = true ∧ (parse last).isSome = true) ∨
        isNarrative (normalForm (joined front).toList) = true ∨
        isNarrative (normalForm last.toList) = true := by
  rw [← Bool.or_eq_true]
  -- a narrative pair is read in any case, every other one by reading both groups
  cases hnarrative : isNarrative (normalForm (joined front).toList) ||
      isNarrative (normalForm last.toList) with
  | true =>
    rw [← isNarrative_grouped hfront] at hnarrative
    simp [parse, ofNormalForm_of_isNarrative hnarrative]
  | false =>
    rw [parse_grouped hfront hplain hnarrative, Option.isSome_map, isSome_mapM_iff]
    simp

/-- Several groups that are read are met by whoever meets the last one, or all the others as one
clause. -/
theorem isMet?_grouped (hread : (parse (grouped (front ++ [last]))).isSome = true)
    (c : Character) : isMet? (grouped (front ++ [last])) c = some true ↔
      isMet? (joined front) c = some true ∨ isMet? last c = some true := by
  cases hnarrative : isNarrative (normalForm (joined front).toList) ||
      isNarrative (normalForm last.toList) with
  | true =>
    have hmet := isMet?_of_isNarrative ((isNarrative_grouped hfront last).trans hnarrative) c
    rcases Bool.or_eq_true_iff.mp hnarrative with h | h <;>
      simp [hmet, isMet?_of_isNarrative h]
  | false =>
    rw [parse_grouped hfront hplain hnarrative, Option.isSome_map, isSome_mapM_iff] at hread
    obtain ⟨r, hr⟩ := Option.isSome_iff_exists.mp (hread (joined front) (by simp))
    obtain ⟨r', hr'⟩ := Option.isSome_iff_exists.mp (hread last (by simp))
    simp [isMet?_eq_map, parse_grouped hfront hplain hnarrative, hr, hr', Requirement.isMet,
      Requirement.anyMet]

end Several

/-- A character meets a clause exactly if it meets one of some alternatives. -/
def MeansAnyOf (clause : String) (alternatives : List String) (c : Character) : Prop :=
  isMet? clause c = some true ↔ ∃ a ∈ alternatives, isMet? a c = some true

instance (clause : String) (alternatives : List String) (c : Character) :
    Decidable (MeansAnyOf clause alternatives c) :=
  inferInstanceAs (Decidable (_ ↔ _))

private theorem or_iff_or_right_iff {p q r : Prop} : (p ∨ r ↔ q ∨ r) ↔ r ∨ (p ↔ q) := by
  tauto

/-- Alternatives in parentheses are read exactly if those before the last one, as one clause, and
the last one are, or if a phrase in them is narrative. If they are read, they mean any of them
exactly if there are two, if the last one is met, or if those before it, read as one clause, mean
any of them. -/
theorem grouped_meansAnyOf_iff {front : List String} {last : String} (hfront : front ≠ [])
    (hplain : ∀ clause ∈ front ++ [last], IsPlain clause) (c : Character) :
    ((parse (grouped (front ++ [last]))).isSome = true ↔
      ((parse (joined front)).isSome = true ∧ (parse last).isSome = true) ∨
        isNarrative (normalForm (joined front).toList) = true ∨
        isNarrative (normalForm last.toList) = true) ∧
    ((parse (grouped (front ++ [last]))).isSome = true →
      (MeansAnyOf (grouped (front ++ [last])) (front ++ [last]) c ↔
        front.length = 1 ∨ isMet? last c = some true ∨ MeansAnyOf (joined front) front c)) := by
  refine ⟨isSome_parse_grouped_iff hfront hplain, fun hread => ?_⟩
  have hone : front.length = 1 → MeansAnyOf (joined front) front c := fun h => by
    obtain ⟨clause, rfl⟩ := List.length_eq_one_iff.mp h
    simp [MeansAnyOf, joined_singleton]
  rw [MeansAnyOf, isMet?_grouped hfront hplain hread]
  simp only [List.mem_append, List.mem_singleton, or_and_right, exists_or, exists_eq_left]
  rw [or_iff_or_right_iff]
  exact ⟨.inr, fun h => h.elim (fun h => .inr (hone h)) id⟩

/-- A character with one feat. -/
def dodger : Character where
  id := "hero"
  traits := [{ id := "t", name := "Dodge", kind := .feat }]

/-- Two groups are read and mean any of them, also to a character that meets the first one only. -/
theorem grouped_meansAnyOf_iff_dodge :
    ["Dodge"] ≠ [] ∧ (∀ clause ∈ ["Dodge"] ++ ["Trained in Stealth or Dex 13."], IsPlain clause) ∧
      (parse (grouped (["Dodge"] ++ ["Trained in Stealth or Dex 13."]))).isSome = true ∧
      MeansAnyOf (grouped (["Dodge"] ++ ["Trained in Stealth or Dex 13."]))
        (["Dodge"] ++ ["Trained in Stealth or Dex 13."]) dodger := by
  have hfront : ["Dodge"] ≠ [] := by decide
  have hplain : ∀ clause ∈ ["Dodge"] ++ ["Trained in Stealth or Dex 13."], IsPlain clause := by
    decide +kernel
  obtain ⟨hiff, hmeans⟩ := grouped_meansAnyOf_iff hfront hplain dodger
  have hread := hiff.mpr (.inl (by decide +kernel))
  exact ⟨hfront, hplain, hread, (hmeans hread).mpr (.inl rfl)⟩

/-- Of three groups the first two become names with a parenthesis, which the character lacks. -/
theorem not_meansAnyOf_dodge :
    (∀ clause ∈ ["Dodge", "Mobility", "Acrobatics"], IsPlain clause) ∧
      (parse (grouped ["Dodge", "Mobility", "Acrobatics"])).isSome = true ∧
      ¬ MeansAnyOf (grouped ["Dodge", "Mobility", "Acrobatics"])
          ["Dodge", "Mobility", "Acrobatics"] dodger := by
  decide +kernel

end CharacterSheet.Clause
