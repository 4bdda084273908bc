import CharacterSheet.Proofs.Requirement.Measures
import CharacterSheet.Proofs.Requirement.Nesting

/-!
# Empty lists in requirements

No requirement read from a clause has an empty skill name in it. A list of options or parts in it is
empty exactly if, somewhere on the way, a clause is read in which nothing but commas and blanks
stands around the words that divide a list of skills. Such a clause can be one that everybody meets.
-/

namespace CharacterSheet.Clause

open Text Requirement

/-! ## Lists of skills -/

/-- A list names no skill exactly if there is nothing but commas and blanks between its words. -/
theorem skillList_eq_nil_iff (word s : List Char) :
    skillList word s = [] ↔
      ∀ part ∈ splitChars word s, ∀ c ∈ part, c = ',' ∨ isBlank c = true := by
  -- a list without skills has nothing left of any item between its commas
  have hitem : skillList word s = [] ↔ ∀ part ∈ splitChars word s,
      ∀ item ∈ splitWhere (· == ',') part, trimChars item = [] := by
    simp only [skillList, List.map_eq_nil_iff, List.filter_eq_nil_iff, List.mem_flatMap,
      List.mem_map, Bool.not_eq_true', Bool.not_eq_false, List.isEmpty_iff]
    exact ⟨fun h part hp item hi => h _ ⟨part, hp, item, hi, rfl⟩,
      fun h _ ⟨part, hp, item, hi, heq⟩ => heq ▸ h part hp item hi⟩
  rw [hitem]
  apply forall₂_congr
  intro part _
  simp only [trimChars_eq_nil_iff]
  constructor
  · intro h c hc
    by_cases hcomma : c = ','
    · exact .inl hcomma
    · obtain ⟨item, hitem, hmem⟩ := (mem_splitWhere (p := (· == ','))).mpr ⟨hc, by simp [hcomma]⟩
      exact .inr (h item hitem c hmem)
  · intro h item hitem c hc
    obtain ⟨hpart, hcomma⟩ := mem_splitWhere.mp ⟨item, hitem, hc⟩
    exact (h c hpart).resolve_left (by simpa using hcomma)

/-- The items of a list of skills are skills with a name. -/
theorem mem_skillList {word s : List Char} {r : Requirement} (h : r ∈ skillList word s) :
    ∃ skill, r = .trainedSkill skill ∧ skill ≠ "" := by
  simp only [skillList, List.mem_map, List.mem_filter] at h
  obtain ⟨item, ⟨-, hne⟩, rfl⟩ := h
  exact ⟨_, rfl, by simpa using hne⟩

/-- The word that divides a list of skills. -/
def divider (skills : List Char) : List Char :=
  if containsChars " or ".toList skills then " or ".toList else " and ".toList

/-- A clause on training that names no skill: around the words that divide the list there is
nothing but commas and blanks. -/
def NamesNoSkill (s : List Char) : Prop :=
  ∃ rest, restOfLine? "trained in ".toList s = some rest ∧
    ∀ part ∈ splitChars (divider (trimChars rest)) (trimChars rest), ∀ c ∈ part,
      c = ',' ∨ isBlank c = true

/-- The characters that a clause which names no skill can have. -/
theorem NamesNoSkill.mem {s : List Char} (h : NamesNoSkill s) {c : Char} (hc : c ∈ s) :
    c ∈ "trained in or and".toList ∨ c = ',' ∨ isBlank c = true := by
  obtain ⟨rest, hrest, hnothing⟩ := h
  obtain ⟨rfl, -⟩ := restOfLine?_eq_some_iff.mp hrest
  -- whether the skills are divided by `or` or by `and`, its characters are among those listed
  have hdivider : divider (trimChars rest) ≠ [] ∧
      divider (trimChars rest) ⊆ "trained in or and".toList := by
    rw [divider]
    split <;> decide
  rcases List.mem_append.mp hc with hc | hc
  · have hbeginning : "trained in ".toList ⊆ "trained in or and".toList := by decide
    exact .inl (hbeginning hc)
  cases hblank : isBlank c with
  | true => exact .inr (.inr rfl)
  | false =>
    rcases mem_splitChars hdivider.1 (mem_trimChars hc hblank) with hmem | ⟨part, hpart, hmem⟩
    · exact .inl (hdivider.2 hmem)
    · rcases hnothing part hpart c hmem with hcomma | hblank'
      · exact .inr (.inl hcomma)
      · rw [hblank] at hblank'
        cases hblank'

/-- Such a clause is not left to the game master. -/
theorem NamesNoSkill.isNarrative_eq_false {s : List Char} (h : NamesNoSkill s) :
    isNarrative s = false := by
  -- Each phrase has a letter that stands in none of the words around the skills.
  have hother : ∀ p ∈ narrativePhrases, (p.any fun c =>
      c ∉ "trained in or and".toList ∧ c ≠ ',' ∧ isBlank c = false) = true := by decide
  by_contra hnarrative
  rw [Bool.not_eq_false, isNarrative_iff] at hnarrative
  obtain ⟨p, hp, hin⟩ := hnarrative
  obtain ⟨c, hc, hletter⟩ := List.any_eq_true.mp (hother p hp)
  obtain ⟨hword, hcomma, hblank⟩ := of_decide_eq_true hletter
  rcases h.mem (hin.subset hc) with h | h | h
  · exact hword h
  · exact hcomma h
  · rw [hblank] at h
    cases h

/-- A clause that names no skill is one on training. -/
theorem NamesNoSkill.trained? {s : List Char} (h : NamesNoSkill s) :
    ∃ rest, restOfLine? "trained in ".toList s = some rest ∧
      beforeOr? s = some (training rest) := by
  obtain ⟨rest, hrest, -⟩ := h
  refine ⟨rest, hrest, ?_⟩
  rw [beforeOr?, Clause.trained?, hrest]
  rfl

/-- A clause on training has no parts. -/
theorem NamesNoSkill.parts_eq_nil {s : List Char} (h : NamesNoSkill s) : parts s = [] := by
  obtain ⟨rest, hrest, hbefore⟩ := h.trained?
  have hgroups : groups? s = none := by
    obtain ⟨rfl, -⟩ := restOfLine?_eq_some_iff.mp hrest
    rfl
  simp [parts, h.isNarrative_eq_false, hgroups, hbefore]

/-! ## Clauses on training -/

/-- The text has no blank at its end. -/
def EndsTrimmed (s : List Char) : Prop := ∀ h : s ≠ [], isBlank (s.getLast h) = false

/-- A normal form does not end with a blank. -/
theorem endsTrimmed_normalForm (s : List Char) : EndsTrimmed (normalForm s) :=
  fun h => isBlank_getLast_normalForm h

/-- Something stands behind the beginning of a clause on training. -/
theorem EndsTrimmed.trimChars_ne_nil {s rest : List Char} (hs : EndsTrimmed s)
    (hrest : restOfLine? "trained in ".toList s = some rest) : trimChars rest ≠ [] := by
  obtain ⟨rfl, hne, -⟩ := restOfLine?_eq_some_iff.mp hrest
  have hlast := hs (List.append_ne_nil_of_right_ne_nil _ hne)
  rw [List.getLast_append_of_ne_nil _ hne] at hlast
  intro hnil
  rw [trimChars_eq_nil_iff.mp hnil _ (List.getLast_mem hne)] at hlast
  cases hlast

/-- A requirement that is no empty list. -/
def IsNoEmptyList (r : Requirement) : Prop := r ≠ .anyOf [] ∧ r ≠ .allOf []

/-- What holds of training in skills with names holds everywhere in a list of skills. -/
theorem everywhere_of_mem_skillList {p : Requirement → Prop}
    (hp : ∀ skill, skill ≠ "" → p (.trainedSkill skill)) {word s : List Char} {r : Requirement}
    (h : r ∈ skillList word s) : Everywhere p r := by
  obtain ⟨skill, rfl, hne⟩ := mem_skillList h
  exact (everywhere_of_isSingle rfl).mpr (hp skill hne)

/-- The four things that a clause on training can ask for. -/
theorem training_cases (rest : List Char) :
    (containsChars "at least one knowledge skill".toList (trimChars rest) = true ∧
        training rest = .anyKnowledgeSkill) ∨
      (divider (trimChars rest) = " or ".toList ∧
        training rest = .anyOf (skillList " or ".toList (trimChars rest))) ∨
      (divider (trimChars rest) = " and ".toList ∧
        training rest = .allOf (skillList " and ".toList (trimChars rest))) ∨
      (splitChars (divider (trimChars rest)) (trimChars rest) = [trimChars rest] ∧
        ',' ∉ trimChars rest ∧ training rest = .trainedSkill (String.ofList (trimChars rest))) := by
  simp only [training, divider]
  split
  · next h => exact .inl ⟨h, rfl⟩
  split
  · exact .inr (.inl ⟨rfl, rfl⟩)
  split
  · exact .inr (.inr (.inl ⟨rfl, rfl⟩))
  next hlist =>
  rw [Bool.or_eq_true, not_or, containsChars_iff] at hlist
  exact .inr (.inr (.inr ⟨splitChars_of_not_isInfix hlist.1, by simpa using hlist.2, rfl⟩))

/-- A clause on training does not ask for training in a skill without a name. -/
theorem training_names {s rest : List Char} (hs : EndsTrimmed s)
    (hrest : restOfLine? "trained in ".toList s = some rest) :
    Everywhere (· ≠ .trainedSkill "") (training rest) := by
  have hskills : ∀ word, ∀ r ∈ skillList word (trimChars rest),
      Everywhere (· ≠ .trainedSkill "") r := fun word r hr =>
    everywhere_of_mem_skillList (fun skill hne => by simpa using hne) hr
  rcases training_cases rest with ⟨-, h⟩ | ⟨-, h⟩ | ⟨-, h⟩ | ⟨-, -, h⟩
  · rw [h]
    exact (everywhere_of_isSingle rfl).mpr nofun
  · rw [h]
    exact everywhere_anyOf.mpr ⟨nofun, hskills _⟩
  · rw [h]
    exact everywhere_allOf.mpr ⟨nofun, hskills _⟩
  · rw [h, everywhere_of_isSingle rfl]
    simpa using hs.trimChars_ne_nil hrest

/-- A clause on training asks for an empty list exactly if it names no skill. -/
theorem training_lists {s rest : List Char} (hs : EndsTrimmed s)
    (hrest : restOfLine? "trained in ".toList s = some rest) :
    Everywhere IsNoEmptyList (training rest) ↔ ¬ NamesNoSkill s := by
  have hnames : NamesNoSkill s ↔
      skillList (divider (trimChars rest)) (trimChars rest) = [] := by
    rw [skillList_eq_nil_iff]
    constructor
    · rintro ⟨rest', hrest', h⟩
      rw [hrest, Option.some.injEq] at hrest'
      rwa [hrest']
    · exact fun h => ⟨rest, hrest, h⟩
  have hskills : ∀ word, ∀ r ∈ skillList word (trimChars rest), Everywhere IsNoEmptyList r :=
    fun word r hr => everywhere_of_mem_skillList (fun skill _ => ⟨nofun, nofun⟩) hr
  rcases training_cases rest with ⟨hknowledge, h⟩ | ⟨hor, h⟩ | ⟨hand, h⟩ | ⟨hone, hcomma, h⟩
  · rw [h, everywhere_of_isSingle rfl]
    refine ⟨?_, fun _ => ⟨nofun, nofun⟩⟩
    intro _ hnone
    -- the phrase has a letter that no clause without skills has
    have hl : 'l' ∈ "at least one knowledge skill".toList := by decide
    have hmem : 'l' ∈ s := by
      obtain ⟨rfl, -⟩ := restOfLine?_eq_some_iff.mp hrest
      refine List.mem_append_right _ (mem_of_mem_trimChars ?_)
      exact (containsChars_iff.mp hknowledge).subset hl
    have hother : ¬ ('l' ∈ "trained in or and".toList ∨ 'l' = ',' ∨ isBlank 'l' = true) := by
      decide
    exact hother (hnone.mem hmem)
  · rw [h, everywhere_anyOf, and_iff_left (hskills _), hnames, hor]
    simp [IsNoEmptyList]
  · rw [h, everywhere_allOf, and_iff_left (hskills _), hnames, hand]
    simp [IsNoEmptyList]
  · rw [h, everywhere_of_isSingle rfl, hnames, skillList_eq_nil_iff, hone]
    refine ⟨fun _ hnone => ?_, fun _ => ⟨nofun, nofun⟩⟩
    apply hs.trimChars_ne_nil hrest
    rw [trimChars_eq_nil_iff]
    intro c hc
    by_contra hblank
    have hmem := mem_trimChars hc (by simpa using hblank)
    rcases hnone _ (List.mem_singleton_self _) c hmem with rfl | h
    · exact hcomma hmem
    · exact hblank h

/-! ## Other clauses without parts -/

/-- A requirement that is neither a list nor about a skill by name. -/
def IsOther (r : Requirement) : Prop := r.isSingle = true ∧ ∀ skill, r ≠ .trainedSkill skill

/-- A clause on appendages asks for no training and has no list. -/
theorem isOther_appendage? {s : List Char} {r : Requirement} (h : appendage? s = some r) :
    IsOther r := by
  obtain ⟨-, count, kind, locomotion, rfl⟩ := appendage?_eq_some h
  exact ⟨rfl, nofun⟩

/-- A clause on the size asks for no training and has no list. -/
theorem isOther_sizeOrLarger? {s : List Char} {r : Requirement} (h : sizeOrLarger? s = some r) :
    IsOther r := by
  obtain ⟨size, -, rfl⟩ := sizeOrLarger?_eq_some h
  exact ⟨rfl, nofun⟩

/-- A clause with a number asks for no training and has no list. -/
theorem isOther_numeric? {s : List Char} {r : Requirement} (h : numeric? s = some r) :
    IsOther r := by
  obtain ⟨measure, digits, n, -, -, rfl⟩ := numeric?_eq_some h
  cases measure <;> exact ⟨rfl, nofun⟩

/-- A clause on a proficiency asks for no training and has no list. -/
theorem isOther_proficient? {s : List Char} {r : Requirement} (h : proficient? s = some r) :
    IsOther r := by
  obtain ⟨rest, -, rfl⟩ := Option.map_eq_some_iff.mp h
  exact ⟨rfl, nofun⟩

/-- A clause about droids asks for no training and has no list. -/
theorem isOther_droid? {s : List Char} {r : Requirement} (h : droid? s = some r) : IsOther r := by
  obtain ⟨-, expected, rfl⟩ := droid?_eq_some h
  exact ⟨rfl, nofun⟩

/-- None of the forms behind free alternatives asks for training or has a list. -/
theorem isOther_afterOr? {s : List Char} {r : Requirement} (h : afterOr? s = some r) :
    IsOther r := by
  rw [afterOr?_eq, Option.or_eq_some_iff, Option.or_eq_some_iff] at h
  rcases h with h | ⟨-, h | ⟨-, h⟩⟩
  · exact isOther_numeric? h
  · exact isOther_proficient? h
  · exact isOther_droid? h

/-- A clause without parts is about training, or it asks for no list and no skill by name. -/
theorem simple_cases (s : List Char) :
    (∃ rest, restOfLine? "trained in ".toList s = some rest ∧ isNarrative s = false ∧
        simple s = training rest) ∨
      ((isNarrative s = true ∨ restOfLine? "trained in ".toList s = none) ∧
        IsOther (simple s)) := by
  rw [simple]
  split
  · next h => exact .inr ⟨.inl h, rfl, by simp⟩
  next hnarrative =>
  cases hrest : restOfLine? "trained in ".toList s with
  | some rest =>
    refine .inl ⟨rest, rfl, by simpa using hnarrative, ?_⟩
    rw [beforeOr?, trained?, hrest]
    rfl
  | none =>
    refine .inr ⟨.inr rfl, ?_⟩
    have htrained : trained? s = none := by rw [trained?, hrest, Option.map_none]
    rw [beforeOr?, htrained]
    simp only [Option.orElse_eq_orElse, Option.orElse_eq_or, Option.none_or]
    cases hform : ((appendage? s).or (sizeOrLarger? s)).or (afterOr? s) with
    | none => exact ⟨rfl, by simp⟩
    | some r =>
      simp only [Option.or_eq_some_iff] at hform
      rcases hform with (h | ⟨-, h⟩) | ⟨-, h⟩
      · exact isOther_appendage? h
      · exact isOther_sizeOrLarger? h
      · exact isOther_afterOr? h

/-! ## Reading a clause -/

/-- While a normal form is read, another one is read as a clause: the whole of it, or on the way
through its parts. -/
inductive Reads (s : List Char) : List Char → Prop
  | whole : Reads s s
  | part {t piece : List Char} (h : Reads s t) (hpiece : piece ∈ parts t)
      (hshorter : (normalForm piece).length < t.length) : Reads s (normalForm piece)

/-- Nothing is read but the clause itself and what is read of its parts. -/
theorem reads_iff {s t : List Char} :
    Reads s t ↔ t = s ∨ ∃ piece ∈ parts s, (normalForm piece).length < s.length ∧
      Reads (normalForm piece) t := by
  constructor
  · -- `Reads` grows at its end, so the first part is found by induction
    intro h
    induction h with
    | whole => exact .inl rfl
    | part h hpiece hshorter ih =>
      rcases ih with rfl | ⟨first, hfirst, hlength, hreads⟩
      · exact .inr ⟨_, hpiece, hshorter, .whole⟩
      · exact .inr ⟨first, hfirst, hlength, hreads.part hpiece hshorter⟩
  · rintro (rfl | ⟨piece, hpiece, hshorter, h⟩)
    · exact .whole
    · induction h with
      | whole => exact Reads.whole.part hpiece hshorter
      | part _ hpiece' hshorter' ih => exact ih.part hpiece' hshorter'

/-- What holds of a normal form as soon as it holds of its shorter parts holds of all. -/
theorem induction_on_parts {motive : List Char → Prop}
    (step : ∀ s, (∀ piece ∈ parts s, (normalForm piece).length < s.length →
      motive (normalForm piece)) → motive s) (s : List Char) : motive s := by
  induction hlength : s.length using Nat.strong_induction_on generalizing s with
  | _ n ih =>
    subst hlength
    exact step s fun piece _ hshorter => ih _ hshorter _ rfl

/-- No skill in a requirement has an empty name. -/
theorem ofNormalForm_names (s : List Char) (hs : EndsTrimmed s) {r : Requirement}
    (h : ofNormalForm s = some r) : Everywhere (· ≠ .trainedSkill "") r := by
  induction s using induction_on_parts generalizing r with
  | step s ih =>
    -- a clause without parts is read as a whole, one with parts by what is read for each part
    by_cases hparts : parts s = []
    · rw [ofNormalForm_of_parts_eq_nil hparts, Option.some.injEq] at h
      subst h
      rcases simple_cases s with ⟨rest, hrest, -, h⟩ | ⟨-, hsingle, hskill⟩
      · rw [h]
        exact training_names hs hrest
      · exact (everywhere_of_isSingle hsingle).mpr (hskill "")
    · obtain ⟨options, rfl, -, hmem, -⟩ := exists_eq_anyOf hparts h
      refine everywhere_anyOf.mpr ⟨nofun, fun option hoption => ?_⟩
      obtain ⟨piece, hpiece, hread⟩ := (hmem option).mp hoption
      obtain ⟨hshorter, hread⟩ := readPart_eq_some_iff.mp hread
      exact ih piece hpiece hshorter (endsTrimmed_normalForm piece) hread

/-- A requirement has an empty list in it exactly if a clause is read that names no skill. -/
theorem ofNormalForm_lists (s : List Char) (hs : EndsTrimmed s) {r : Requirement}
    (h : ofNormalForm s = some r) :
    Everywhere IsNoEmptyList r ↔ ∀ t, Reads s t → ¬ NamesNoSkill t := by
  induction s using induction_on_parts generalizing r with
  | step s ih =>
    by_cases hparts : parts s = []
    · have hreads : ∀ t, Reads s t ↔ t = s := fun t => by
        rw [reads_iff, hparts]
        simp
      rw [ofNormalForm_of_parts_eq_nil hparts, Option.some.injEq] at h
      subst h
      simp only [hreads, forall_eq]
      -- without parts only a clause on training makes a list, and nothing else is read
      rcases simple_cases s with ⟨rest, hrest, -, h⟩ | ⟨hform, hsingle, -⟩
      · rw [h]
        exact training_lists hs hrest
      · constructor
        · intro _ hnone
          obtain ⟨rest, hrest, -⟩ := hnone.trained?
          rcases hform with h | h
          · rw [hnone.isNarrative_eq_false] at h
            cases h
          · rw [hrest] at h
            cases h
        · intro _
          rw [everywhere_of_isSingle hsingle]
          constructor <;> intro h <;> rw [h] at hsingle <;> cases hsingle
    · -- the list of the parts is not empty, so an empty one can only be inside a part
      obtain ⟨options, rfl, hne, hmem, hread⟩ := exists_eq_anyOf hparts h
      have hself : IsNoEmptyList (.anyOf options) := ⟨by simpa using hne, nofun⟩
      have hnames : ¬ NamesNoSkill s := fun h => hparts h.parts_eq_nil
      rw [everywhere_anyOf, and_iff_right hself]
      constructor
      · intro h t hreads
        rcases reads_iff.mp hreads with rfl | ⟨piece, hpiece, hshorter, hreads⟩
        · exact hnames
        · obtain ⟨option, hoption⟩ := hread piece hpiece
          refine (ih piece hpiece hshorter (endsTrimmed_normalForm piece)
            (readPart_eq_some_iff.mp hoption).2).mp ?_ t hreads
          exact h option ((hmem option).mpr ⟨piece, hpiece, hoption⟩)
      · intro h option hoption
        obtain ⟨piece, hpiece, hread⟩ := (hmem option).mp hoption
        obtain ⟨hshorter, hread⟩ := readPart_eq_some_iff.mp hread
        refine (ih piece hpiece hshorter (endsTrimmed_normalForm piece) hread).mpr
          fun t hreads => ?_
        exact h t (reads_iff.mpr (.inr ⟨piece, hpiece, hshorter, hreads⟩))

/-- No requirement read from a clause has an empty skill name in it, and it has an empty list in it
exactly if, somewhere in the clause, a clause is read that names no skill. -/
theorem parse_everywhere {text : String} {r : Requirement} (h : parse text = some r) :
    r.Everywhere (· ≠ .trainedSkill "") ∧
      (r.Everywhere IsNoEmptyList ↔
        ∀ s, Reads (normalForm text.toList) s → ¬ NamesNoSkill s) :=
  ⟨ofNormalForm_names _ (endsTrimmed_normalForm _) h,
    ofNormalForm_lists _ (endsTrimmed_normalForm _) h⟩

/-- Nothing is empty in the name of a feat and a list of skills. -/
theorem parse_everywhere_dodge :
    ∃ r, parse "Dodge or trained in Stealth, Pilot" = some r ∧ r.Everywhere (· ≠ .trainedSkill "") ∧
      (r.Everywhere IsNoEmptyList ↔
        ∀ s, Reads (normalForm "Dodge or trained in Stealth, Pilot".toList) s →
          ¬ NamesNoSkill s) := by
  have hsome : (parse "Dodge or trained in Stealth, Pilot").isSome = true := by decide +kernel
  obtain ⟨r, hr⟩ := Option.isSome_iff_exists.mp hsome
  exact ⟨r, hr, parse_everywhere hr⟩

/-- A clause on training that asks for nothing, so that everybody meets it. -/
theorem parse_trained_in_comma :
    ∃ r, parse "trained in ," = some r ∧ ¬ r.Everywhere IsNoEmptyList ∧
      ∀ c, r.isMet c = true := by
  have hform : normalForm "trained in ,".toList = "trained in ,".toList := by decide +kernel
  have hparts : parts "trained in ,".toList = [] := by decide +kernel
  have hparse : parse "trained in ," = some (.allOf []) := by
    rw [parse, hform, ofNormalForm_of_parts_eq_nil hparts]
    rfl
  exact ⟨_, hparse, fun h => (h _ .refl).2 rfl, fun c => by rw [isMet, allMet]⟩

end CharacterSheet.Clause
