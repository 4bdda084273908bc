import CharacterSheet.Proofs.Requirement.Alternatives

/-!
# Lists of skills

A clause `trained in …` that lists skills is read back as it is written: the skills in their order,
any of them behind `or`, all of them behind `and` or with commas alone. A comma before the last
skill's word leaves a blank item, which is dropped.
-/

namespace CharacterSheet.Clause

open Text

/-! ## Items and commas -/

/-- The name of a skill that a list can hold: one line that is neither blank nor divided. -/
structure IsListItem (skill : String) : Prop where
  ne_empty : skill ≠ ""
  trimmed : Text.trim skill = skill
  one_line : '\n' ∉ skill.toList
  no_comma : ',' ∉ skill.toList
  no_or : "or".toList ∉ wordsBetween isBlank skill.toList
  no_and : "and".toList ∉ wordsBetween isBlank skill.toList

instance (skill : String) : Decidable (IsListItem skill) :=
  decidable_of_iff (skill ≠ "" ∧ Text.trim skill = skill ∧ '\n' ∉ skill.toList ∧
      ',' ∉ skill.toList ∧ "or".toList ∉ wordsBetween isBlank skill.toList ∧
      "and".toList ∉ wordsBetween isBlank skill.toList)
    ⟨fun h => ⟨h.1, h.2.1, h.2.2.1, h.2.2.2.1, h.2.2.2.2.1, h.2.2.2.2.2⟩,
      fun h => ⟨h.ne_empty, h.trimmed, h.one_line, h.no_comma, h.no_or, h.no_and⟩⟩

/-- What may stand behind a comma: blanks that do not end the line, or nothing. -/
def IsGap (gap : String) : Prop := ∀ c ∈ gap.toList, isBlank c = true ∧ c ≠ '\n'

instance (gap : String) : Decidable (IsGap gap) := inferInstanceAs (Decidable (∀ _ ∈ _, _))

/-- Skills divided by commas, with the same blanks behind each. -/
def commaList (gap : String) (skills : List String) : String := ("," ++ gap).intercalate skills

/-- The first skill of a list stands before a comma and a gap. -/
theorem toList_commaList_cons (gap skill : String) {skills : List String} (hne : skills ≠ []) :
    (commaList gap (skill :: skills)).toList =
      skill.toList ++ ',' :: (gap.toList ++ (commaList gap skills).toList) := by
  simp [commaList, String.intercalate_cons_of_ne_nil hne]

/-- A single skill stands alone. -/
theorem toList_commaList_singleton (gap skill : String) :
    (commaList gap [skill]).toList = skill.toList := by
  rw [commaList, String.intercalate_singleton]

/-! ## Texts that list skills -/

/-- A comma divides the names of skills. -/
theorem skillNames_append_comma (u v : List Char) :
    skillNames (u ++ ',' :: v) = skillNames u ++ skillNames v := by
  simp [skillNames, splitWhere_append_cons]

/-- Blanks before a list name no skill. -/
theorem skillNames_append_of_blanks {gap : List Char} (h : ∀ c ∈ gap, isBlank c = true)
    (s : List Char) : skillNames (gap ++ s) = skillNames s := by
  rw [← skillNames_trimStartChars, trimStartChars_append_of_blanks h, skillNames_trimStartChars]

/-- A text on one line, not blank at its beginning, that names skills with nothing but commas
between them. -/
structure Lists (s : List Char) (skills : List String) : Prop where
  ne_nil : s ≠ []
  trimmed : trimStartChars s = s
  one_line : '\n' ∉ s
  no_or : "or".toList ∉ wordsBetween isBlank s
  no_and : "and".toList ∉ wordsBetween isBlank s
  names : skillNames s = skills

/-- A single skill lists itself. -/
theorem IsListItem.lists {skill : String} (h : IsListItem skill) : Lists skill.toList [skill] := by
  have htrim : trimChars skill.toList = skill.toList := by
    have htrimmed := congrArg String.toList h.trimmed
    rwa [Text.trim, String.toList_ofList] at htrimmed
  have hstart : trimStartChars skill.toList = skill.toList := by
    have hsuffix : trimStartChars skill.toList <:+ skill.toList := List.dropWhile_suffix _
    have hprefix : trimChars skill.toList <+: trimStartChars skill.toList :=
      List.rdropWhile_prefix _ _
    rw [htrim] at hprefix
    exact hsuffix.eq_of_length_le hprefix.length_le
  have hsplit : splitWhere (· == ',') skill.toList = [skill.toList] := by
    apply splitWhere_of_forall
    intro c hc
    rw [beq_eq_false_iff_ne]
    rintro rfl
    exact h.no_comma hc
  exact ⟨by simpa using h.ne_empty, hstart, h.one_line, h.no_or, h.no_and,
    by simp [skillNames, hsplit, htrim, h.ne_empty]⟩

/-- A word without commas, of which two texts have none, is none of the texts with a comma between
them. -/
theorem not_mem_words_append_comma {word u v : List Char} (hword : ',' ∉ word)
    (hu : word ∉ wordsBetween isBlank u) (hv : word ∉ wordsBetween isBlank v) {gap : String}
    (hgap : IsGap gap) : word ∉ wordsBetween isBlank (u ++ ',' :: (gap.toList ++ v)) := by
  intro hin
  rcases mem_wordsBetween_append_cons hword hin with hin | hin
  · exact hu hin
  · rw [wordsBetween_append_of_gaps fun c hc => (hgap c hc).1] at hin
    exact hv hin

/-- Two lists with a comma between them are one list. -/
theorem Lists.append_comma {u v : List Char} {skills others : List String} (hu : Lists u skills)
    (hv : Lists v others) {gap : String} (hgap : IsGap gap) :
    Lists (u ++ ',' :: (gap.toList ++ v)) (skills ++ others) := by
  have hblanks : ∀ c ∈ gap.toList, isBlank c = true := fun c hc => (hgap c hc).1
  have hline : '\n' ∉ gap.toList := fun hc => (hgap _ hc).2 rfl
  constructor
  · simp
  · exact trimStartChars_append hu.ne_nil hu.trimmed _
  · simp [hu.one_line, hv.one_line, hline]
  · exact not_mem_words_append_comma (by decide) hu.no_or hv.no_or hgap
  · exact not_mem_words_append_comma (by decide) hu.no_and hv.no_and hgap
  · rw [skillNames_append_comma, skillNames_append_of_blanks hblanks, hu.names, hv.names]

/-- A comma at the end of a list names no skill. -/
theorem Lists.append_last_comma {u : List Char} {skills : List String} (hu : Lists u skills) :
    Lists (u ++ [',']) skills := by
  have hgap : IsGap "" := by decide
  constructor
  · simp
  · exact trimStartChars_append hu.ne_nil hu.trimmed _
  · simp [hu.one_line]
  · exact not_mem_words_append_comma (by decide) hu.no_or (by decide) hgap
  · exact not_mem_words_append_comma (by decide) hu.no_and (by decide) hgap
  · rw [skillNames_append_comma, hu.names]
    exact List.append_nil _

/-- A list with commas lists its skills. -/
theorem lists_commaList {gap : String} (hgap : IsGap gap) {skills : List String}
    (hne : skills ≠ []) (hskills : ∀ skill ∈ skills, IsListItem skill) :
    Lists (commaList gap skills).toList skills := by
  induction skills with
  | nil => exact absurd rfl hne
  | cons skill skills ih =>
    have hskill : Lists skill.toList [skill] := (hskills skill (by simp)).lists
    by_cases hrest : skills = []
    · rw [hrest, toList_commaList_singleton]
      exact hskill
    · rw [toList_commaList_cons gap skill hrest]
      exact hskill.append_comma (ih hrest fun other h => hskills other (by simp [h])) hgap

/-! ## What a list asks for -/

/-- The words that divide a list of skills are neither empty nor blank. -/
theorem dividing_words : ∀ word ∈ ["or".toList, "and".toList],
    word ≠ [] ∧ ∀ c ∈ word, isBlank c = false := by decide

/-- A text with a word between plain spaces is split at the only place where it stands. -/
theorem skillList_between {word u v : List Char} (hne : word ≠ [])
    (hword : ∀ c ∈ word, isBlank c = false) (hu : word ∉ wordsBetween isBlank u)
    (hv : word ∉ wordsBetween isBlank v) :
    skillList (' ' :: (word ++ [' '])) (u ++ ' ' :: (word ++ [' ']) ++ v) =
      (skillNames u ++ skillNames v).map .trainedSkill := by
  have hspace : isBlank ' ' = true := by decide
  have hlast : (' ' :: (word ++ [' '])).dropLast = ' ' :: word := by
    rw [← List.cons_append, List.dropLast_concat]
  have hfirst := not_infix_append_word hspace hne hword hu
  have hbehind := not_infix_word hspace hne hword hv
  rw [skillList_eq_map, splitChars_between (List.cons_ne_nil _ _) (by rwa [hlast]) hbehind]
  simp

section Training

variable {u v : List Char} {skills others : List String}

/-- Two lists with `or` between them ask for any of their skills. -/
theorem training_or (hu : Lists u skills) (hv : Lists v others)
    (htrim : trimChars (u ++ " or ".toList ++ v) = u ++ " or ".toList ++ v)
    (hknowledge : asksForKnowledge (u ++ " or ".toList ++ v) = false) :
    training (u ++ " or ".toList ++ v) = .anyOf ((skills ++ others).map .trainedSkill) := by
  obtain ⟨hne, hword⟩ := dividing_words "or".toList (by simp)
  have hor : containsChars " or ".toList (u ++ " or ".toList ++ v) = true :=
    containsChars_iff.mpr ⟨u, v, rfl⟩
  have hskills : skillList " or ".toList (u ++ " or ".toList ++ v) =
      (skillNames u ++ skillNames v).map .trainedSkill :=
    skillList_between hne hword hu.no_or hv.no_or
  rw [asksForKnowledge] at hknowledge
  rw [training, htrim, hskills, hu.names, hv.names]
  simp only [hknowledge, hor, Bool.false_eq_true, if_false, if_true]

/-- Two lists with `and` between them ask for all of their skills. -/
theorem training_and (hu : Lists u skills) (hv : Lists v others)
    (htrim : trimChars (u ++ " and ".toList ++ v) = u ++ " and ".toList ++ v)
    (hknowledge : asksForKnowledge (u ++ " and ".toList ++ v) = false) :
    training (u ++ " and ".toList ++ v) = .allOf ((skills ++ others).map .trainedSkill) := by
  obtain ⟨hne, hword⟩ := dividing_words "and".toList (by simp)
  have hspace : isBlank ' ' = true := by decide
  have hand : containsChars " and ".toList (u ++ " and ".toList ++ v) = true :=
    containsChars_iff.mpr ⟨u, v, rfl⟩
  have hor : containsChars " or ".toList (u ++ " and ".toList ++ v) = false := by
    rw [← Bool.not_eq_true, containsChars_iff]
    apply not_infix_or
    -- the words of the list are those of its two parts and the one between them
    have htext : u ++ " and ".toList ++ v = u ++ ' ' :: ("and".toList ++ ' ' :: v) := by simp
    have hother : "or".toList ≠ "and".toList := by decide
    rw [htext, wordsBetween_append_cons hspace, wordsBetween_append_cons hspace,
      wordsBetween_eq_singleton hne hword, List.mem_append, List.mem_append, List.mem_singleton]
    simp only [hu.no_or, hv.no_or, hother, or_self, not_false_iff]
  have hskills : skillList " and ".toList (u ++ " and ".toList ++ v) =
      (skillNames u ++ skillNames v).map .trainedSkill :=
    skillList_between hne hword hu.no_and hv.no_and
  rw [asksForKnowledge] at hknowledge
  rw [training, htrim, hskills, hu.names, hv.names]
  simp only [hknowledge, hor, hand, Bool.true_or, Bool.false_eq_true, if_false, if_true]

/-- A list with commas alone asks for all of its skills. -/
theorem training_commas (hu : Lists u skills) (htrim : trimChars u = u)
    (hknowledge : asksForKnowledge u = false) (hcomma : ',' ∈ u) :
    training u = .allOf (skills.map .trainedSkill) := by
  obtain ⟨hne, hword⟩ := dividing_words "and".toList (by simp)
  have hspace : isBlank ' ' = true := by decide
  have hor : containsChars " or ".toList u = false := by
    rw [← Bool.not_eq_true, containsChars_iff]
    exact not_infix_or hu.no_or
  have hand : ¬ " and ".toList <:+: u := not_infix_word hspace hne hword hu.no_and
  have hskills : skillList " and ".toList u = (skillNames u).map .trainedSkill := by
    rw [skillList_eq_map, splitChars_of_not_isInfix hand, List.flatMap_singleton]
  have hlist : u.contains ',' = true := List.contains_iff_mem.mpr hcomma
  rw [asksForKnowledge] at hknowledge
  rw [training, htrim, hskills, hu.names]
  simp only [hknowledge, hor, hlist, Bool.or_true, Bool.false_eq_true, if_false, if_true]

end Training

/-! ## Reading a list back -/

/-- A clause in normal form that is neither left to the game master nor about any Knowledge
skill. -/
structure IsSkillClause (clause : String) : Prop where
  normal : normalize clause = clause
  not_narrative : isNarrative clause.toList = false
  not_knowledge : asksForKnowledge clause.toList = false

instance (clause : String) : Decidable (IsSkillClause clause) :=
  decidable_of_iff (normalize clause = clause ∧ isNarrative clause.toList = false ∧
      asksForKnowledge clause.toList = false)
    ⟨fun h => ⟨h.1, h.2.1, h.2.2⟩, fun h => ⟨h.normal, h.not_narrative, h.not_knowledge⟩⟩

/-- The clause that asks for training in what a list names. -/
def trainedIn (list : String) : String := "trained in " ++ list

/-- Such a clause asks for what stands behind `trained in`, which has no blanks at its ends. -/
theorem IsSkillClause.parse_eq {list : String} (h : IsSkillClause (trainedIn list))
    (hne : list.toList ≠ []) (htrimmed : trimStartChars list.toList = list.toList)
    (hline : '\n' ∉ list.toList) :
    parse (trainedIn list) = some (training list.toList) ∧ trimChars list.toList = list.toList ∧
      asksForKnowledge list.toList = false := by
  have hclause : (trainedIn list).toList = "trained in ".toList ++ list.toList := by
    rw [trainedIn, String.toList_append]
  have hfixed : normalForm (trainedIn list).toList = (trainedIn list).toList := by
    have hnormal := congrArg String.toList h.normal
    rwa [normalize, String.toList_ofList] at hnormal
  refine ⟨?_, ?_, ?_⟩
  · rw [parse, hfixed]
    -- nothing else applies to the clause, since it is normal and not narrative
    exact ofNormalForm_of_restOfLine? h.not_narrative
      (restOfLine?_eq_some_iff.mpr ⟨hclause, hne, hline⟩)
  · have hnormal : IsNormal ("trained in ".toList ++ list.toList) := by
      rwa [← hclause, ← normalForm_eq_self_iff]
    rw [trimChars, htrimmed, trimEndChars_eq_self_iff]
    exact hnormal.isBlank_getLast
  · have hknowledge := h.not_knowledge
    rw [asksForKnowledge, ← Bool.not_eq_true, containsChars_iff] at hknowledge ⊢
    rw [hclause] at hknowledge
    exact fun hin => hknowledge (hin.trans (List.suffix_append _ _).isInfix)

/-- A list of skills with a word before the last one, and perhaps a comma before the word. -/
def listWith (word gap : String) (front : List String) (serial : Bool) (last : String) : String :=
  commaList gap front ++ (if serial then "," else "") ++ " " ++ word ++ " " ++ last

section Rendered

variable {gap : String} (hgap : IsGap gap) {front : List String} {last : String}
  (hfront : front ≠ []) (hskills : ∀ skill ∈ front ++ [last], IsListItem skill)

include hgap hfront hskills

/-- What stands before the word lists all skills but the last one. -/
theorem listWith_eq (word : String) (serial : Bool) :
    ∃ u, Lists u front ∧ (listWith word gap front serial last).toList =
      u ++ ' ' :: (word.toList ++ [' ']) ++ last.toList := by
  have hlists := lists_commaList hgap hfront fun skill h => hskills skill (by simp [h])
  cases serial with
  | false => exact ⟨_, hlists, by simp [listWith]⟩
  | true => exact ⟨_, hlists.append_last_comma, by simp [listWith]⟩

/-- A clause with a word before the last skill asks for what its list does. -/
theorem parse_listWith {word : String} (hline : '\n' ∉ word.toList) {serial : Bool}
    (h : IsSkillClause (trainedIn (listWith word gap front serial last))) :
    ∃ u, Lists u front ∧
      let list := u ++ ' ' :: (word.toList ++ [' ']) ++ last.toList
      parse (trainedIn (listWith word gap front serial last)) = some (training list) ∧
        trimChars list = list ∧ asksForKnowledge list = false := by
  have hlast : Lists last.toList [last] := (hskills last (by simp)).lists
  obtain ⟨u, hu, hlist⟩ := listWith_eq hgap hfront hskills word serial
  refine ⟨u, hu, ?_⟩
  rw [← hlist]
  refine h.parse_eq ?_ ?_ ?_
  · simp [hlist]
  · rw [hlist, List.append_assoc]
    exact trimStartChars_append hu.ne_nil hu.trimmed _
  · simp [hlist, hu.one_line, hlast.one_line, hline]

/-- A list of skills is read back whole and in order: with `or` before the last one it asks for any
of them, with `and` or with commas alone for all. -/
theorem parse_skillList :
    (∀ serial, IsSkillClause (trainedIn (listWith "or" gap front serial last)) →
      parse (trainedIn (listWith "or" gap front serial last)) =
        some (.anyOf ((front ++ [last]).map .trainedSkill))) ∧
    (∀ serial, IsSkillClause (trainedIn (listWith "and" gap front serial last)) →
      parse (trainedIn (listWith "and" gap front serial last)) =
        some (.allOf ((front ++ [last]).map .trainedSkill))) ∧
    (IsSkillClause (trainedIn (commaList gap (front ++ [last]))) →
      parse (trainedIn (commaList gap (front ++ [last]))) =
        some (.allOf ((front ++ [last]).map .trainedSkill))) := by
  have hlast : Lists last.toList [last] := (hskills last (by simp)).lists
  refine ⟨fun serial h => ?_, fun serial h => ?_, fun h => ?_⟩
  -- the three ways to join the last skill differ in the divider alone
  · obtain ⟨u, hu, hparse, htrim, hknowledge⟩ :=
      parse_listWith hgap hfront hskills (by decide) h
    rw [hparse]
    exact congrArg some (training_or hu hlast htrim hknowledge)
  · obtain ⟨u, hu, hparse, htrim, hknowledge⟩ :=
      parse_listWith hgap hfront hskills (by decide) h
    rw [hparse]
    exact congrArg some (training_and hu hlast htrim hknowledge)
  · have hlists := lists_commaList hgap (by simp) hskills
    obtain ⟨hparse, htrim, hknowledge⟩ := h.parse_eq hlists.ne_nil hlists.trimmed hlists.one_line
    have hcomma : ',' ∈ (commaList gap (front ++ [last])).toList := by
      obtain ⟨first, rest, rfl⟩ := List.exists_cons_of_ne_nil hfront
      rw [List.cons_append, toList_commaList_cons gap first (by simp)]
      simp
    rw [hparse]
    exact congrArg some (training_commas hlists htrim hknowledge hcomma)

end Rendered

/-- Names that begin with the letters of a dividing word do not divide the list. -/
theorem parse_skillList_orbital :
    let front := ["knowledge (tactics)", "android repair"]
    let last := "orbital mechanics"
    let any := trainedIn (listWith "or" " " front true last)
    let all := trainedIn (commaList "" (front ++ [last]))
    any = "trained in knowledge (tactics), android repair, or orbital mechanics" ∧
      all = "trained in knowledge (tactics),android repair,orbital mechanics" ∧
      (IsGap " " ∧ IsGap "" ∧ front ≠ [] ∧ (∀ skill ∈ front ++ [last], IsListItem skill) ∧
        IsSkillClause any ∧ IsSkillClause all) ∧
      parse any = some (.anyOf ((front ++ [last]).map .trainedSkill)) ∧
      parse all = some (.allOf ((front ++ [last]).map .trainedSkill)) := by
  intro front last any all
  have hgap : IsGap " " ∧ IsGap "" := by decide
  have hfront : front ≠ [] := by decide
  have hskills : ∀ skill ∈ front ++ [last], IsListItem skill := by decide
  have hclauses : IsSkillClause any ∧ IsSkillClause all := by decide
  exact ⟨by decide, by decide,
    ⟨hgap.1, hgap.2, hfront, hskills, hclauses.1, hclauses.2⟩,
    (parse_skillList hgap.1 hfront hskills).1 true hclauses.1,
    (parse_skillList hgap.2 hfront hskills).2.2 hclauses.2⟩

end CharacterSheet.Clause
