import CharacterSheet.Proofs.Requirement.Grouped
import CharacterSheet.Proofs.Requirement.Termination

/-!
# Free alternatives

A clause `… or …` is met by whoever meets one of its two sides, in either order, since each side is
read as a clause of its own. Two things keep the sides from being read apart. Where the clause
begins with `trained in`, everything behind these words is one list of skills. And where it ends
with a qualifier, this is dropped, so a qualifier cannot be a side of its own.
-/

namespace CharacterSheet.Clause

open Text

/-! ## Joining two texts -/

/-- Two texts with `or` between them. -/
def join (a b : List Char) : List Char := a ++ " or ".toList ++ b

/-- Both sides are shorter than the clause. -/
theorem length_lt_join (a b : List Char) :
    a.length < (join a b).length ∧ b.length < (join a b).length := by
  have hor : " or ".toList.length = 4 := by decide
  simp only [join, List.length_append, hor]
  omega

/-- Texts between which the separator is the first `or` are split there. -/
theorem splitChars_join {a b : List Char} (ha : ¬ " or ".toList <:+: a ++ " or".toList)
    (hb : ¬ " or ".toList <:+: b) : splitChars " or ".toList (join a b) = [a, b] := by
  rw [join, splitChars_between (by decide) ha hb]

/-- A text without the word `or` neither has it between blanks nor ends with it. -/
theorem not_infix_append_or {s : List Char} (h : "or".toList ∉ wordsBetween isBlank s) :
    ¬ " or ".toList <:+: s ++ " or".toList := by
  have hspace : isBlank ' ' = true := by decide
  have hword : ∀ c ∈ "or".toList, isBlank c = false := by decide
  exact not_infix_append_word hspace (by decide) hword h

/-- A text without the word `or` does not have it between plain spaces. -/
theorem not_infix_or {s : List Char} (h : "or".toList ∉ wordsBetween isBlank s) :
    ¬ " or ".toList <:+: s :=
  fun hin => not_infix_append_or h (hin.trans (List.prefix_append _ _).isInfix)

/-! ## The forms that a join can have -/

/-- The word is followed by its second side. -/
theorem continuesWithOr_append {b : List Char} (hne : b ≠ []) (hline : '\n' ∉ b)
    (hhead : trimStartChars b = b) : continuesWithOr (" or ".toList ++ b) = true := by
  have hspace : isBlank ' ' = true := by decide
  have ho : isBlank 'o' = false := by decide
  have hblanks : blanks? (" or ".toList ++ b) = some ("or".toList ++ ' ' :: b) := by
    simp [blanks?, trimStartChars, hspace, ho]
  have hblanks' : blanks? (' ' :: b) = some b := by
    simp [blanks?, hspace, hhead]
  have hor : "or".toList.isPrefixOf? ("or".toList ++ ' ' :: b) = some (' ' :: b) := by
    rw [List.isPrefixOf?_eq_some_iff_append_eq]
  rw [continuesWithOr, hblanks, Option.bind_some, hor]
  simp [hblanks', hne, hline]

/-- Two sides have an `or` between blanks. -/
theorem hasFreeOr_join {a b : List Char} (hne : a ≠ []) (hline : '\n' ∉ a) (hne' : b ≠ [])
    (hline' : '\n' ∉ b) (hhead : trimStartChars b = b) : hasFreeOr (join a b) = true := by
  have hor := continuesWithOr_append hne' hline' hhead
  rw [join, List.append_assoc]
  -- the free `or` is looked for at every place behind the first character, until `b` is reached
  induction a with
  | nil => exact absurd rfl hne
  | cons c rest ih =>
    have hc : c ≠ '\n' := fun h => hline (by simp [h])
    rw [List.cons_append, hasFreeOr, decide_eq_true hc, Bool.true_and, Bool.or_eq_true]
    by_cases hrest : rest = []
    · rw [hrest]
      exact .inl hor
    · exact .inr (ih hrest fun h => hline (by simp [h]))

/-- A narrative phrase is in one of the sides. -/
theorem isNarrative_join (a b : List Char) :
    isNarrative (join a b) = (isNarrative a || isNarrative b) := by
  have hbeside : ∀ p ∈ narrativePhrases, IsBeside " or ".toList p := by decide
  exact isNarrative_eq_or fun p hp => (hbeside p hp).infix_append_iff

/-- The text begins with `trained in`, and a plain space or nothing stands behind it. -/
def OpensTraining (s : List Char) : Prop := "trained in ".toList <+: s ++ [' ']

instance (s : List Char) : Decidable (OpensTraining s) :=
  inferInstanceAs (Decidable (_ <+: _))

/-- If two sides begin with `trained in`, the first one does. -/
theorem opensTraining_of_prefix_join {a b : List Char} (h : "trained in ".toList <+: join a b) :
    OpensTraining a := by
  have hor : a ++ " o".toList <+: join a b := by
    rw [join, List.append_assoc, List.prefix_append_right_inj]
    exact ⟨"r ".toList ++ b, by simp⟩
  rcases List.prefix_or_prefix_of_prefix h hor with hin | hin
  · have hconcat : a ++ " o".toList = (a ++ [' ']) ++ ['o'] := by simp
    rw [hconcat, List.prefix_concat_iff] at hin
    rcases hin with heq | hin
    · -- the beginning does not end with an `o`
      have hlast := congrArg List.getLast? heq
      rw [List.getLast?_concat] at hlast
      exact absurd hlast (by decide)
    · exact hin
  · have hnot : ¬ " o".toList <:+: "trained in ".toList := by decide
    exact absurd ((List.suffix_append _ _).isInfix.trans hin.isInfix) hnot

/-- Unless the first side begins with `trained in`, the clause is not one on training. -/
theorem trained?_join {a : List Char} (h : ¬ OpensTraining a) (b : List Char) :
    trained? (join a b) = none := by
  rw [trained?, Option.map_eq_none_iff, Option.eq_none_iff_forall_ne_some]
  intro rest hrest
  obtain ⟨hs, -⟩ := restOfLine?_eq_some_iff.mp hrest
  exact h (opensTraining_of_prefix_join ⟨rest, hs.symm⟩)

/-- Sides in small letters are joined to a text in small letters. -/
theorem isSmall_join {a b : List Char} (ha : ∀ c ∈ a, IsSmall c) (hb : ∀ c ∈ b, IsSmall c) :
    ∀ c ∈ join a b, IsSmall c := by
  have hsmall : IsSmall ' ' ∧ IsSmall 'o' ∧ IsSmall 'r' := by decide
  have hor : ∀ c ∈ " or ".toList, IsSmall c := by simp [hsmall]
  intro c hc
  rw [join, List.mem_append, List.mem_append] at hc
  rcases hc with (hc | hc) | hc
  · exact ha c hc
  · exact hor c hc
  · exact hb c hc

/-- Two texts in normal form, of which the second one is more than a qualifier, are joined to a text
in normal form. -/
theorem IsNormal.join {a b : List Char} (ha : IsNormal a) (hb : IsNormal b) (hne : a ≠ [])
    (hne' : b ≠ []) (hq : b ∉ qualifiers) : IsNormal (join a b) := by
  constructor
  · exact isSmall_join ha.small hb.small
  · intro h
    simpa [Clause.join, List.head_append, hne] using ha.head hne
  · intro h
    simpa [Clause.join, List.getLast_append, hne'] using hb.last hne'
  · intro q hmem hsuffix
    -- in no qualifier a blank stands behind an `r`, as it does at the end of the separator
    have hinner : ∀ q ∈ qualifiers, ¬ "r ".toList <:+: ' ' :: q := by decide
    have hr : 'r' :: ' ' :: b <:+ Clause.join a b := ⟨a ++ " o".toList, by simp [Clause.join]⟩
    rcases List.suffix_or_suffix_of_suffix hr hsuffix with hin | hin
    · have hstart : "r ".toList <+: 'r' :: ' ' :: b := ⟨b, by simp⟩
      exact hinner q hmem (hstart.isInfix.trans hin.isInfix)
    · rcases List.suffix_cons_iff.mp hin with heq | hin
      · cases heq
      · rcases List.suffix_cons_iff.mp hin with heq | hin
        · cases heq
          exact hq hmem
        · exact hb.unqualified q hmem hin

/-! ## Alternatives -/

/-- A plain clause in normal form without the word `or`. -/
structure IsAlternative (clause : String) : Prop extends IsPlain clause where
  normal : normalize clause = clause
  no_or : "or".toList ∉ wordsBetween isBlank clause.toList

instance (clause : String) : Decidable (IsAlternative clause) :=
  decidable_of_iff (IsPlain clause ∧ normalize clause = clause ∧
      "or".toList ∉ wordsBetween isBlank clause.toList)
    ⟨fun h => ⟨h.1, h.2.1, h.2.2⟩, fun h => ⟨h.toIsPlain, h.normal, h.no_or⟩⟩

/-- The characters of an alternative are their normal form. -/
theorem IsAlternative.normalForm_eq {clause : String} (h : IsAlternative clause) :
    normalForm clause.toList = clause.toList := by
  have hnormal := congrArg String.toList h.normal
  rwa [normalize, String.toList_ofList] at hnormal

/-- An alternative is normal. -/
theorem IsAlternative.isNormal {clause : String} (h : IsAlternative clause) :
    IsNormal clause.toList :=
  normalForm_eq_self_iff.mp h.normalForm_eq

/-- The clause with two sides. -/
def either (a b : String) : String := a ++ " or " ++ b

/-- The characters of a clause with two sides. -/
theorem toList_either (a b : String) : (either a b).toList = join a.toList b.toList := by
  simp [either, join]

/-- Two alternatives that put together ask neither for appendages nor for a size. -/
structure AreAlternatives (a b : String) : Prop where
  first : IsAlternative a
  second : IsAlternative b
  no_appendage : appendage? (either a b).toList = none
  no_size : sizeOrLarger? (either a b).toList = none

instance (a b : String) : Decidable (AreAlternatives a b) :=
  decidable_of_iff (IsAlternative a ∧ IsAlternative b ∧
      (appendage? (either a b).toList).isNone = true ∧
      (sizeOrLarger? (either a b).toList).isNone = true)
    ⟨fun h => ⟨h.1, h.2.1, Option.isNone_iff_eq_none.mp h.2.2.1,
        Option.isNone_iff_eq_none.mp h.2.2.2⟩,
      fun h => ⟨h.first, h.second, Option.isNone_iff_eq_none.mpr h.no_appendage,
        Option.isNone_iff_eq_none.mpr h.no_size⟩⟩

/-- A text without the word `or` has none between blanks, plain spaces or others. -/
theorem isSpaced_of_no_or {s : List Char} (h : "or".toList ∉ wordsBetween isBlank s) :
    IsSpaced s := by
  have hword : wordsBetween isBlank "or".toList = ["or".toList] :=
    wordsBetween_eq_singleton (by decide) (by decide)
  rintro b b' ⟨front, rest, rfl⟩ hb hb'
  have htext : front ++ [b, 'o', 'r', b'] ++ rest = front ++ b :: ("or".toList ++ b' :: rest) := by
    simp
  rw [htext, wordsBetween_append_cons hb, wordsBetween_append_cons hb', hword] at h
  exact absurd (by simp) h

/-- An alternative is always read. -/
theorem IsAlternative.exists_isMet? {clause : String} (h : IsAlternative clause) (c : Character) :
    ∃ met, isMet? clause c = some met := by
  obtain ⟨r, hr, -⟩ := exists_readWithin h.isNormal.small (isSpaced_of_no_or h.no_or) le_rfl
  exact ⟨r.isMet c, by rw [isMet?_eq_map, parse, h.normalForm_eq, hr, Option.map_some]⟩

section Sides

variable {a b : String} (h : AreAlternatives a b) (c : Character)

include h

/-- A narrative phrase in one side makes the whole clause narrative. -/
theorem AreAlternatives.isMet?_narrative
    (hnarrative : (isNarrative a.toList || isNarrative b.toList) = true) :
    isMet? (either a b) c = some true ∧ (isMet? a c = some true ∨ isMet? b c = some true) := by
  -- a narrative clause is met by everybody, whatever else it says
  have hmet : ∀ {s : String}, (∀ d ∈ s.toList, IsSmall d) → isNarrative s.toList = true →
      isMet? s c = some true := fun hsmall hin =>
    isMet?_of_isNarrative (by rwa [isNarrative_normalForm, lowerChars, lowerFrom_of_isSmall hsmall])
      c
  have ha := h.first.isNormal.small
  have hb := h.second.isNormal.small
  constructor
  · apply hmet
    · rw [toList_either]
      exact isSmall_join ha hb
    · rwa [toList_either, isNarrative_join]
  · exact (Bool.or_eq_true_iff.mp hnarrative).imp (hmet ha) (hmet hb)

/-- Unless the clause begins with `trained in` or ends with a qualifier, the sides are read as
clauses. -/
theorem AreAlternatives.parse_either
    (hnarrative : (isNarrative a.toList || isNarrative b.toList) = false)
    (htrained : ¬ OpensTraining a.toList) (hq : b.toList ∉ qualifiers) :
    parse (either a b) = ([a, b].mapM parse).map .anyOf := by
  have ha := h.first
  have hb := h.second
  have hnormal : normalForm (join a.toList b.toList) = join a.toList b.toList :=
    normalForm_eq_self_iff.mpr (ha.isNormal.join hb.isNormal ha.ne_nil hb.ne_nil hq)
  have hgroups : groups? (join a.toList b.toList) = none := by
    obtain ⟨d, rest, heq⟩ := List.exists_cons_of_ne_nil ha.ne_nil
    have hd : d ≠ '(' := fun hopen => ha.no_open (by simp [heq, hopen])
    rw [heq, join, List.cons_append, List.cons_append]
    exact groups?_cons_of_ne hd _
  have hbefore : beforeOr? (join a.toList b.toList) = none := by
    have happendage := h.no_appendage
    have hsize := h.no_size
    rw [toList_either] at happendage hsize
    rw [beforeOr?, trained?_join htrained, happendage, hsize]
    rfl
  have hor : hasFreeOr (join a.toList b.toList) = true :=
    hasFreeOr_join ha.ne_nil ha.one_line hb.ne_nil hb.one_line
      (trimStartChars_eq_self_iff.mpr hb.isNormal.head)
  have hsplit := splitChars_join (not_infix_append_or ha.no_or) (not_infix_or hb.no_or)
  have hparts : parts (join a.toList b.toList) = [a.toList, b.toList] := by
    simp only [parts, isNarrative_join, hnarrative, hgroups, hbefore, hor, hsplit,
      Option.isNone_none, Bool.and_self, Bool.false_eq_true, if_false, if_true]
  -- both sides are shorter than the clause, so they are read as clauses
  obtain ⟨hlt, hlt'⟩ := length_lt_join a.toList b.toList
  rw [parse, toList_either, hnormal, ofNormalForm_of_parts_ne_nil (by simp [hparts]), hparts]
  simp only [List.mapM_cons, List.mapM_nil, readPart, parse, ha.normalForm_eq, hb.normalForm_eq,
    if_pos hlt, if_pos hlt']

/-- Such a clause is met by whoever meets one of its sides. -/
theorem AreAlternatives.isMet?_either
    (hnarrative : (isNarrative a.toList || isNarrative b.toList) = false)
    (htrained : ¬ OpensTraining a.toList) (hq : b.toList ∉ qualifiers) :
    ∃ met met', isMet? a c = some met ∧ isMet? b c = some met' ∧
      isMet? (either a b) c = some (met || met') := by
  obtain ⟨met, hmet⟩ := h.first.exists_isMet? c
  obtain ⟨met', hmet'⟩ := h.second.exists_isMet? c
  -- both sides can be read, and the clause asks for one of what they ask for
  refine ⟨met, met', hmet, hmet', ?_⟩
  rw [isMet?_eq_map, Option.map_eq_some_iff] at hmet hmet'
  obtain ⟨r, hr, rfl⟩ := hmet
  obtain ⟨r', hr', rfl⟩ := hmet'
  simp [isMet?_eq_map, h.parse_either hnarrative htrained hq, hr, hr', Requirement.isMet,
    Requirement.anyMet]

end Sides

/-! ## Lists of skills -/

/-- The skills that a list divided by commas names. -/
def skillNames (s : List Char) : List String :=
  (((splitWhere (· == ',') s).map trimChars).filter (!·.isEmpty)).map String.ofList

/-- Whether a text asks for any Knowledge skill. -/
def asksForKnowledge (s : List Char) : Bool :=
  containsChars "at least one knowledge skill".toList s

/-- Whether a character is trained as the two parts of a list of skills ask for. -/
def isTrainedAs (c : Character) (s t : List Char) : Bool :=
  if asksForKnowledge s || asksForKnowledge t then Requirement.anyKnowledgeSkill.isMet c
  else (skillNames s ++ skillNames t).any fun skill => (Requirement.trainedSkill skill).isMet c

/-- A list of skills asks for training in each skill that its parts name. -/
theorem skillList_eq_map (word s : List Char) :
    skillList word s = ((splitChars word s).flatMap skillNames).map .trainedSkill := by
  simp [skillList, skillNames, List.filter_flatMap, List.map_flatMap, Function.comp_def]

/-- Blanks at the beginning of a list of skills do not matter. -/
theorem skillNames_trimStartChars (s : List Char) :
    skillNames (trimStartChars s) = skillNames s := by
  induction s with
  | nil => rfl
  | cons c rest ih =>
    rw [trimStartChars, List.dropWhile_cons]
    split
    · next hc =>
      have hcomma : (c == ',') = false := by
        rw [beq_eq_false_iff_ne]
        rintro rfl
        exact absurd hc (by decide)
      -- the blank in front belongs to the first name, which is trimmed on its own
      obtain ⟨first, others, hpieces⟩ :=
        List.exists_cons_of_ne_nil (splitWhere_ne_nil (· == ',') rest)
      have htrim : trimChars (c :: first) = trimChars first := by
        simp [trimChars, trimStartChars, hc]
      refine Eq.trans ih ?_
      simp only [skillNames, splitWhere, hcomma, hpieces, List.modifyHead_cons, List.map_cons,
        htrim, Bool.false_eq_true, if_false]
    · rfl

/-- Only the blanks before the first side are trimmed. -/
theorem trimChars_join {s t : List Char} (hs : trimStartChars s ≠ []) (hne : t ≠ [])
    (ht : isBlank (t.getLast hne) = false) :
    trimChars (join s t) = join (trimStartChars s) t := by
  have hstart : trimStartChars (join s t) = join (trimStartChars s) t := by
    rw [trimStartChars, join, List.append_assoc, List.dropWhile_append,
      if_neg (by rwa [List.isEmpty_iff]), ← List.append_assoc]
    rfl
  rw [trimChars, hstart, trimEndChars_eq_self_iff]
  intro h
  simpa [join, List.getLast_append, hne] using ht

/-- The phrase for any Knowledge skill is in one of the sides. -/
theorem asksForKnowledge_join (s t : List Char) :
    asksForKnowledge (join (trimStartChars s) t) = (asksForKnowledge s || asksForKnowledge t) := by
  have hbeside : IsBeside " or ".toList "at least one knowledge skill".toList := by decide
  rw [Bool.eq_iff_iff, Bool.or_eq_true, asksForKnowledge, asksForKnowledge, asksForKnowledge,
    containsChars_iff, containsChars_iff, containsChars_iff, join, hbeside.infix_append_iff,
    trimStartChars, infix_dropWhile_iff (by decide) (by decide)]

/-- Two parts of a list of skills with `or` between them ask for any of their skills. -/
theorem isMet_training_join (c : Character) {s t : List Char} (hs : trimStartChars s ≠ [])
    (hor : ¬ " or ".toList <:+: s ++ " or".toList) (hor' : ¬ " or ".toList <:+: t) (hne : t ≠ [])
    (ht : isBlank (t.getLast hne) = false) :
    (training (join s t)).isMet c = isTrainedAs c s t := by
  have hcontains : containsChars " or ".toList (join (trimStartChars s) t) = true :=
    containsChars_iff.mpr ⟨trimStartChars s, t, rfl⟩
  have hfirst : ¬ " or ".toList <:+: trimStartChars s ++ " or".toList := by
    obtain ⟨front, hfront⟩ := List.dropWhile_suffix (l := s) isBlank
    have hends : trimStartChars s ++ " or".toList <:+ s ++ " or".toList :=
      ⟨front, by rw [← List.append_assoc]; exact congrArg (· ++ " or".toList) hfront⟩
    exact fun hin => hor (hin.trans hends.isInfix)
  have hskills : skillList " or ".toList (join (trimStartChars s) t) =
      (skillNames s ++ skillNames t).map .trainedSkill := by
    rw [skillList_eq_map, splitChars_join hfirst hor']
    simp [skillNames_trimStartChars]
  have hknowledge := asksForKnowledge_join s t
  rw [asksForKnowledge] at hknowledge
  simp only [training, trimChars_join hs hne ht, hknowledge, hcontains, hskills, if_true]
  rw [isTrainedAs]
  split
  · rfl
  · rw [Requirement.isMet, Requirement.anyMet_eq_any, List.any_map]
    rfl

/-- Behind `trained in` both sides are one list of skills. -/
theorem AreAlternatives.isMet?_trained {skills b : String}
    (h : AreAlternatives ("trained in " ++ skills) b) (c : Character)
    (hnarrative : (isNarrative ("trained in " ++ skills).toList || isNarrative b.toList) = false)
    (hq : b.toList ∉ qualifiers) :
    isMet? (either ("trained in " ++ skills) b) c =
      some (isTrainedAs c skills.toList b.toList) := by
  obtain ⟨ha, hb, -, -⟩ := h
  have hline : '\n' ∉ join skills.toList b.toList := by
    have hskills : '\n' ∉ skills.toList := fun hin => ha.one_line (by simp [hin])
    simp [join, hskills, hb.one_line]
  have hrest : restOfLine? "trained in ".toList (join ("trained in " ++ skills).toList b.toList) =
      some (join skills.toList b.toList) :=
    restOfLine?_eq_some_iff.mpr ⟨by simp [join], by simp [join], hline⟩
  -- the side does not end with a blank, so a skill stands behind its beginning
  have hskills : trimStartChars skills.toList ≠ [] := by
    intro hnil
    have hblank : ∀ d ∈ ' ' :: skills.toList, isBlank d = true :=
      List.forall_mem_cons.mpr ⟨by decide, List.dropWhile_eq_nil_iff.mp hnil⟩
    have hside : IsNormal ("trained in".toList ++ ' ' :: skills.toList) := by
      simpa using ha.isNormal
    have hlast := hside.isBlank_getLast (List.cons_ne_nil _ _)
    rw [hblank _ (List.getLast_mem _)] at hlast
    cases hlast
  have hor : ¬ " or ".toList <:+: skills.toList ++ " or".toList := fun hin =>
    not_infix_append_or ha.no_or (hin.trans ⟨"trained in ".toList, [], by simp⟩)
  have hlast : isBlank (b.toList.getLast hb.ne_nil) = false :=
    IsNormal.isBlank_getLast (u := []) hb.isNormal hb.ne_nil
  have hnormal := ha.isNormal.join hb.isNormal ha.ne_nil hb.ne_nil hq
  rw [isMet?_eq_map, parse, toList_either, normalForm_eq_self_iff.mpr hnormal]
  rw [ofNormalForm_of_restOfLine? (by rw [isNarrative_join, hnarrative]) hrest, Option.map_some]
  exact congrArg some (isMet_training_join c hskills hor (not_infix_or hb.no_or) hb.ne_nil hlast)

/-! ## The law of alternatives -/

/-- Two alternatives are read and mean either of them if a phrase in them is narrative, or if the
first one does not begin with `trained in` and the second one is no bare qualifier. Alternatives
that begin with `trained in` otherwise mean any of the skills that they name. -/
theorem either_meansAnyOf {a b : String} (h : AreAlternatives a b) (c : Character) :
    (isNarrative a.toList = true ∨ isNarrative b.toList = true ∨
        (¬ OpensTraining a.toList ∧ b.toList ∉ qualifiers) →
      (∀ clause ∈ [a, b, either a b], (isMet? clause c).isSome = true) ∧
        MeansAnyOf (either a b) [a, b] c) ∧
    ∀ skills, a = "trained in " ++ skills → isNarrative a.toList = false →
      isNarrative b.toList = false → b.toList ∉ qualifiers →
      isMet? (either a b) c = some (isTrainedAs c skills.toList b.toList) := by
  constructor
  · intro hcase
    -- a narrative side makes the whole narrative; otherwise the clause is read side by side
    cases hnarrative : isNarrative a.toList || isNarrative b.toList with
    | true =>
      obtain ⟨heither, hside⟩ := h.isMet?_narrative c hnarrative
      obtain ⟨met, hmet⟩ := h.first.exists_isMet? c
      obtain ⟨met', hmet'⟩ := h.second.exists_isMet? c
      exact ⟨by simp [heither, hmet, hmet'], by simpa [MeansAnyOf, heither] using hside⟩
    | false =>
      obtain ⟨ha, hb⟩ := Bool.or_eq_false_iff.mp hnarrative
      simp only [ha, hb, Bool.false_eq_true, false_or] at hcase
      obtain ⟨met, met', hmet, hmet', heither⟩ := h.isMet?_either c hnarrative hcase.1 hcase.2
      exact ⟨by simp [heither, hmet, hmet'], by simp [MeansAnyOf, heither, hmet, hmet']⟩
  · rintro skills rfl ha hb hq
    exact h.isMet?_trained c (by rw [ha, hb]; rfl) hq

/-- A list of skills as the second side is a side like any other, as the first side it takes in what
stands behind it. -/
theorem either_meansAnyOf_dodge :
    AreAlternatives "dex 13" "trained in stealth, pilot" ∧
      MeansAnyOf (either "dex 13" "trained in stealth, pilot")
        ["dex 13", "trained in stealth, pilot"] dodger ∧
      AreAlternatives "trained in stealth, pilot" "dodge" ∧
      isMet? (either "trained in stealth, pilot" "dodge") dodger =
        some (isTrainedAs dodger "stealth, pilot".toList "dodge".toList) := by
  have hdex : AreAlternatives "dex 13" "trained in stealth, pilot" := by decide +kernel
  have hskills : AreAlternatives "trained in stealth, pilot" "dodge" := by decide +kernel
  have hapart : ¬ OpensTraining "dex 13".toList ∧
      "trained in stealth, pilot".toList ∉ qualifiers := by decide +kernel
  refine ⟨hdex, ((either_meansAnyOf hdex dodger).1 (.inr (.inr hapart))).2, hskills, ?_⟩
  exact (either_meansAnyOf hskills dodger).2 "stealth, pilot" (by decide) (by decide +kernel)
    (by decide +kernel) (by decide +kernel)

/-- A character with one feat meets one of the sides each time, but not the clause. -/
theorem not_meansAnyOf_trained :
    (AreAlternatives "trained in stealth" "dodge" ∧
      ¬ MeansAnyOf (either "trained in stealth" "dodge") ["trained in stealth", "dodge"] dodger) ∧
    (AreAlternatives "trained in" "dodge" ∧
      ¬ MeansAnyOf (either "trained in" "dodge") ["trained in", "dodge"] dodger) ∧
    (AreAlternatives "dodge" "feat" ∧
      ¬ MeansAnyOf (either "dodge" "feat") ["dodge", "feat"] dodger) := by
  decide +kernel

end CharacterSheet.Clause
