import CharacterSheet.Proofs.Requirement.NormalForm

/-!
# The parts of a clause

What the forms of clauses take is read off them one by one. Only clauses with alternatives have
parts that are read as clauses again. A clause without parts is read by its form alone, and one with
parts asks for any of them if all of them can be read.
-/

namespace CharacterSheet.Clause

open Text

/-! ## Reading all of a list -/

section All

variable {α β : Type} {f g : α → Option β} {l : List α}

/-- A list is read if all of its members are. -/
theorem isSome_mapM_iff : (l.mapM f).isSome = true ↔ ∀ a ∈ l, (f a).isSome = true := by
  induction l with
  | nil => simp
  | cons a l ih =>
    rw [List.forall_mem_cons, ← ih, List.mapM_cons]
    cases f a <;> cases l.mapM f <;> simp

/-- What a list is read as is what its members are read as. -/
theorem mem_iff_of_mapM_eq_some {bs : List β} (h : l.mapM f = some bs) {b : β} :
    b ∈ bs ↔ ∃ a ∈ l, f a = some b := by
  induction l generalizing bs with
  | nil =>
    cases h
    simp
  | cons a l ih =>
    simp only [List.mapM_cons, Option.bind_eq_bind, Option.bind_eq_some_iff, Option.pure_def,
      Option.some.injEq] at h
    obtain ⟨first, hfirst, rest, hrest, rfl⟩ := h
    rw [List.mem_cons, ih hrest, List.exists_mem_cons_iff, hfirst, Option.some.injEq, eq_comm]

/-- Only how the members of a list are read matters. -/
theorem mapM_congr (h : ∀ a ∈ l, f a = g a) : l.mapM f = l.mapM g := by
  induction l with
  | nil => rfl
  | cons a l ih =>
    rw [List.mapM_cons, List.mapM_cons, h a List.mem_cons_self,
      ih fun b hb => h b (List.mem_cons_of_mem a hb)]

end All

/-! ## What the forms take -/

/-- Alternatives in parentheses begin with one. -/
theorem groups?_cons_of_ne {c : Char} (hc : c ≠ '(') (s : List Char) : groups? (c :: s) = none := by
  unfold groups?
  split
  · next heq =>
    cases heq
    exact absurd rfl hc
  · rfl

/-- A rest of a line is not empty and is on one line. -/
theorem restOfLine?_eq_some_iff {beginning s rest : List Char} :
    restOfLine? beginning s = some rest ↔ s = beginning ++ rest ∧ rest ≠ [] ∧ '\n' ∉ rest := by
  constructor
  · intro h
    rw [restOfLine?] at h
    cases hstart : beginning.isPrefixOf? s with
    | none => simp [hstart] at h
    | some behind =>
      simp only [hstart, Option.bind_eq_bind, Option.bind_some] at h
      split at h
      · cases h
      · next hne =>
        cases h
        rw [List.isPrefixOf?_eq_some_iff_append_eq] at hstart
        exact ⟨hstart.symm, by simpa using hne⟩
  · rintro ⟨rfl, hne, hline⟩
    have hstart : beginning.isPrefixOf? (beginning ++ rest) = some rest := by
      rw [List.isPrefixOf?_eq_some_iff_append_eq]
    rw [restOfLine?, hstart]
    simp [hne, hline]

/-- Passing over blanks leaves what stands behind all of them. -/
theorem blanks?_eq_some_iff {s rest : List Char} :
    blanks? s = some rest ↔ ∃ gap, gap ≠ [] ∧ (∀ c ∈ gap, isBlank c = true) ∧
      s = gap ++ rest ∧ trimStartChars rest = rest := by
  constructor
  · intro h
    cases s with
    | nil => cases h
    | cons c s =>
      rw [blanks?] at h
      split at h
      · next hc =>
        cases h
        refine ⟨c :: s.takeWhile isBlank, List.cons_ne_nil _ _, ?_, ?_,
          List.dropWhile_idempotent (p := isBlank) s⟩
        · exact List.forall_mem_cons.mpr ⟨hc, fun d hd => List.mem_takeWhile_imp hd⟩
        · exact congrArg (c :: ·) List.takeWhile_append_dropWhile.symm
      · cases h
  · rintro ⟨gap, hne, hgap, rfl, hrest⟩
    obtain ⟨c, gap, rfl⟩ := List.exists_cons_of_ne_nil hne
    obtain ⟨hc, hgap⟩ := List.forall_mem_cons.mp hgap
    rw [List.cons_append, blanks?, if_pos hc, trimStartChars_append_of_blanks hgap, hrest]

/-- A clause on appendages has a word for them or for locomotion. -/
theorem appendage?_eq_some {s : List Char} {r : Requirement} (h : appendage? s = some r) :
    (∃ limb ∈ wordsBetween isBlank s, (limb? limb).isSome = true) ∧
      ∃ count kind locomotion, r = .appendage count kind locomotion := by
  rw [appendage?] at h
  split at h
  · next limb hwords =>
    obtain ⟨locomotion, hlimb, rfl⟩ := Option.map_eq_some_iff.mp h
    exact ⟨⟨limb, by simp [hwords], by simp [hlimb]⟩, _, _, _, rfl⟩
  · next word limb hwords =>
    simp only [Option.bind_eq_bind, Option.bind_eq_some_iff] at h
    obtain ⟨locomotion, hlimb, h⟩ := h
    refine ⟨⟨limb, by simp [hwords], by simp [hlimb]⟩, ?_⟩
    split at h
    · cases h
      exact ⟨_, _, _, rfl⟩
    · split at h
      · cases h
        exact ⟨_, _, _, rfl⟩
      · cases h
  · next count kind limb hwords =>
    simp only [Option.bind_eq_bind, Option.bind_eq_some_iff] at h
    obtain ⟨locomotion, hlimb, count, -, h⟩ := h
    refine ⟨⟨limb, by simp [hwords], by simp [hlimb]⟩, ?_⟩
    split at h
    · cases h
      exact ⟨_, _, _, rfl⟩
    · cases h
  · cases h

/-- A clause on the size is the name of a size and two words. -/
theorem sizeOrLarger?_eq_some {s : List Char} {r : Requirement} (h : sizeOrLarger? s = some r) :
    ∃ size : Size, s = (size.name ++ " or larger").toList ∧ r = .sizeOrLarger size := by
  obtain ⟨size, hsize, rfl⟩ := Option.map_eq_some_iff.mp h
  refine ⟨size, ?_, rfl⟩
  have hs := List.find?_some hsize
  rw [decide_eq_true_eq] at hs
  exact hs.symm

/-- A clause about droids ends with that word. -/
theorem droid?_eq_some {s : List Char} {r : Requirement} (h : droid? s = some r) :
    "droid".toList <:+ s ∧ ∃ expected, r = .droid expected := by
  rw [droid?] at h
  split at h
  · next hdroid =>
    cases h
    refine ⟨?_, true, rfl⟩
    simp only [isDroid, Bool.or_eq_true, decide_eq_true_eq] at hdroid
    rcases hdroid with (rfl | rfl) | rfl <;> decide
  split at h
  · next hnone =>
    cases h
    refine ⟨?_, false, rfl⟩
    obtain ⟨⟨beginning, optional⟩, -, hrest⟩ := List.any_eq_true.mp hnone
    simp only at hrest
    split at hrest
    · next rest hstart =>
      rw [List.isPrefixOf?_eq_some_iff_append_eq] at hstart
      rw [decide_eq_true_eq] at hrest
      -- the word is what is left behind the beginning, the letter that may follow, and blanks
      have hoptional : ([optional].isPrefixOf? rest).getD rest <:+ rest := by
        cases hletter : [optional].isPrefixOf? rest with
        | none => exact List.suffix_rfl
        | some behind =>
          rw [List.isPrefixOf?_eq_some_iff_append_eq] at hletter
          exact ⟨[optional], hletter⟩
      rw [← hrest, ← hstart]
      exact ((List.dropWhile_suffix _).trans hoptional).trans (List.suffix_append _ _)
    · cases hrest
  · cases h

/-! ## Parts -/

/-- The parts of a normal form that are read as clauses of their own. -/
def parts (s : List Char) : List (List Char) :=
  if isNarrative s then []
  else
    match groups? s with
    | some (first, second) => [first, second]
    | none =>
      if (beforeOr? s).isNone && hasFreeOr s then splitChars " or ".toList s else []

/-- What a normal form without parts asks for. -/
def simple (s : List Char) : Requirement :=
  if isNarrative s then .narrative (String.ofList s)
  else (beforeOr? s <|> afterOr? s).getD (.possession (String.ofList s))

/-- What a part of a normal form asks for, if reading it comes to an end. -/
def readPart (s piece : List Char) : Option Requirement :=
  if (normalForm piece).length < s.length then ofNormalForm (normalForm piece) else none

/-- A clause without parts is always read. -/
theorem ofNormalForm_of_parts_eq_nil {s : List Char} (h : parts s = []) :
    ofNormalForm s = some (simple s) := by
  rw [ofNormalForm, readWith, simple]
  rw [parts] at h
  split
  · rfl
  next hnarrative =>
  rw [if_neg hnarrative] at h
  split
  · next first second hgroups =>
    rw [hgroups] at h
    cases h
  · next hgroups =>
    simp only [hgroups] at h
    cases hbefore : beforeOr? s with
    | some r => rfl
    | none =>
      -- splitting always gives a piece, so without parts there is no free `or`
      have hor : hasFreeOr s = false := by
        by_contra hor
        rw [Bool.not_eq_false] at hor
        simp only [hbefore, hor, Option.isNone_none, Bool.and_self, if_true] at h
        exact splitFrom_ne_nil _ _ _ h
      simp [hor]

/-- A clause with parts is read if all of them are. -/
theorem ofNormalForm_of_parts_ne_nil {s : List Char} (h : parts s ≠ []) :
    ofNormalForm s = ((parts s).mapM (readPart s)).map .anyOf := by
  rw [ofNormalForm, readWith]
  rw [parts] at h ⊢
  -- groups come before a free `or`, and a narrative clause has neither
  cases hnarrative : isNarrative s with
  | true =>
    rw [hnarrative] at h
    exact absurd rfl h
  | false =>
    simp only [hnarrative, Bool.false_eq_true, if_false] at h ⊢
    cases hgroups : groups? s with
    | some pair => rfl
    | none =>
      simp only [hgroups] at h
      split at h
      · next hor =>
        rw [Bool.and_eq_true, Option.isNone_iff_eq_none] at hor
        simp only [hor.1, hor.2, Option.isNone_none, Bool.and_self, if_true]
        rfl
      · exact absurd rfl h

/-- A part is read if it is shorter, and then as a clause. -/
theorem readPart_eq_some_iff {s piece : List Char} {r : Requirement} :
    readPart s piece = some r ↔
      (normalForm piece).length < s.length ∧ ofNormalForm (normalForm piece) = some r := by
  rw [readPart]
  split
  · next h => simp [h]
  · next h => simp [h]

/-- What a clause with parts asks for is any of what its parts ask for. -/
theorem exists_eq_anyOf {s : List Char} {r : Requirement} (hparts : parts s ≠ [])
    (h : ofNormalForm s = some r) : ∃ options, r = .anyOf options ∧ options ≠ [] ∧
      (∀ option, option ∈ options ↔ ∃ piece ∈ parts s, readPart s piece = some option) ∧
        ∀ piece ∈ parts s, ∃ option, readPart s piece = some option := by
  rw [ofNormalForm_of_parts_ne_nil hparts, Option.map_eq_some_iff] at h
  obtain ⟨options, hoptions, rfl⟩ := h
  have hread : ∀ piece ∈ parts s, ∃ option, readPart s piece = some option := fun piece hpiece =>
    Option.isSome_iff_exists.mp
      (isSome_mapM_iff.mp (Option.isSome_of_eq_some hoptions) piece hpiece)
  refine ⟨options, rfl, ?_, fun option => mem_iff_of_mapM_eq_some hoptions, hread⟩
  -- dividing gives at least one piece, so at least one option is read
  obtain ⟨piece, hpiece⟩ := List.exists_mem_of_ne_nil _ hparts
  obtain ⟨option, hoption⟩ := hread piece hpiece
  exact List.ne_nil_of_mem ((mem_iff_of_mapM_eq_some hoptions).mpr ⟨piece, hpiece, hoption⟩)

/-- A clause on training asks for what stands behind its beginning. -/
theorem ofNormalForm_of_restOfLine? {s rest : List Char} (hnarrative : isNarrative s = false)
    (hrest : restOfLine? "trained in ".toList s = some rest) :
    ofNormalForm s = some (training rest) := by
  have hgroups : groups? s = none := by
    obtain ⟨rfl, -⟩ := restOfLine?_eq_some_iff.mp hrest
    exact groups?_cons_of_ne (by decide) _
  have hbefore : beforeOr? s = some (training rest) := by
    rw [beforeOr?, trained?, hrest]
    rfl
  rw [ofNormalForm, readWith, hnarrative, hgroups]
  simp only [hbefore, Bool.false_eq_true, if_false]

end CharacterSheet.Clause
