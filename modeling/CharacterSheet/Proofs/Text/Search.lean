import CharacterSheet.Proofs.Text.Trimming

/-!
# Searching and splitting

A text contains another one if that is an infix of it. The infix relation is followed through the
operations that bring a clause into normal form.
-/

namespace CharacterSheet.Text

/-! ## Characters of a text -/

section Characters

variable {p : Char → Prop} [DecidablePred p]

/-- What all characters of a text have is decided on that text, not on every character there is. -/
instance (priority := 2000) decidableForallMem (s : List Char) : Decidable (∀ c ∈ s, p c) :=
  List.decidableBAll p s

instance (priority := 2000) decidableExistsMem (s : List Char) : Decidable (∃ c ∈ s, p c) :=
  List.decidableBEx p s

end Characters

/-! ## Infixes -/

section Infix

variable {α : Type} {p u v : List α}

/-- An infix of two texts put together lies in one of them, or across their border. -/
theorem infix_append_cases (h : p <:+: u ++ v) :
    p <:+: u ∨ p <:+: v ∨ ∃ front back, p = front ++ back ∧ front ≠ [] ∧ back ≠ [] ∧
      front <:+ u ∧ back <+: v := by
  obtain ⟨before, behind, h⟩ := h
  rw [List.append_assoc] at h
  rcases List.append_eq_append_iff.mp h with ⟨rest, hu, hrest⟩ | ⟨rest, hbefore, hv⟩
  · -- the infix begins in `u`
    rcases List.append_eq_append_iff.mp hrest with ⟨inner, hin, -⟩ | ⟨back, hp, hback⟩
    · exact .inl ⟨before, inner, by rw [hu, hin, List.append_assoc]⟩
    · by_cases hnil : rest = []
      · exact .inr (.inl ⟨[], behind, by rw [hback, hp, hnil]; simp⟩)
      by_cases hnil' : back = []
      · exact .inl ⟨before, [], by rw [hu, hp, hnil']; simp⟩
      · exact .inr (.inr ⟨rest, back, hp, hnil, hnil', ⟨before, hu.symm⟩, ⟨behind, hback.symm⟩⟩)
  · exact .inr (.inl ⟨rest, behind, by rw [hv, List.append_assoc]⟩)

/-- An infix that does not have the character between two texts lies in one of them. -/
theorem infix_append_cons_iff {b : α} (hb : b ∉ p) :
    p <:+: u ++ b :: v ↔ p <:+: u ∨ p <:+: v := by
  constructor
  · intro h
    -- an infix across the seam would hold `b`
    rcases infix_append_cases h with h | h | ⟨front, back, hp, -, hback, -, hstart⟩
    · exact .inl h
    · rcases List.infix_cons_iff.mp h with h | h
      · cases p with
        | nil => exact .inl (List.nil_infix)
        | cons a rest =>
          obtain ⟨rfl, -⟩ := List.cons_prefix_cons.mp h
          simp at hb
      · exact .inr h
    · cases back with
      | nil => exact absurd rfl hback
      | cons a rest =>
        obtain ⟨rfl, -⟩ := List.cons_prefix_cons.mp hstart
        simp [hp] at hb
  · rintro (h | h)
    · exact h.trans ⟨[], b :: v, by simp⟩
    · exact h.trans ⟨u ++ [b], [], by simp⟩

/-- A text neither lies in a separator nor begins or ends with a part of it that reaches to the
separator's other side. So it can only stand beside the separator. -/
structure IsBeside (separator p : List α) : Prop where
  not_inside : ¬ p <:+: separator
  not_before : ∀ back ∈ p.tails, back ≠ [] → ¬ back <+: separator ∧ ¬ separator <+: back
  not_behind : ∀ front ∈ p.inits, front ≠ [] → ¬ front <:+ separator

instance [DecidableEq α] (separator p : List α) : Decidable (IsBeside separator p) :=
  decidable_of_iff
    (¬ p <:+: separator ∧
      (∀ back ∈ p.tails, back ≠ [] → ¬ back <+: separator ∧ ¬ separator <+: back) ∧
      ∀ front ∈ p.inits, front ≠ [] → ¬ front <:+ separator)
    ⟨fun h => ⟨h.1, h.2.1, h.2.2⟩, fun h => ⟨h.not_inside, h.not_before, h.not_behind⟩⟩

/-- A word that is beside a separator does not reach across it. -/
theorem IsBeside.infix_append_iff {separator : List α} (h : IsBeside separator p) :
    p <:+: u ++ separator ++ v ↔ p <:+: u ∨ p <:+: v := by
  constructor
  · intro hin
    rw [List.append_assoc] at hin
    -- an infix across the separator would overlap it at one end, which its parts exclude
    rcases infix_append_cases hin with hin | hin | ⟨front, back, hp, -, hback, -, hstart⟩
    · exact .inl hin
    · rcases infix_append_cases hin with hin | hin | ⟨front, back, hp, hfront, -, hend, -⟩
      · exact absurd hin h.not_inside
      · exact .inr hin
      · have hmem : front ∈ p.inits := (List.mem_inits _ _).mpr ⟨back, hp.symm⟩
        exact absurd hend (h.not_behind front hmem hfront)
    · have hmem : back ∈ p.tails := (List.mem_tails _ _).mpr ⟨front, hp.symm⟩
      obtain ⟨hshort, hlong⟩ := h.not_before back hmem hback
      rcases List.prefix_or_prefix_of_prefix hstart (List.prefix_append separator v) with hin | hin
      · exact absurd hin hshort
      · exact absurd hin hlong
  · rintro (hin | hin)
    · exact hin.trans ⟨[], separator ++ v, by simp⟩
    · exact hin.trans ⟨u ++ separator, [], by simp⟩

/-- Dropping characters from the end takes no infix away that does not end with one of them. -/
theorem infix_rdropWhile_iff {drops : α → Bool} (hne : p ≠ []) (hlast : ¬ drops (p.getLast hne))
    (s : List α) : p <:+: s.rdropWhile drops ↔ p <:+: s := by
  induction s using List.reverseRecOn with
  | nil => simp
  | append_singleton s c ih =>
    rw [List.rdropWhile_concat]
    split
    · next hc =>
      rw [ih, List.infix_concat_iff]
      -- what ends at the dropped character would be dropped itself
      refine ⟨.inr, ?_⟩
      rintro (hsuffix | h)
      · have hend : p.getLast hne = c := by
          have := hsuffix.getLast hne
          simpa using this
        rw [hend] at hlast
        exact absurd hc hlast
      · exact h
    · rfl

/-- The same at the beginning. -/
theorem infix_dropWhile_iff {drops : α → Bool} (hne : p ≠ []) (hhead : ¬ drops (p.head hne))
    (s : List α) : p <:+: s.dropWhile drops ↔ p <:+: s := by
  induction s with
  | nil => simp
  | cons c s ih =>
    rw [List.dropWhile_cons]
    split
    · next hc =>
      rw [ih, List.infix_cons_iff]
      refine ⟨.inr, ?_⟩
      rintro (hstart | h)
      · have hstart : p.head hne = c := by simpa using hstart.head hne
        rw [hstart] at hhead
        exact absurd hc hhead
      · exact h
    · rfl

end Infix

/-! ## Containment -/

/-- A text contains its infixes. -/
theorem containsChars_iff {needle s : List Char} :
    containsChars needle s = true ↔ needle <:+: s := by
  induction s with
  | nil => simp [containsChars]
  | cons c rest ih =>
    rw [containsChars, Bool.or_eq_true, ih, List.isPrefixOf_iff_prefix, List.infix_cons_iff]

/-! ## Splitting -/

/-- Splitting leaves at least one piece. -/
theorem splitFrom_ne_nil (separator : List Char) (skip : Nat) (s : List Char) :
    splitFrom separator skip s ≠ [] := by
  induction s generalizing skip with
  | nil => cases skip <;> simp [splitFrom]
  | cons c rest ih =>
    cases skip with
    | succ skip => exact ih skip
    | zero =>
      rw [splitFrom]
      split
      · simp
      · simpa using ih 0

/-- A text without the separator is its only piece. -/
theorem splitChars_of_not_isInfix {separator s : List Char} (h : ¬ separator <:+: s) :
    splitChars separator s = [s] := by
  rw [splitChars]
  induction s with
  | nil => rfl
  | cons c rest ih =>
    rw [List.infix_cons_iff, not_or] at h
    rw [splitFrom, if_neg (by rw [List.isPrefixOf_iff_prefix]; exact h.1), ih h.2]
    rfl

/-- Putting a character before the first piece. -/
theorem mem_modifyHead_cons {d c : Char} {pieces : List (List Char)} (h : pieces ≠ []) :
    (∃ part ∈ pieces.modifyHead (d :: ·), c ∈ part) ↔ c = d ∨ ∃ part ∈ pieces, c ∈ part := by
  obtain ⟨first, rest, rfl⟩ := List.exists_cons_of_ne_nil h
  simp [or_assoc]

/-- Splitting loses nothing but the separator, of which some characters may still be to skip. -/
theorem mem_splitFrom {separator : List Char} (hne : separator ≠ []) {skip : Nat} {s : List Char}
    (hskip : ∀ c ∈ s.take skip, c ∈ separator) {c : Char} (hc : c ∈ s) :
    c ∈ separator ∨ ∃ part ∈ splitFrom separator skip s, c ∈ part := by
  induction s generalizing skip with
  | nil => cases hc
  | cons d rest ih =>
    cases skip with
    | succ skip =>
      rcases List.mem_cons.mp hc with rfl | hc
      · exact .inl (hskip _ (by simp))
      · exact ih (fun e he => hskip e (by simp [he])) hc
    | zero =>
      rw [splitFrom]
      split
      -- the separator found here is skipped, and all of its characters are in it
      · next hstart =>
        obtain ⟨a, separator, rfl⟩ := List.exists_cons_of_ne_nil hne
        rw [List.isPrefixOf_iff_prefix, List.cons_prefix_cons] at hstart
        obtain ⟨rfl, hrest⟩ := hstart
        rcases List.mem_cons.mp hc with rfl | hc
        · exact .inl List.mem_cons_self
        · have hnext : ∀ e ∈ rest.take separator.length, e ∈ a :: separator := by
            rw [← List.prefix_iff_eq_take.mp hrest]
            exact fun e he => List.mem_cons_of_mem a he
          rcases ih hnext hc with h | ⟨part, h, hc⟩
          · exact .inl h
          · exact .inr ⟨part, List.mem_cons_of_mem _ h, hc⟩
      · rw [mem_modifyHead_cons (splitFrom_ne_nil _ _ _)]
        rcases List.mem_cons.mp hc with rfl | hc
        · exact .inr (.inl rfl)
        · have hnext : ∀ e ∈ rest.take 0, e ∈ separator := by simp
          rcases ih hnext hc with h | h
          · exact .inl h
          · exact .inr (.inr h)

/-- Each character of a text is in the separator or in a piece. -/
theorem mem_splitChars {separator : List Char} (hne : separator ≠ []) {s : List Char} {c : Char}
    (hc : c ∈ s) : c ∈ separator ∨ ∃ part ∈ splitChars separator s, c ∈ part :=
  mem_splitFrom hne (by simp) hc

/-- Characters that are skipped have no effect on the pieces. -/
theorem splitFrom_append (separator : List Char) (u v : List Char) :
    splitFrom separator u.length (u ++ v) = splitFrom separator 0 v := by
  induction u with
  | nil => rfl
  | cons c u ih => exact ih

/-- A text is split at a separator that does not begin earlier. -/
theorem splitChars_append {separator u : List Char} (hne : separator ≠ [])
    (h : ¬ separator <:+: u ++ separator.dropLast) (v : List Char) :
    splitChars separator (u ++ separator ++ v) = u :: splitChars separator v := by
  rw [splitChars, splitChars]
  induction u with
  | nil =>
    obtain ⟨a, rest, rfl⟩ := List.exists_cons_of_ne_nil hne
    have hstart : (a :: rest).isPrefixOf (a :: (rest ++ v)) = true := by
      rw [List.isPrefixOf_iff_prefix]
      exact List.prefix_append (a :: rest) v
    rw [List.nil_append, List.cons_append, splitFrom, if_pos hstart]
    exact congrArg _ (splitFrom_append (a :: rest) rest v)
  | cons c u ih =>
    rw [List.cons_append, List.infix_cons_iff, not_or] at h
    -- an occurrence at the beginning would end before the last character of the separator
    have hstart : ¬ separator <+: c :: (u ++ separator ++ v) := by
      intro hprefix
      apply h.1
      refine List.prefix_of_prefix_length_le hprefix ?_ (by simp; omega)
      rw [List.append_assoc, ← List.cons_append, ← List.cons_append, List.prefix_append_right_inj]
      exact (List.dropLast_prefix separator).trans (List.prefix_append _ _)
    rw [List.cons_append, List.cons_append, splitFrom,
      if_neg (by rwa [List.isPrefixOf_iff_prefix]), ih h.2]
    rfl

/-- A text with one occurrence of the separator is split into the texts before and behind it. -/
theorem splitChars_between {separator u v : List Char} (hne : separator ≠ [])
    (hu : ¬ separator <:+: u ++ separator.dropLast) (hv : ¬ separator <:+: v) :
    splitChars separator (u ++ separator ++ v) = [u, v] := by
  rw [splitChars_append hne hu, splitChars_of_not_isInfix hv]

/-- A text that occurs in another one has a first occurrence: before its last character no
occurrence is complete. -/
theorem exists_first_infix {separator s : List Char} (hne : separator ≠ [])
    (h : separator <:+: s) :
    ∃ u v, s = u ++ separator ++ v ∧ ¬ separator <:+: u ++ separator.dropLast := by
  induction s with
  | nil => exact absurd (List.infix_nil.mp h) hne
  | cons c s ih =>
    by_cases hstart : separator <+: c :: s
    · obtain ⟨v, hv⟩ := hstart
      refine ⟨[], v, hv.symm, fun hin => ?_⟩
      have hlength := hin.length_le
      have hpos := List.length_pos_of_ne_nil hne
      rw [List.nil_append, List.length_dropLast] at hlength
      omega
    · have hrest : separator <:+: s := (List.infix_cons_iff.mp h).resolve_left hstart
      obtain ⟨u, v, rfl, hfirst⟩ := ih hrest
      refine ⟨c :: u, v, by simp, fun hin => ?_⟩
      rw [List.cons_append] at hin
      rcases List.infix_cons_iff.mp hin with hin | hin
      · apply hstart
        refine hin.trans ?_
        rw [List.append_assoc, List.prefix_cons_inj, List.prefix_append_right_inj]
        exact (List.dropLast_prefix separator).trans (List.prefix_append _ _)
      · exact hfirst hin

/-- Between two pieces of a text that is split stands the separator, so each piece has one before it
or behind it. -/
theorem beside_of_mem_splitChars {separator s piece : List Char} (hne : separator ≠ [])
    (h : separator <:+: s) (hpiece : piece ∈ splitChars separator s) :
    piece ++ separator <:+: s ∨ separator ++ piece <:+: s := by
  -- on the length, since the pieces behind the first separator are those of a shorter text
  induction hlength : s.length using Nat.strong_induction_on generalizing s with
  | _ n ih =>
    subst hlength
    obtain ⟨u, v, rfl, hfirst⟩ := exists_first_infix hne h
    rw [splitChars_append hne hfirst, List.mem_cons] at hpiece
    have hv : v <:+: u ++ separator ++ v := (List.suffix_append _ _).isInfix
    rcases hpiece with rfl | hpiece
    · exact .inl (List.prefix_append _ _).isInfix
    by_cases hmore : separator <:+: v
    · have hshorter : v.length < (u ++ separator ++ v).length := by
        have hpos := List.length_pos_of_ne_nil hne
        simp only [List.length_append]
        omega
      rcases ih v.length hshorter hmore hpiece rfl with hin | hin
      · exact .inl (hin.trans hv)
      · exact .inr (hin.trans hv)
    · rw [splitChars_of_not_isInfix hmore, List.mem_singleton] at hpiece
      subst hpiece
      exact .inr ⟨u, [], by simp⟩

/-- Each piece of a text that is split lies in it. -/
theorem isInfix_of_mem_splitChars {separator s piece : List Char} (hne : separator ≠ [])
    (hpiece : piece ∈ splitChars separator s) : piece <:+: s := by
  by_cases h : separator <:+: s
  · rcases beside_of_mem_splitChars hne h hpiece with hin | hin
    · exact (List.prefix_append _ _).isInfix.trans hin
    · exact (List.suffix_append _ _).isInfix.trans hin
  · rw [splitChars_of_not_isInfix h, List.mem_singleton] at hpiece
    exact hpiece ▸ List.infix_rfl

/-- Splitting leaves at least one piece. -/
theorem splitWhere_ne_nil (p : Char → Bool) (s : List Char) : splitWhere p s ≠ [] := by
  induction s with
  | nil => simp [splitWhere]
  | cons c rest ih =>
    rw [splitWhere]
    split
    · simp
    · simpa using ih

/-- What lies between separating characters is all the others. -/
theorem mem_splitWhere {p : Char → Bool} {s : List Char} {c : Char} :
    (∃ part ∈ splitWhere p s, c ∈ part) ↔ c ∈ s ∧ p c = false := by
  induction s with
  | nil => simp [splitWhere]
  | cons d rest ih =>
    rw [splitWhere]
    split
    · next hd =>
      have hnew : (∃ part ∈ [] :: splitWhere p rest, c ∈ part) ↔
          ∃ part ∈ splitWhere p rest, c ∈ part := by simp
      rw [hnew, ih, List.mem_cons]
      refine ⟨fun h => ⟨.inr h.1, h.2⟩, ?_⟩
      rintro ⟨rfl | h, hc⟩
      · rw [hd] at hc
        cases hc
      · exact ⟨h, hc⟩
    · next hd =>
      rw [mem_modifyHead_cons (splitWhere_ne_nil p rest), ih, List.mem_cons]
      constructor
      · rintro (rfl | ⟨h, hc⟩)
        · exact ⟨.inl rfl, by simpa using hd⟩
        · exact ⟨.inr h, hc⟩
      · rintro ⟨rfl | h, hc⟩
        · exact .inl rfl
        · exact .inr ⟨h, hc⟩

/-- A text is split at each character that divides it. -/
theorem splitWhere_append_cons {p : Char → Bool} {c : Char} (hc : p c = true)
    (u v : List Char) : splitWhere p (u ++ c :: v) = splitWhere p u ++ splitWhere p v := by
  induction u with
  | nil => simp [splitWhere, hc]
  | cons d u ih =>
    obtain ⟨first, rest, hfirst⟩ := List.exists_cons_of_ne_nil (splitWhere_ne_nil p u)
    rw [List.cons_append, splitWhere, splitWhere, ih, hfirst]
    split <;> rfl

/-- Where two texts are put together, the last piece of the first one and the first piece of the
second one become one piece. -/
theorem splitWhere_append (p : Char → Bool) (u v : List Char) :
    ∃ front last first back, splitWhere p u = front ++ [last] ∧ splitWhere p v = first :: back ∧
      splitWhere p (u ++ v) = front ++ (last ++ first) :: back := by
  induction u with
  | nil =>
    obtain ⟨first, back, hfirst⟩ := List.exists_cons_of_ne_nil (splitWhere_ne_nil p v)
    exact ⟨[], [], first, back, rfl, hfirst, hfirst⟩
  | cons c u ih =>
    -- the pieces of the two texts, with the last and the first of them grown together
    obtain ⟨front, last, first, back, hu, hv, happend⟩ := ih
    rw [List.cons_append, splitWhere, splitWhere, happend, hu]
    cases p c with
    | true => exact ⟨[] :: front, last, first, back, rfl, hv, rfl⟩
    | false =>
      cases front with
      | nil => exact ⟨[], c :: last, first, back, rfl, hv, rfl⟩
      | cons piece front => exact ⟨(c :: piece) :: front, last, first, back, rfl, hv, rfl⟩

/-- A text with nothing to divide it is its only piece. -/
theorem splitWhere_of_forall {p : Char → Bool} {s : List Char} (h : ∀ c ∈ s, p c = false) :
    splitWhere p s = [s] := by
  induction s with
  | nil => rfl
  | cons c s ih =>
    rw [splitWhere, if_neg (by simp [h c]), ih fun d hd => h d (by simp [hd])]
    rfl

/-! ## Words -/

section Words

variable {gap : Char → Bool}

/-- Whether a text has a word is decided by looking through its words. -/
instance decidableMemWords (word s : List Char) : Decidable (word ∈ wordsBetween gap s) :=
  inferInstanceAs (Decidable (word ∈ (splitWhere gap s).filter (!·.isEmpty)))

/-- The words before and behind a gap are the words of both sides. -/
theorem wordsBetween_append_cons {c : Char} (hc : gap c = true) (u v : List Char) :
    wordsBetween gap (u ++ c :: v) = wordsBetween gap u ++ wordsBetween gap v := by
  rw [wordsBetween, splitWhere_append_cons hc, List.filter_append]
  rfl

/-- All characters of a word are in the text. -/
theorem subset_of_mem_wordsBetween {s word : List Char} (h : word ∈ wordsBetween gap s) :
    word ⊆ s := by
  intro c hc
  exact (mem_splitWhere.mp ⟨word, List.mem_of_mem_filter h, hc⟩).1

/-- A word without gaps is its only word. -/
theorem wordsBetween_eq_singleton {word : List Char} (hne : word ≠ [])
    (h : ∀ c ∈ word, gap c = false) : wordsBetween gap word = [word] := by
  simp [wordsBetween, splitWhere_of_forall h, hne]

/-- A text without words is one gap. -/
theorem forall_of_wordsBetween_eq_nil {s : List Char} (h : wordsBetween gap s = []) :
    ∀ c ∈ s, gap c = true := by
  intro c hc
  by_contra hgap
  obtain ⟨part, hpart, hmem⟩ := mem_splitWhere.mpr ⟨hc, by simpa using hgap⟩
  rw [wordsBetween, List.filter_eq_nil_iff] at h
  exact h part hpart (by simpa using List.ne_nil_of_mem hmem)

/-- Gaps before a text do not change its words. -/
theorem wordsBetween_append_of_gaps {u : List Char} (h : ∀ c ∈ u, gap c = true) (v : List Char) :
    wordsBetween gap (u ++ v) = wordsBetween gap v := by
  induction u with
  | nil => rfl
  | cons c u ih =>
    have hcons := wordsBetween_append_cons (h c (by simp)) [] (u ++ v)
    rw [List.nil_append] at hcons
    rw [List.cons_append, hcons, ih fun d hd => h d (by simp [hd])]
    rfl

/-- A word that does not have the character between two texts is a word of one of them. -/
theorem mem_wordsBetween_append_cons {d : Char} {word : List Char} (hd : d ∉ word)
    {u v : List Char} (h : word ∈ wordsBetween gap (u ++ d :: v)) :
    word ∈ wordsBetween gap u ∨ word ∈ wordsBetween gap v := by
  cases hgap : gap d with
  | true => simpa [wordsBetween_append_cons hgap] using h
  | false =>
    obtain ⟨front, last, first, back, hu, hv, happend⟩ := splitWhere_append gap u (d :: v)
    obtain ⟨head, rest, hrest⟩ := List.exists_cons_of_ne_nil (splitWhere_ne_nil gap v)
    -- the piece that goes across has the character in it
    simp only [splitWhere, hgap, hrest, List.modifyHead_cons, Bool.false_eq_true, if_false,
      List.cons.injEq] at hv
    obtain ⟨rfl, rfl⟩ := hv
    have hacross : word ≠ last ++ d :: head := fun heq => hd (by simp [heq])
    simp only [wordsBetween, happend, List.mem_filter, List.mem_append, List.mem_cons, hacross,
      false_or] at h
    simp only [wordsBetween, hu, hrest, List.mem_filter, List.mem_append, List.mem_cons]
    tauto

/-- A text that does not have a word neither has it between two gaps nor ends with it behind one. -/
theorem not_infix_append_word {g : Char} (hg : gap g = true) {word : List Char} (hne : word ≠ [])
    (hword : ∀ c ∈ word, gap c = false) {s : List Char} (h : word ∉ wordsBetween gap s) :
    ¬ g :: (word ++ [g]) <:+: s ++ g :: word := by
  rintro ⟨u, v, heq⟩
  have hwords : wordsBetween gap u ++ word :: wordsBetween gap v =
      wordsBetween gap s ++ [word] := by
    have hin : u ++ g :: (word ++ g :: v) = s ++ g :: word := by
      rw [← heq]
      simp
    rw [← wordsBetween_eq_singleton hne hword, ← wordsBetween_append_cons hg, ← hin,
      wordsBetween_append_cons hg, wordsBetween_append_cons hg, wordsBetween_eq_singleton hne hword]
    simp
  -- behind the word there are only gaps, or the word is not the last one
  rcases List.eq_nil_or_concat (wordsBetween gap v) with hnil | ⟨front, last, hlast⟩
  · have hgaps : ∀ c ∈ g :: v, gap c = true :=
      List.forall_mem_cons.mpr ⟨hg, forall_of_wordsBetween_eq_nil hnil⟩
    have hend : (u ++ g :: word ++ g :: v).getLast? = (s ++ g :: word).getLast? := by
      rw [← heq]
      simp
    rw [List.getLast?_append_cons, List.getLast?_append_cons, ← List.singleton_append (l := word),
      List.getLast?_append_of_ne_nil _ hne, List.getLast?_eq_some_getLast hne,
      List.getLast?_eq_some_getLast (List.cons_ne_nil g v), Option.some.injEq] at hend
    have hlast := hgaps _ (List.getLast_mem (List.cons_ne_nil g v))
    rw [hend, hword _ (List.getLast_mem hne)] at hlast
    cases hlast
  · rw [hlast, List.concat_eq_append, ← List.cons_append, ← List.append_assoc] at hwords
    have hfront := List.append_inj_left' hwords rfl
    exact h (by simp [← hfront])

/-- What is no word of a text does not stand between gaps in it. -/
theorem not_infix_word {g : Char} (hg : gap g = true) {word : List Char} (hne : word ≠ [])
    (hword : ∀ c ∈ word, gap c = false) {s : List Char} (h : word ∉ wordsBetween gap s) :
    ¬ g :: (word ++ [g]) <:+: s :=
  fun hin => not_infix_append_word hg hne hword h (hin.trans (List.prefix_append _ _).isInfix)

end Words

/-! ## Beginnings and endings -/

/-- What stands behind the beginning completes the text. -/
theorem toList_of_after? {beginning s rest : String} (h : after? beginning s = some rest) :
    s.toList = beginning.toList ++ rest.toList := by
  rw [after?, Option.map_eq_some_iff] at h
  obtain ⟨rest, hrest, rfl⟩ := h
  rw [String.toList_ofList]
  exact (List.isPrefixOf?_eq_some_iff_append_eq.mp hrest).symm

/-- The rest stands behind the beginning. -/
theorem after?_append (beginning rest : String) :
    after? beginning (beginning ++ rest) = some rest := by
  have hprefix : beginning.toList.isPrefixOf? (beginning ++ rest).toList = some rest.toList := by
    rw [List.isPrefixOf?_eq_some_iff_append_eq, String.toList_append]
  rw [after?, hprefix, Option.map_some, String.ofList_toList]

/-- Nothing stands behind what is not the beginning. -/
theorem after?_eq_none {beginning s : String} (h : ¬ beginning.toList <+: s.toList) :
    after? beginning s = none := by
  cases hrest : after? beginning s with
  | none => rfl
  | some rest => exact absurd ⟨rest.toList, (toList_of_after? hrest).symm⟩ h

/-- The front stands before the ending. -/
theorem before?_append (front ending : String) : before? ending (front ++ ending) = some front := by
  have hsuffix : ending.toList.isSuffixOf? (front ++ ending).toList = some front.toList := by
    rw [List.isSuffixOf?_eq_some_iff_append_eq, String.toList_append]
  rw [before?, hsuffix, Option.map_some, String.ofList_toList]

/-- A text starts with its beginning. -/
theorem startsWith_append (s rest : String) : startsWith s (s ++ rest) = true := by
  rw [startsWith, List.isPrefixOf_iff_prefix, String.toList_append]
  exact List.prefix_append _ _

/-- Neither of two texts begins with the other one. -/
def Diverge (s t : String) : Prop := ¬ s.toList <+: t.toList ∧ ¬ t.toList <+: s.toList

instance (s t : String) : Decidable (Diverge s t) := inferInstanceAs (Decidable (_ ∧ _))

/-- Whatever is added to a text, it does not begin like one that it parts with. -/
theorem Diverge.startsWith_append {s t : String} (h : Diverge s t) (rest : String) :
    startsWith s (t ++ rest) = false := by
  rw [startsWith, ← Bool.not_eq_true, List.isPrefixOf_iff_prefix, String.toList_append]
  intro hbegins
  rcases Nat.le_total s.toList.length t.toList.length with hle | hle
  · exact h.1 (List.prefix_of_prefix_length_le hbegins (List.prefix_append _ _) hle)
  · exact h.2 (List.prefix_of_prefix_length_le (List.prefix_append _ _) hbegins hle)

end CharacterSheet.Text
