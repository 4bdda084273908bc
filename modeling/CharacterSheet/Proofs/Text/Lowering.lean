import CharacterSheet.Text.Basic
import Mathlib.Data.List.DropRight

/-!
# Lower-casing

Lower-casing a text a second time changes nothing. The texts before and behind a blank or a
parenthesis are lower-cased apart, and lower-casing brings no blank or parenthesis into a text. So
it commutes with trimming.
-/

namespace CharacterSheet.Text

/-! ## Blanks and parentheses -/

/-- A blank or a parenthesis. -/
def IsSeparator (c : Char) : Prop := isBlank c = true ∨ c = '(' ∨ c = ')'

/-- The code points of blanks and parentheses. -/
def separators : Ranges := (0x28, 0x29) :: blanks

/-- A character of some ranges lies in one of them. -/
theorem Ranges.exists_of_has {ranges : Ranges} {c : Char} (h : ranges.has c = true) :
    ∃ r ∈ ranges, r.1 ≤ c.toNat ∧ c.toNat ≤ r.2 := by
  rw [has] at h
  split at h
  · next r hr =>
    exact ⟨r, List.mem_of_find?_eq_some hr, by simpa using h, by simpa using List.find?_some hr⟩
  · cases h

/-- A separator lies in one of the ranges of separators. -/
theorem IsSeparator.exists_range {c : Char} (h : IsSeparator c) :
    ∃ r ∈ separators, r.1 ≤ c.toNat ∧ c.toNat ≤ r.2 := by
  rcases h with h | rfl | rfl
  · obtain ⟨r, hr, hrange⟩ := Ranges.exists_of_has h
    exact ⟨r, List.mem_cons_of_mem _ hr, hrange⟩
  · exact ⟨(0x28, 0x29), by simp [separators], by decide⟩
  · exact ⟨(0x28, 0x29), by simp [separators], by decide⟩

instance (c : Char) : Decidable (IsSeparator c) := inferInstanceAs (Decidable (_ ∨ _ ∨ _))

/-- Lower-casing keeps the character. -/
def IsSmall (c : Char) : Prop := lowerChar c = [c]

instance (c : Char) : Decidable (IsSmall c) := inferInstanceAs (Decidable (_ = _))

/-- A capital sigma is not small. -/
theorem IsSmall.ne_sigma {c : Char} (h : IsSmall c) : c ≠ 'Σ' := by
  rintro rfl
  exact absurd h (by decide)

/-- Lower-casing keeps the character, which does not decide the form of a sigma. -/
def IsBreak (c : Char) : Prop := IsSmall c ∧ isCased c = false ∧ isCaseIgnorable c = false

instance (c : Char) : Decidable (IsBreak c) := inferInstanceAs (Decidable (_ ∧ _))

/-- A separator breaks words. -/
theorem IsSeparator.isBreak {c : Char} (h : IsSeparator c) : IsBreak c := by
  have hall : ∀ r ∈ separators, ∀ i ∈ List.range (r.2 + 1 - r.1),
      IsBreak (Char.ofNat (r.1 + i)) := by decide
  obtain ⟨r, hr, hfirst, hlast⟩ := h.exists_range
  have hc := hall r hr (c.toNat - r.1) (List.mem_range.mpr (by omega))
  rwa [Nat.add_sub_cancel' hfirst, Char.ofNat_toNat] at hc

/-! ## Small letters -/

namespace CaseRun

/-- The least code point that a run maps to. -/
def least (r : CaseRun) : Nat := (r.first + r.shift).toNat

/-- The greatest code point that a run maps to. -/
def greatest (r : CaseRun) : Nat := (r.last + r.shift).toNat

/-- Whether one run maps to no code point that another one maps: it ends before the other one, it
begins behind it, or it hits the gaps between its code points. -/
def isApart (r r' : CaseRun) : Bool :=
  r.greatest.blt r'.first || r'.last.blt r.least ||
    ((r.step == 2 || r.first == r.last) && r'.step == 2 && (r.least - r'.first) % 2 == 1)

/-- Whether a run maps to no code point in a range. -/
def isOff (r : CaseRun) (range : Nat × Nat) : Bool :=
  r.greatest.blt range.1 || range.2.blt r.least

/-- Whether a run maps to characters other than the dotted capital I. -/
def isValid (r : CaseRun) : Bool :=
  decide (0 ≤ r.first + r.shift) && (r.greatest.blt 0xD800 ||
    (Nat.blt 0xDFFF r.least && r.greatest.blt 0x110000)) && r.isOff (0x130, 0x130)

end CaseRun

/-- The runs of small letters are apart from one another. -/
theorem isApart_smallLetters :
    (smallLetters.all fun r => smallLetters.all r.isApart) = true := by decide +kernel

/-- The code points of small forms that no run lists: those of the dotted capital I and of a
sigma. -/
def furtherSmallForms : List Nat := [0x69, 0x307, 0x3C2, 0x3C3]

/-- Whether no character has its small form in a range that it is not in itself. -/
def isCaseless (range : Nat × Nat) : Bool :=
  smallLetters.all (·.isOff range) && furtherSmallForms.all fun n => n.blt range.1 || range.2.blt n

/-- No separator is the small form of another character. -/
theorem isCaseless_separators : separators.all isCaseless = true := by decide

/-- The runs of small letters are valid. -/
theorem isValid_smallLetters : smallLetters.all CaseRun.isValid = true := by decide

namespace CaseRun

/-- Each run of small letters is valid. -/
theorem isValid_of_mem {r : CaseRun} (hr : r ∈ smallLetters) : r.isValid = true :=
  List.all_eq_true.mp isValid_smallLetters r hr

/-- A run of small letters is as long as that of its capitals. -/
theorem least_add_le {r : CaseRun} (hr : r ∈ smallLetters) {i : Nat} (hi : r.first + i ≤ r.last) :
    r.least + i ≤ r.greatest := by
  have hvalid := isValid_of_mem hr
  simp only [isValid, Bool.and_eq_true, decide_eq_true_eq] at hvalid
  rw [least, greatest]
  omega

/-- A code point that is not its own image is listed by a run, which shifts it. -/
theorem exists_of_image_ne {n : Nat} (h : image smallLetters n ≠ n) :
    ∃ r ∈ smallLetters, ∃ i, i % r.step = 0 ∧ r.first + i ≤ r.last ∧ n = r.first + i ∧
      image smallLetters n = r.least + i := by
  rw [image] at h ⊢
  -- only the first range that reaches up to `n` can move it
  cases hfind : smallLetters.find? fun r => n ≤ r.last with
  | none => simp [hfind] at h
  | some r =>
    have hr := List.mem_of_find?_eq_some hfind
    have hlast : n ≤ r.last := by simpa using List.find?_some hfind
    have hvalid := isValid_of_mem hr
    simp only [isValid, Bool.and_eq_true, decide_eq_true_eq] at hvalid
    simp only [hfind] at h ⊢
    split at h
    · next hrun =>
      refine ⟨r, hr, n - r.first, hrun.2, by omega, by omega, ?_⟩
      rw [if_pos hrun, least]
      omega
    · exact absurd rfl h

/-- Small letters are their own images. -/
theorem image_image (n : Nat) :
    image smallLetters (image smallLetters n) = image smallLetters n := by
  by_contra hagain
  have hn : image smallLetters n ≠ n := fun h => hagain (by rw [h, h])
  obtain ⟨r, hr, i, hstep, hlast, -, himage⟩ := exists_of_image_ne hn
  obtain ⟨r', hr', j, hstep', hlast', hsame, -⟩ := exists_of_image_ne hagain
  have hle := least_add_le hr hlast
  have hapart := List.all_eq_true.mp (List.all_eq_true.mp isApart_smallLetters r hr) r' hr'
  simp only [isApart, Nat.blt_eq, Bool.or_eq_true, Bool.and_eq_true, beq_iff_eq] at hapart
  -- the second run would have to list the image, which `isApart` excludes in each of its cases
  rcases hapart with (hend | hbegin) | ⟨⟨hr2 | hr1, hr'2⟩, hodd⟩
  · omega
  · omega
  · rw [hr2] at hstep
    rw [hr'2] at hstep'
    omega
  · rw [hr'2] at hstep'
    omega

/-- The image of a code point is the code point of a character. -/
theorem toNat_ofNat_image (c : Char) :
    (Char.ofNat (image smallLetters c.toNat)).toNat = image smallLetters c.toNat := by
  by_cases hc : image smallLetters c.toNat = c.toNat
  · rw [hc, Char.ofNat_toNat]
  obtain ⟨r, hr, i, -, hlast, -, himage⟩ := exists_of_image_ne hc
  have hle := least_add_le hr hlast
  have hvalid := isValid_of_mem hr
  simp only [isValid, isOff, Nat.blt_eq, Bool.or_eq_true, Bool.and_eq_true, decide_eq_true_eq]
    at hvalid
  -- the image of a letter is below the surrogates or above them, as the table was checked
  have hchar : (r.least + i).isValidChar := by
    rw [Nat.isValidChar]
    omega
  rw [himage, Char.ofNat, dif_pos hchar]
  rfl

end CaseRun

/-! ## Lower-casing a character -/

open CaseRun

/-- Lower-casing a character leaves something. -/
theorem lowerChar_ne_nil (c : Char) : lowerChar c ≠ [] := by
  rw [lowerChar]
  split <;> simp

/-- Lower-casing a character leaves small ones only. -/
theorem isSmall_of_mem_lowerChar {c d : Char} (h : d ∈ lowerChar c) : IsSmall d := by
  rw [lowerChar] at h
  split at h
  · have hdotted : IsSmall 'i' ∧ IsSmall (Char.ofNat 0x307) := by decide
    rcases List.mem_pair.mp h with rfl | rfl
    · exact hdotted.1
    · exact hdotted.2
  next hne =>
  rw [List.mem_singleton] at h
  subst h
  -- no letter is moved onto the dotted capital, the one letter with two small characters
  have hdotted : image smallLetters c.toNat ≠ 0x130 := by
    by_cases hc : image smallLetters c.toNat = c.toNat
    · rwa [hc]
    obtain ⟨r, hr, i, -, hlast, -, himage⟩ := exists_of_image_ne hc
    have hle := least_add_le hr hlast
    have hvalid := isValid_of_mem hr
    simp only [isValid, isOff, Nat.blt_eq, Bool.or_eq_true, Bool.and_eq_true] at hvalid
    omega
  rw [IsSmall, lowerChar, toNat_ofNat_image, if_neg hdotted, image_image]

/-- None of the further small forms lies in a caseless range. -/
theorem not_mem_of_isCaseless {range : Nat × Nat} (hrange : isCaseless range = true) {n : Nat}
    (hn : n ∈ furtherSmallForms) : ¬ (range.1 ≤ n ∧ n ≤ range.2) := by
  rw [isCaseless, Bool.and_eq_true] at hrange
  have hout := List.all_eq_true.mp hrange.2 n hn
  simp only [Nat.blt_eq, Bool.or_eq_true] at hout
  omega

/-- A character of a caseless range is the small form of itself only. -/
theorem eq_of_mem_lowerChar_of_isCaseless {range : Nat × Nat} (hrange : isCaseless range = true)
    {c d : Char} (h : d ∈ lowerChar c) (hd : range.1 ≤ d.toNat ∧ d.toNat ≤ range.2) : d = c := by
  rw [lowerChar] at h
  split at h
  · rcases List.mem_pair.mp h with rfl | rfl
    · exact absurd hd (not_mem_of_isCaseless hrange (by decide))
    · exact absurd hd (not_mem_of_isCaseless hrange (by decide))
  rw [List.mem_singleton] at h
  subst h
  -- a letter that moves ends outside the caseless range
  by_cases hc : image smallLetters c.toNat = c.toNat
  · rw [hc, Char.ofNat_toNat]
  obtain ⟨r, hr, i, -, hi, -, himage⟩ := exists_of_image_ne hc
  have hle := least_add_le hr hi
  rw [isCaseless, Bool.and_eq_true] at hrange
  have hoff := List.all_eq_true.mp hrange.1 r hr
  simp only [isOff, Nat.blt_eq, Bool.or_eq_true] at hoff
  rw [toNat_ofNat_image, himage] at hd
  omega

/-- Lower-casing brings no blank or parenthesis into a text. -/
theorem eq_of_mem_lowerChar {c d : Char} (h : d ∈ lowerChar c) (hd : IsSeparator d) : d = c := by
  obtain ⟨range, hrange, hfirst, hlast⟩ := hd.exists_range
  exact eq_of_mem_lowerChar_of_isCaseless (List.all_eq_true.mp isCaseless_separators range hrange) h
    ⟨hfirst, hlast⟩

/-- Both small sigmas are among the further small forms. -/
theorem toNat_lowerSigma_mem (before after : List Char) :
    (lowerSigma before after).toNat ∈ furtherSmallForms := by
  rw [lowerSigma]
  split <;> decide

/-- Both small sigmas are small. -/
theorem isSmall_lowerSigma (before after : List Char) : IsSmall (lowerSigma before after) := by
  rw [lowerSigma]
  split <;> decide

/-- Neither small sigma is a separator. -/
theorem not_isSeparator_lowerSigma (before after : List Char) :
    ¬ IsSeparator (lowerSigma before after) := by
  intro h
  obtain ⟨range, hrange, hin⟩ := h.exists_range
  exact not_mem_of_isCaseless (List.all_eq_true.mp isCaseless_separators range hrange)
    (toNat_lowerSigma_mem before after) hin

/-! ## Lower-casing a text -/

/-- Lower-casing a text leaves small characters only. -/
theorem isSmall_of_mem_lowerFrom {before s : List Char} {d : Char} (h : d ∈ lowerFrom before s) :
    IsSmall d := by
  induction s generalizing before with
  | nil => cases h
  | cons c rest ih =>
    rw [lowerFrom, List.mem_append] at h
    rcases h with h | h
    · split at h
      · rw [List.mem_singleton.mp h]
        exact isSmall_lowerSigma _ _
      · exact isSmall_of_mem_lowerChar h
    · exact ih h

/-- Lower-casing brings no character of a caseless range into a text. -/
theorem mem_of_mem_lowerFrom_of_isCaseless {range : Nat × Nat} (hrange : isCaseless range = true)
    {before s : List Char} {d : Char} (hd : range.1 ≤ d.toNat ∧ d.toNat ≤ range.2)
    (h : d ∈ lowerFrom before s) : d ∈ s := by
  induction s generalizing before with
  | nil => cases h
  | cons c rest ih =>
    rw [lowerFrom, List.mem_append] at h
    rcases h with h | h
    · split at h
      · rw [List.mem_singleton.mp h] at hd
        exact absurd hd (not_mem_of_isCaseless hrange (toNat_lowerSigma_mem _ _))
      · rw [eq_of_mem_lowerChar_of_isCaseless hrange h hd]
        exact List.mem_cons_self
    · exact List.mem_cons_of_mem _ (ih h)

/-- Lower-casing brings no separator into a text. -/
theorem mem_of_mem_lowerFrom {before s : List Char} {d : Char} (hd : IsSeparator d)
    (h : d ∈ lowerFrom before s) : d ∈ s := by
  obtain ⟨range, hrange, hfirst, hlast⟩ := hd.exists_range
  exact mem_of_mem_lowerFrom_of_isCaseless
    (List.all_eq_true.mp isCaseless_separators range hrange) ⟨hfirst, hlast⟩ h

/-- A small character at the beginning stays. -/
theorem lowerFrom_cons_of_isSmall {c : Char} (hc : IsSmall c) (before v : List Char) :
    lowerFrom before (c :: v) = c :: lowerFrom (c :: before) v := by
  rw [lowerFrom, if_neg hc.ne_sigma, hc]
  rfl

/-- A text of small characters stays. -/
theorem lowerFrom_of_isSmall {before s : List Char} (h : ∀ d ∈ s, IsSmall d) :
    lowerFrom before s = s := by
  induction s generalizing before with
  | nil => rfl
  | cons c rest ih =>
    have hc : IsSmall c := h c (by simp)
    rw [lowerFrom_cons_of_isSmall hc, ih fun d hd => h d (by simp [hd])]

/-- Lower-casing a second time changes nothing. -/
theorem lowerChars_lowerChars (s : List Char) : lowerChars (lowerChars s) = lowerChars s :=
  lowerFrom_of_isSmall fun _ hd => isSmall_of_mem_lowerFrom hd

/-- Whether a cased letter follows is decided before the next break. -/
theorem startsCased_append_break {b : Char} (hb : IsBreak b) (u v : List Char) :
    startsCased (u ++ b :: v) = startsCased u := by
  induction u with
  | nil => simp [startsCased, hb.2.1, hb.2.2]
  | cons c rest ih =>
    cases hc : isCaseIgnorable c with
    | true => simpa [startsCased, hc] using ih
    | false => simp [startsCased, hc]

/-- What stands before a text matters only as far as it begins with a letter. -/
theorem lowerFrom_congr {before before' : List Char}
    (h : startsCased before = startsCased before') (s : List Char) :
    lowerFrom before s = lowerFrom before' s := by
  induction s generalizing before before' with
  | nil => rfl
  | cons c rest ih =>
    have hnext : startsCased (c :: before) = startsCased (c :: before') := by
      cases hc : isCaseIgnorable c with
      | true => simpa [startsCased, hc] using h
      | false => simp [startsCased, hc]
    rw [lowerFrom, lowerFrom, ih hnext, lowerSigma, lowerSigma, h]

/-- What stands before and behind a break is lower-cased on its own. -/
theorem lowerFrom_append_break {b : Char} (hb : IsBreak b) (before u v : List Char) :
    lowerFrom before (u ++ b :: v) = lowerFrom before u ++ b :: lowerChars v := by
  induction u generalizing before with
  | nil =>
    have hstart : startsCased (b :: before) = startsCased [] := by
      simp [startsCased, hb.2.1, hb.2.2]
    rw [List.nil_append, lowerFrom_cons_of_isSmall hb.1, lowerFrom_congr hstart]
    rfl
  | cons c rest ih =>
    rw [List.cons_append, lowerFrom, lowerFrom, ih, lowerSigma, lowerSigma,
      startsCased_append_break hb, List.append_assoc]

/-- The texts before and behind a break are lower-cased apart. -/
theorem lowerChars_append_break {b : Char} (hb : IsBreak b) (u v : List Char) :
    lowerChars (u ++ b :: v) = lowerChars u ++ b :: lowerChars v :=
  lowerFrom_append_break hb [] u v

/-! ## Trimming -/

/-- The small form of a first character, which is not empty and has only the blanks and parentheses
that the character itself is. -/
theorem lowerFrom_cons (before : List Char) (c : Char) (rest : List Char) :
    ∃ small, lowerFrom before (c :: rest) = small ++ lowerFrom (c :: before) rest ∧ small ≠ [] ∧
      ∀ d ∈ small, IsSeparator d → d = c := by
  refine ⟨_, rfl, ?_, ?_⟩
  · split
    · simp
    · exact lowerChar_ne_nil c
  · intro d hmem hd
    split at hmem
    · rw [List.mem_singleton.mp hmem] at hd
      exact absurd hd (not_isSeparator_lowerSigma _ _)
    · exact eq_of_mem_lowerChar hmem hd

/-- Lower-casing neither brings blanks into a text nor takes any away. -/
theorem countP_isBlank_lowerFrom (before s : List Char) :
    (lowerFrom before s).countP isBlank = s.countP isBlank := by
  induction s generalizing before with
  | nil => rfl
  | cons c rest ih =>
    -- a blank stays as it is, and what is no blank becomes characters that are none
    cases hc : isBlank c with
    | true =>
      have hbreak : IsBreak c := IsSeparator.isBreak (.inl hc)
      rw [lowerFrom_cons_of_isSmall hbreak.1, List.countP_cons, List.countP_cons, ih]
    | false =>
      obtain ⟨small, heq, -, hsmall⟩ := lowerFrom_cons before c rest
      have hnone : small.countP isBlank = 0 := by
        rw [List.countP_eq_zero]
        intro d hd hblank
        rw [hsmall d hd (.inl hblank), hc] at hblank
        cases hblank
      rw [heq, List.countP_append, hnone, Nat.zero_add, ih, List.countP_cons_of_neg (by simp [hc])]

/-- The last character is lower-cased to one that is a separator only if it was that separator. -/
theorem getLast_lowerFrom (before s : List Char) (c : Char) :
    ∃ front last, lowerFrom before (s ++ [c]) = front ++ [last] ∧
      (IsSeparator last → last = c) := by
  induction s generalizing before with
  | nil =>
    obtain ⟨small, heq, hne, hsmall⟩ := lowerFrom_cons before c []
    refine ⟨small.dropLast, small.getLast hne, ?_, hsmall _ (List.getLast_mem hne)⟩
    rw [List.nil_append, heq, List.dropLast_append_getLast]
    exact List.append_nil _
  | cons d rest ih =>
    obtain ⟨front, last, heq, hlast⟩ := ih (d :: before)
    obtain ⟨small, hcons, -, -⟩ := lowerFrom_cons before d (rest ++ [c])
    exact ⟨small ++ front, last, by rw [List.cons_append, hcons, heq, List.append_assoc], hlast⟩

/-- Blanks at the beginning may be removed before or after lower-casing. -/
theorem trimStartChars_lowerChars (s : List Char) :
    trimStartChars (lowerChars s) = lowerChars (trimStartChars s) := by
  induction s with
  | nil => rfl
  | cons c rest ih =>
    -- a blank is a break, and no other character becomes one
    cases hc : isBlank c with
    | true =>
      have hbreak : IsBreak c := IsSeparator.isBreak (.inl hc)
      rw [← List.nil_append (c :: rest), lowerChars_append_break hbreak]
      simpa [trimStartChars, lowerChars, lowerFrom, hc] using ih
    | false =>
      obtain ⟨small, heq, hne, hsmall⟩ := lowerFrom_cons [] c rest
      obtain ⟨d, small, rfl⟩ := List.exists_cons_of_ne_nil hne
      have hd : isBlank d = false := by
        by_contra hblank
        rw [Bool.not_eq_false] at hblank
        rw [hsmall d (by simp) (.inl hblank), hc] at hblank
        cases hblank
      have hkeep : trimStartChars (c :: rest) = c :: rest := by simp [trimStartChars, hc]
      rw [hkeep, lowerChars, heq]
      simp [trimStartChars, hd]

/-- Blanks at the end may be removed before or after lower-casing. -/
theorem trimEndChars_lowerChars (s : List Char) :
    trimEndChars (lowerChars s) = lowerChars (trimEndChars s) := by
  change (lowerChars s).rdropWhile isBlank = lowerChars (s.rdropWhile isBlank)
  induction s using List.reverseRecOn with
  | nil => rfl
  | append_singleton s c ih =>
    -- the last character decides, as above, whether trimming goes on
    cases hc : isBlank c with
    | true =>
      have hbreak : IsBreak c := IsSeparator.isBreak (.inl hc)
      rw [List.rdropWhile_concat_pos _ _ _ hc, lowerChars_append_break hbreak, ← ih]
      exact List.rdropWhile_concat_pos _ _ _ hc
    | false =>
      obtain ⟨front, last, heq, hlast⟩ := getLast_lowerFrom [] s c
      have hblank : ¬ isBlank last = true := fun h => by
        rw [hlast (.inl h), hc] at h
        cases h
      rw [List.rdropWhile_concat_neg _ _ _ (by simp [hc]), lowerChars, heq,
        List.rdropWhile_concat_neg _ _ _ hblank]

/-- A text may be trimmed before or after it is lower-cased. -/
theorem trimChars_lowerChars (s : List Char) :
    trimChars (lowerChars s) = lowerChars (trimChars s) := by
  rw [trimChars, trimChars, trimStartChars_lowerChars, trimEndChars_lowerChars]

end CharacterSheet.Text
