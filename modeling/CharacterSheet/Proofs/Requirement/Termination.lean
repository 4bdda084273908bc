import CharacterSheet.Proofs.Requirement.Parts

/-!
# Reading a clause comes to an end

A clause is read by the first form that takes it. The two forms with alternatives have their pieces
read as clauses again, and nothing but the text itself bounds that. A piece that is not shorter than
its clause is the clause itself, so that the reading comes to an end exactly if every piece on the
way is shorter. If plain spaces stand around each `or` between blanks it always does: every piece
has fewer blanks than the clause.
-/

namespace CharacterSheet.Clause

open Text

/-! ## The first form that takes a clause -/

/-- What a form makes of a clause: a requirement, or pieces that are read as clauses again. -/
inductive Outcome where
  | requirement (r : Requirement)
  | alternatives (pieces : List (List Char))

/-- A form without pieces. -/
def single (form : List Char → Option Requirement) (s : List Char) : Option Outcome :=
  (form s).map .requirement

/-- `(…) or (…)` -/
def groupedForm (s : List Char) : Option Outcome :=
  (groups? s).map fun (first, second) => .alternatives [first, second]

/-- `… or …` -/
def freeForm (s : List Char) : Option Outcome :=
  if hasFreeOr s then some (.alternatives (splitChars " or ".toList s)) else none

/-- The forms of clauses, in the order in which they are tried. -/
def forms : List (List Char → Option Outcome) :=
  [single fun s => if isNarrative s then some (.narrative (String.ofList s)) else none,
    groupedForm,
    single trained?,
    single appendage?,
    single sizeOrLarger?,
    freeForm,
    single ability?,
    single baseAttackBonus?,
    single characterLevel?,
    single proficient?,
    single fun s => if isDroid s then some (.droid true) else none,
    single fun s => if isNoDroid s then some (.droid false) else none]

/-- The outcome of the first form that takes a clause. -/
def outcome? (s : List Char) : Option Outcome := forms.findSome? fun form => form s

/-- Reads a normal form by the first form that takes it, given how pieces are read. What no form
takes is the name of something to possess. -/
def conclude (piece : List Char → Option Requirement) (s : List Char) : Option Requirement :=
  match outcome? s with
  | some (.requirement r) => some r
  | some (.alternatives pieces) => (pieces.mapM piece).map .anyOf
  | none => some (.possession (String.ofList s))

/-- The nested tests of a reading come to the first form that takes a clause. -/
theorem readWith_eq_conclude (piece : List Char → Option Requirement) (s : List Char) :
    readWith piece s = conclude piece s := by
  rw [readWith, conclude, outcome?, forms]
  -- one form after another: where a form applies both sides end, where it does not both go on
  cases hnarrative : isNarrative s with
  | true => simp [single, hnarrative]
  | false =>
  cases hgroups : groups? s with
  | some pair => simp [single, groupedForm, hnarrative, hgroups]
  | none =>
  simp only [beforeOr?, afterOr?, droid?, List.findSome?_cons, List.findSome?_nil, single,
    groupedForm, freeForm, hnarrative, hgroups, Bool.false_eq_true, if_false, Option.map_none]
  cases trained? s with
  | some r => rfl
  | none =>
  cases appendage? s with
  | some r => rfl
  | none =>
  cases sizeOrLarger? s with
  | some r => rfl
  | none =>
  cases hasFreeOr s with
  | true => rfl
  | false =>
  cases ability? s with
  | some r => rfl
  | none =>
  cases baseAttackBonus? s with
  | some r => rfl
  | none =>
  cases characterLevel? s with
  | some r => rfl
  | none =>
  cases proficient? s with
  | some r => rfl
  | none => cases isDroid s <;> cases isNoDroid s <;> rfl

/-- The forms are of three kinds. -/
theorem mem_forms_cases : ∀ form ∈ forms,
    (∃ f, form = single f) ∨ form = groupedForm ∨ form = freeForm := by
  simp [forms]

/-- Only the two forms with alternatives have pieces. -/
theorem alternatives_cases {s : List Char} {pieces : List (List Char)}
    (h : outcome? s = some (.alternatives pieces)) :
    (∃ first second, groups? s = some (first, second) ∧ pieces = [first, second]) ∨
      (hasFreeOr s = true ∧ pieces = splitChars " or ".toList s) := by
  obtain ⟨form, hmem, hform⟩ := List.exists_of_findSome?_eq_some h
  rcases mem_forms_cases form hmem with ⟨f, rfl⟩ | rfl | rfl
  · obtain ⟨r, -, hr⟩ := Option.map_eq_some_iff.mp hform
    cases hr
  · obtain ⟨⟨first, second⟩, hgroups, hpieces⟩ := Option.map_eq_some_iff.mp hform
    cases hpieces
    exact .inl ⟨first, second, hgroups, rfl⟩
  · rw [freeForm] at hform
    split at hform
    · next hor =>
      cases hform
      exact .inr ⟨hor, rfl⟩
    · cases hform

/-! ## Blanks around the pieces -/

/-- Passing over blanks stops behind the last one of them. -/
theorem blanks?_eq_some {s rest : List Char} (h : blanks? s = some rest) :
    ∃ gap b, isBlank b = true ∧ s = gap ++ b :: rest := by
  obtain ⟨gap, hne, hgap, rfl, -⟩ := blanks?_eq_some_iff.mp h
  refine ⟨gap.dropLast, gap.getLast hne, hgap _ (List.getLast_mem hne), ?_⟩
  rw [List.append_cons, List.dropLast_append_getLast]

/-- The second group stands in parentheses at the end. -/
theorem secondGroup?_eq_some {s second : List Char} (h : secondGroup? s = some second) :
    ∃ front b, isBlank b = true ∧ s = front ++ b :: '(' :: (second ++ [')']) := by
  simp only [secondGroup?, Option.bind_eq_bind, Option.bind_eq_some_iff,
    List.isPrefixOf?_eq_some_iff_append_eq, List.isSuffixOf?_eq_some_iff_append_eq] at h
  obtain ⟨s₁, rfl, s₂, hgap, s₃, rfl, s₄, hgap', s₅, rfl, inner, rfl, h⟩ := h
  split at h
  · cases h
  · cases h
    obtain ⟨gap, b, hb, rfl⟩ := blanks?_eq_some hgap
    obtain ⟨gap', b', hb', rfl⟩ := blanks?_eq_some hgap'
    exact ⟨')' :: (gap ++ b :: 'o' :: 'r' :: gap'), b', hb', by simp⟩

/-- A text is divided before a second group. -/
theorem divide?_eq_some {s first second : List Char} (h : divide? s = some (first, second)) :
    ∃ rest, s = first ++ rest ∧ secondGroup? rest = some second := by
  -- the places behind this one are tried first, so the second group follows the last fitting place
  induction s generalizing first with
  | nil => cases h
  | cons c s ih =>
    rw [divide?] at h
    split at h
    · next hrest =>
      cases h
      split at hrest
      · cases hrest
      · obtain ⟨rest, rfl, hsecond⟩ := ih hrest
        exact ⟨rest, rfl, hsecond⟩
    · obtain ⟨second', hsecond, heq⟩ := Option.map_eq_some_iff.mp h
      cases heq
      exact ⟨c :: s, rfl, hsecond⟩

/-- Where the two groups of a clause stand in it. -/
theorem groups?_eq_some {s first second : List Char} (h : groups? s = some (first, second)) :
    ∃ gap b, isBlank b = true ∧
      s = '(' :: (first ++ gap ++ b :: '(' :: (second ++ [')'])) := by
  unfold groups? at h
  split at h
  · next c rest =>
    split at h
    · cases h
    · obtain ⟨⟨first', second'⟩, hdivide, heq⟩ := Option.map_eq_some_iff.mp h
      cases heq
      obtain ⟨behind, rfl, hsecond⟩ := divide?_eq_some hdivide
      obtain ⟨gap, b, hb, rfl⟩ := secondGroup?_eq_some hsecond
      exact ⟨gap, b, hb, by simp⟩
  · cases h

/-- A free `or` has a blank on either side. -/
theorem hasFreeOr_infix {s : List Char} (h : hasFreeOr s = true) :
    ∃ b b', isBlank b = true ∧ isBlank b' = true ∧ [b, 'o', 'r', b'] <:+: s := by
  induction s with
  | nil => cases h
  | cons c s ih =>
    rw [hasFreeOr, Bool.and_eq_true, Bool.or_eq_true] at h
    obtain ⟨-, h | h⟩ := h
    · rw [continuesWithOr] at h
      split at h
      · next rest hrest =>
        obtain ⟨s₁, hgap, hor⟩ := Option.bind_eq_some_iff.mp hrest
        obtain ⟨gap, b, hb, rfl⟩ := blanks?_eq_some hgap
        rw [List.isPrefixOf?_eq_some_iff_append_eq] at hor
        subst hor
        -- behind the word stands the first of its blanks
        cases rest with
        | nil => cases h
        | cons b' rest =>
          cases hb' : isBlank b' with
          | true => exact ⟨b, b', hb, hb', c :: gap, rest, by simp⟩
          | false => simp [blanks?, hb'] at h
      · cases h
    · obtain ⟨b, b', hb, hb', hin⟩ := ih h
      exact ⟨b, b', hb, hb', hin.trans (List.suffix_cons c s).isInfix⟩

/-- Wherever `or` stands between blanks, both of these are plain spaces. -/
def IsSpaced (s : List Char) : Prop :=
  ∀ b b', [b, 'o', 'r', b'] <:+: s → isBlank b = true → isBlank b' = true → b = ' ' ∧ b' = ' '

/-- Whether a text does not begin with an `or` between blanks that are not both plain spaces. -/
def beginsSpaced : List Char → Bool
  | b :: 'o' :: 'r' :: b' :: _ => !(isBlank b && isBlank b') || (b == ' ' && b' == ' ')
  | _ => true

/-- Spacing can be decided from the tails of a text. -/
theorem isSpaced_iff (s : List Char) : IsSpaced s ↔ ∀ t ∈ s.tails, beginsSpaced t = true := by
  constructor
  · intro h t ht
    unfold beginsSpaced
    split
    · next b b' rest =>
      have hin : [b, 'o', 'r', b'] <:+: s := by
        refine List.IsInfix.trans ?_ ((List.mem_tails _ _).mp ht).isInfix
        exact ⟨[], rest, rfl⟩
      have hspaces := h b b' hin
      cases hb : isBlank b <;> cases hb' : isBlank b' <;> simp_all
    · rfl
  · intro h b b' hin hb hb'
    obtain ⟨t, ⟨rest, rfl⟩, ht⟩ := List.infix_iff_prefix_suffix.mp hin
    have hbegin := h _ ((List.mem_tails _ _).mpr ht)
    simpa [beginsSpaced, hb, hb'] using hbegin

instance (s : List Char) : Decidable (IsSpaced s) := decidable_of_iff' _ (isSpaced_iff s)

/-- Parts of a spaced text are spaced. -/
theorem IsSpaced.of_isInfix {s t : List Char} (hs : IsSpaced s) (h : t <:+: s) : IsSpaced t :=
  fun b b' hin => hs b b' (hin.trans h)

/-- The pieces of a clause lie in it and have fewer blanks. -/
theorem IsSpaced.piece {s : List Char} (hs : IsSpaced s) {pieces : List (List Char)}
    (h : outcome? s = some (.alternatives pieces)) {piece : List Char} (hpiece : piece ∈ pieces) :
    piece <:+: s ∧ piece.countP isBlank < s.countP isBlank := by
  rcases alternatives_cases h with ⟨first, second, hgroups, rfl⟩ | ⟨hor, rfl⟩
  · obtain ⟨gap, b, hb, rfl⟩ := groups?_eq_some hgroups
    rcases List.mem_pair.mp hpiece with rfl | rfl
    · refine ⟨⟨['('], gap ++ b :: '(' :: (second ++ [')']), by simp⟩, ?_⟩
      simp [List.countP_append, List.countP_cons, hb]
      omega
    · refine ⟨⟨'(' :: (first ++ gap ++ [b, '(']), [')'], by simp⟩, ?_⟩
      simp [List.countP_append, List.countP_cons, hb]
      omega
  -- `or` between spaces is left out of every piece, and with it one of the blanks
  · obtain ⟨b, b', hb, hb', hin⟩ := hasFreeOr_infix hor
    obtain ⟨rfl, rfl⟩ := hs b b' hin hb hb'
    have hor : " or ".toList <:+: s := hin
    have hblank : 0 < " or ".toList.countP isBlank := by decide
    rcases beside_of_mem_splitChars (by decide) hor hpiece with hbeside | hbeside
    · have hcount := hbeside.sublist.countP_le (p := isBlank)
      rw [List.countP_append] at hcount
      exact ⟨(List.prefix_append _ _).isInfix.trans hbeside, by omega⟩
    · have hcount := hbeside.sublist.countP_le (p := isBlank)
      rw [List.countP_append] at hcount
      exact ⟨(List.suffix_append _ _).isInfix.trans hbeside, by omega⟩

/-- Brought into normal form, the pieces of a clause in small letters are still parts of it. -/
theorem IsSpaced.normalForm_piece {s : List Char} (hsmall : ∀ c ∈ s, IsSmall c) (hs : IsSpaced s)
    {pieces : List (List Char)} (h : outcome? s = some (.alternatives pieces)) {piece : List Char}
    (hpiece : piece ∈ pieces) :
    normalForm piece <:+: s ∧ (normalForm piece).countP isBlank < s.countP isBlank := by
  obtain ⟨hin, hfewer⟩ := hs.piece h hpiece
  have hlower : lowerChars piece = piece :=
    lowerFrom_of_isSmall fun c hc => hsmall c (hin.subset hc)
  have hnormal : normalForm piece <:+: piece := by
    have hinfix := normalForm_isInfix piece
    rwa [hlower] at hinfix
  exact ⟨hnormal.trans hin, hnormal.sublist.countP_le.trans_lt hfewer⟩

/-- Brought into normal form, the pieces of a spaced clause are shorter. -/
theorem IsSpaced.length_normalForm_lt {s : List Char} (hsmall : ∀ c ∈ s, IsSmall c)
    (hs : IsSpaced s) {pieces : List (List Char)} (h : outcome? s = some (.alternatives pieces))
    {piece : List Char} (hpiece : piece ∈ pieces) : (normalForm piece).length < s.length := by
  obtain ⟨hin, hfewer⟩ := hs.normalForm_piece hsmall h hpiece
  refine lt_of_le_of_ne hin.length_le fun hlength => ?_
  rw [hin.eq_of_length hlength] at hfewer
  exact lt_irrefl _ hfewer

/-! ## Reading without a bound on the pieces -/

/-- Reads a normal form, with its pieces in normal form again and whatever their length. There is no
answer if more than `depth` readings are begun inside one another. -/
def readWithin (depth : Nat) (s : List Char) : Option Requirement :=
  match outcome? s, depth with
  | some (.requirement r), _ => some r
  | some (.alternatives _), 0 => none
  | some (.alternatives pieces), depth + 1 =>
    (pieces.mapM fun piece => readWithin depth (normalForm piece)).map .anyOf
  | none, _ => some (.possession (String.ofList s))

/-- While a clause is read, another normal form is read: its own, or one on the way through the
pieces. -/
inductive Calls (s : List Char) : List Char → Prop
  | whole : Calls s s
  | piece {t piece : List Char} {pieces : List (List Char)} (h : Calls s t)
      (houtcome : outcome? t = some (.alternatives pieces)) (hpiece : piece ∈ pieces) :
      Calls s (normalForm piece)

/-- There is always a piece to read. -/
theorem alternatives_ne_nil {s : List Char} {pieces : List (List Char)}
    (h : outcome? s = some (.alternatives pieces)) : pieces ≠ [] := by
  rcases alternatives_cases h with ⟨first, second, -, rfl⟩ | ⟨-, rfl⟩
  · exact List.cons_ne_nil _ _
  · exact splitFrom_ne_nil _ _ _

/-- A clause with pieces has something in it. -/
theorem ne_nil_of_alternatives {s : List Char} {pieces : List (List Char)}
    (h : outcome? s = some (.alternatives pieces)) : s ≠ [] := by
  rintro rfl
  rcases alternatives_cases h with ⟨first, second, hgroups, -⟩ | ⟨hor, -⟩
  · cases hgroups
  · cases hor

/-- The pieces of a clause in small letters are no longer than the clause, and one that is as long
is the clause itself. -/
theorem normalForm_piece_eq {s : List Char} (hsmall : ∀ c ∈ s, IsSmall c)
    {pieces : List (List Char)} (h : outcome? s = some (.alternatives pieces)) {piece : List Char}
    (hpiece : piece ∈ pieces) (hlength : ¬ (normalForm piece).length < s.length) :
    normalForm piece = s := by
  -- every piece is cut from the text, so its normal form is too, and equal in length is equal
  have hin : piece <:+: s := by
    rcases alternatives_cases h with ⟨first, second, hgroups, rfl⟩ | ⟨-, rfl⟩
    · obtain ⟨gap, b, -, rfl⟩ := groups?_eq_some hgroups
      rcases List.mem_pair.mp hpiece with rfl | rfl
      · exact ⟨['('], gap ++ b :: '(' :: (second ++ [')']), by simp⟩
      · exact ⟨'(' :: (first ++ gap ++ [b, '(']), [')'], by simp⟩
    · exact isInfix_of_mem_splitChars (by decide) hpiece
  have hlower : lowerChars piece = piece :=
    lowerFrom_of_isSmall fun c hc => hsmall c (hin.subset hc)
  have hnormal := normalForm_isInfix piece
  rw [hlower] at hnormal
  exact (hnormal.trans hin).eq_of_length (Nat.le_antisymm (hnormal.trans hin).length_le (by omega))

/-- A clause that is a piece of itself is read within no depth. -/
theorem readWithin_eq_none_of_piece {s : List Char} {pieces : List (List Char)}
    (h : outcome? s = some (.alternatives pieces)) {piece : List Char} (hpiece : piece ∈ pieces)
    (hself : normalForm piece = s) (depth : Nat) : readWithin depth s = none := by
  induction depth with
  | zero => rw [readWithin.eq_def, h]
  | succ depth ih =>
    have hnone :
        ¬ (pieces.mapM fun piece => readWithin depth (normalForm piece)).isSome = true := by
      rw [isSome_mapM_iff]
      exact fun hall => absurd (hall piece hpiece) (by simp [hself, ih])
    rw [readWithin.eq_def, h]
    simpa using hnone

/-- Reading a clause gives what it gives within any depth that is as large as the clause is long.
So it gives nothing only where no depth is enough. -/
theorem ofNormalForm_eq_readWithin {s : List Char} (hsmall : ∀ c ∈ s, IsSmall c) {depth : Nat}
    (hdepth : s.length ≤ depth) : ofNormalForm s = readWithin depth s := by
  induction depth generalizing s with
  | zero =>
    obtain rfl := List.length_eq_zero_iff.mp (Nat.le_zero.mp hdepth)
    rw [ofNormalForm, readWith_eq_conclude, conclude, readWithin.eq_def]
    cases houtcome : outcome? [] with
    | none => rfl
    | some outcome =>
      cases outcome with
      | requirement r => rfl
      | alternatives pieces => exact absurd rfl (ne_nil_of_alternatives houtcome)
  | succ depth ih =>
    rw [ofNormalForm, readWith_eq_conclude, conclude, readWithin.eq_def]
    cases houtcome : outcome? s with
    | none => rfl
    | some outcome =>
      cases outcome with
      | requirement r => rfl
      | alternatives pieces =>
        refine congrArg (Option.map Requirement.anyOf) (mapM_congr fun piece hpiece => ?_)
        -- a piece that does not get shorter is the text again, which no depth is enough for
        by_cases hlength : (normalForm piece).length < s.length
        · rw [dif_pos hlength]
          exact ih (fun c hc => isSmall_of_mem_normalForm hc) (by omega)
        · have hself := normalForm_piece_eq hsmall houtcome hpiece hlength
          rw [dif_neg hlength, hself, readWithin_eq_none_of_piece houtcome hpiece hself]

/-- The pieces of a spaced clause are read without a look at their length. -/
theorem ofNormalForm_eq_conclude {s : List Char} (hsmall : ∀ c ∈ s, IsSmall c)
    (hs : IsSpaced s) :
    ofNormalForm s = conclude (fun piece => ofNormalForm (normalForm piece)) s := by
  rw [ofNormalForm, readWith_eq_conclude, conclude, conclude]
  cases houtcome : outcome? s with
  | none => rfl
  | some outcome =>
    cases outcome with
    | requirement r => rfl
    | alternatives pieces =>
      refine congrArg (Option.map Requirement.anyOf) (mapM_congr fun piece hpiece => ?_)
      rw [dif_pos (hs.length_normalForm_lt hsmall houtcome hpiece)]

/-- A spaced clause is read, and the reading goes no deeper than there are blanks in it. -/
theorem exists_readWithin {s : List Char} (hsmall : ∀ c ∈ s, IsSmall c) (hs : IsSpaced s)
    {depth : Nat} (hdepth : s.countP isBlank ≤ depth) :
    ∃ r, ofNormalForm s = some r ∧ readWithin depth s = some r := by
  induction depth using Nat.strong_induction_on generalizing s with
  -- on the depth, which bounds the blanks: every piece has fewer of them than the text
  | _ depth ih =>
    rw [ofNormalForm_eq_conclude hsmall hs, conclude]
    cases houtcome : outcome? s with
    | none => exact ⟨_, rfl, by rw [readWithin.eq_def, houtcome]⟩
    | some outcome =>
      cases outcome with
      | requirement r => exact ⟨_, rfl, by rw [readWithin.eq_def, houtcome]⟩
      | alternatives pieces =>
        obtain ⟨first, hfirst⟩ := List.exists_mem_of_ne_nil _ (alternatives_ne_nil houtcome)
        have hfewer := (hs.normalForm_piece hsmall houtcome hfirst).2
        obtain ⟨depth, rfl⟩ : ∃ smaller, depth = smaller + 1 := ⟨depth - 1, by omega⟩
        have hpieces : ∀ piece ∈ pieces, ∃ r, ofNormalForm (normalForm piece) = some r ∧
            readWithin depth (normalForm piece) = some r := by
          intro piece hpiece
          obtain ⟨hin, hfewer⟩ := hs.normalForm_piece hsmall houtcome hpiece
          exact ih depth (by omega) (fun c hc => hsmall c (hin.subset hc)) (hs.of_isInfix hin)
            (by omega)
        have hsame := mapM_congr fun piece hpiece => by
          obtain ⟨r, hr, hr'⟩ := hpieces piece hpiece
          exact hr'.trans hr.symm
        obtain ⟨rs, hrs⟩ := Option.isSome_iff_exists.mp (isSome_mapM_iff.mpr fun piece hpiece => by
          obtain ⟨r, hr, -⟩ := hpieces piece hpiece
          exact Option.isSome_of_eq_some hr)
        refine ⟨.anyOf rs, ?_, ?_⟩
        · simp only [hrs, Option.map_some]
        · rw [readWithin.eq_def, houtcome]
          simp only [hsame, hrs, Option.map_some]

/-- Whatever is read on the way lies in the clause. -/
theorem Calls.isInfix {s t : List Char} (h : Calls s t) (hsmall : ∀ c ∈ s, IsSmall c)
    (hs : IsSpaced s) : t <:+: s := by
  induction h with
  | whole => exact List.infix_rfl
  | piece _ houtcome hpiece ih =>
    have hin := (hs.of_isInfix ih).normalForm_piece (fun c hc => hsmall c (ih.subset hc)) houtcome
      hpiece
    exact hin.1.trans ih

/-- Let plain spaces stand around each `or` between blanks in the normal form of a text. Then each
piece that is read on the way is shorter, in normal form, than the clause that it is a piece of, and
is spaced in the same way. So the reading comes to an end, no deeper than the text is long, and its
result is that of the first form that takes the text, or else the possession of its normal form. -/
theorem parse_terminates {text : String} (h : IsSpaced (normalForm text.toList)) :
    (∀ s, Calls (normalForm text.toList) s → ∀ pieces, outcome? s = some (.alternatives pieces) →
      ∀ piece ∈ pieces, (normalForm piece).length < s.length ∧ IsSpaced (normalForm piece)) ∧
    (∃ r, parse text = some r ∧ readWithin text.length (normalForm text.toList) = some r) ∧
    parse text = conclude (fun piece => parse (String.ofList piece)) (normalForm text.toList) := by
  have hsmall : ∀ c ∈ normalForm text.toList, IsSmall c := fun c hc => isSmall_of_mem_normalForm hc
  refine ⟨?_, ?_, ?_⟩
  · intro s hcalls pieces houtcome piece hpiece
    have hin := hcalls.isInfix hsmall h
    have hs := h.of_isInfix hin
    have hsmall' : ∀ c ∈ s, IsSmall c := fun c hc => hsmall c (hin.subset hc)
    exact ⟨hs.length_normalForm_lt hsmall' houtcome hpiece,
      hs.of_isInfix (hs.normalForm_piece hsmall' houtcome hpiece).1⟩
  · refine exists_readWithin hsmall h ?_
    -- the text has at least as many characters as blanks, so its length is enough as depth
    calc (normalForm text.toList).countP isBlank
        ≤ (lowerChars text.toList).countP isBlank := (normalForm_isInfix _).sublist.countP_le
      _ = text.toList.countP isBlank := countP_isBlank_lowerFrom [] _
      _ ≤ text.toList.length := List.countP_le_length
      _ = text.length := String.length_toList
  · rw [parse, ofNormalForm_eq_conclude hsmall h]
    simp only [parse, String.toList_ofList]

/-- Groups with alternatives in them are read. -/
theorem parse_terminates_dodge :
    let text := "(Dodge feat.) or (Acrobatics or Mobility)"
    IsSpaced (normalForm text.toList) ∧
      ∃ r, parse text = some r ∧ readWithin text.length (normalForm text.toList) = some r := by
  intro text
  have hspaced : IsSpaced (normalForm text.toList) := by decide +kernel
  exact ⟨hspaced, (parse_terminates hspaced).2.1⟩

/-- A free `or` that is never written with plain spaces leaves the clause whole, so that its reading
does not come to an end. -/
theorem ofNormalForm_eq_none {s : List Char} (hnormal : IsNormal s)
    (hnarrative : isNarrative s = false) (hgroups : groups? s = none) (hbefore : beforeOr? s = none)
    (hor : hasFreeOr s = true) (hspaces : ¬ " or ".toList <:+: s) : ofNormalForm s = none := by
  have hfree : freeForm s = some (.alternatives [s]) := by
    rw [freeForm, if_pos hor, splitChars_of_not_isInfix hspaces]
  have houtcome : outcome? s = some (.alternatives [s]) := by
    simp only [beforeOr?, Option.orElse_eq_orElse, Option.orElse_eq_or, Option.or_eq_none_iff]
      at hbefore
    simp [outcome?, forms, single, groupedForm, hnarrative, hgroups, hbefore, hfree]
  have hself : normalForm s = s := normalForm_eq_self_iff.mpr hnormal
  rw [ofNormalForm_eq_readWithin (fun c hc => isSmall_of_mem_normalForm (hself.symm ▸ hc)) le_rfl,
    readWithin_eq_none_of_piece houtcome (List.mem_singleton_self s) hself]

/-- Tabs around the word leave nothing to take apart. -/
example : parse "Dodge\tor\tMobility" = none := by decide +kernel

end CharacterSheet.Clause
