import CharacterSheet.Proofs.Derivation.Reordering
import CharacterSheet.Proofs.Derivation.Warnings
import CharacterSheet.Proofs.Text.Count

/-!
# Open slots

A block keeps account of slots: active traits provide them by texts in a small format, and owned
traits take them, equipped or not, unless they were granted. What is left of a slot is what was
provided less what was taken, in 32 bits, and it may be negative. A slot that is not provided is
listed all the same once it is taken.
-/

namespace CharacterSheet

/-! ## Provisions -/

/-- So many of a slot, as a text provides them. -/
structure Provision where
  text : String
  slot : String
  count : Int
  /-- Whether the text has no valid count where it should have one, so that one is counted. -/
  miscounted : Bool
deriving DecidableEq

namespace Provision

/-- How texts are read. The count stands behind the last colon; without a colon there is one. -/
inductive IsRead : Provision → Prop where
  | single {text : String} (hsingle : ':' ∉ text.toList) :
    IsRead ⟨text, Text.trim text, 1, false⟩
  | counted {text front back : String} {n : Int}
    (htext : text.toList = front.toList ++ ':' :: back.toList) (hback : ':' ∉ back.toList)
    (hcount : Text.IsInt32 (Text.trimChars back.toList) n) :
    IsRead ⟨text, Text.trim front, n, false⟩
  | miscounted {text front back : String}
    (htext : text.toList = front.toList ++ ':' :: back.toList) (hback : ':' ∉ back.toList)
    (hcount : ∀ n, ¬ Text.IsInt32 (Text.trimChars back.toList) n) :
    IsRead ⟨text, Text.trim front, 1, true⟩

/-- The provision that a text is read as. -/
def ofText (text : String) : Provision where
  text := text
  slot := (Profile.provision text).1
  count := (Profile.provision text).2.getD 1
  miscounted := (Profile.provision text).2.isNone

/-- Every text is read. -/
theorem isRead_ofText (text : String) : (ofText text).IsRead := by
  cases hsplit : Text.splitLast? ':' text with
  | none =>
    have htext : ofText text = ⟨text, Text.trim text, 1, false⟩ := by
      simp [ofText, Profile.provision, hsplit]
    rw [htext]
    exact .single (Text.splitLast?_eq_none_iff.mp hsplit)
  | some parts =>
    obtain ⟨front, back⟩ := parts
    obtain ⟨htext, hback⟩ := Text.splitLast?_eq_some_iff.mp hsplit
    cases hcount : Text.int32? (Text.trimChars back.toList) with
    | some n =>
      have hread : ofText text = ⟨text, Text.trim front, n, false⟩ := by
        simp [ofText, Profile.provision, hsplit, hcount]
      rw [hread]
      exact .counted htext hback (Text.int32?_eq_some_iff.mp hcount)
    | none =>
      have hread : ofText text = ⟨text, Text.trim front, 1, true⟩ := by
        simp [ofText, Profile.provision, hsplit, hcount]
      rw [hread]
      refine .miscounted htext hback fun n hn => ?_
      rw [Text.int32?_eq_some_iff.mpr hn] at hcount
      cases hcount

/-- Each text is read in one way. -/
theorem isRead_iff {p : Provision} : p.IsRead ↔ ofText p.text = p := by
  refine ⟨fun h => ?_, fun h => h ▸ isRead_ofText p.text⟩
  cases h with
  | single hsingle =>
    simp [ofText, Profile.provision, Text.splitLast?_eq_none_iff.mpr hsingle]
  | counted htext hback hcount =>
    simp [ofText, Profile.provision, Text.splitLast?_eq_some_iff.mpr ⟨htext, hback⟩,
      Text.int32?_eq_some_iff.mpr hcount]
  | miscounted htext hback hcount =>
    have hnone := Option.eq_none_iff_forall_ne_some.mpr fun n hn =>
      hcount n (Text.int32?_eq_some_iff.mp hn)
    simp [ofText, Profile.provision, Text.splitLast?_eq_some_iff.mpr ⟨htext, hback⟩, hnone]

/-- The warning about a text without a valid count. -/
def warning (p : Provision) : String := "provides: bad count in '" ++ p.text ++ "'; using 1"

/-- A warning about a provision is told by its first word. -/
theorem isSlotWarning_warning (p : Provision) : Profile.isSlotWarning p.warning = true := by
  have hwarning : p.warning = "provides: " ++ ("bad count in '" ++ p.text ++ "'; using 1") := by
    change "provides: bad count in '" ++ p.text ++ "'; using 1" = _
    simp only [← String.append_assoc, String.reduceAppend]
  rw [hwarning]
  exact Text.startsWith_append _ _

end Provision

/-- What active traits provide: the contributions that are not null, read as provisions. -/
def Character.provisions (c : Character) : List Provision :=
  c.activeTraits.flatMap fun t =>
    (t.contributions.filter fun k => k.key = "provides" && !k.value.isNull).map fun k =>
      .ofText k.value.display

/-- Whether a trait was taken against a slot and not granted. -/
def Trait.takes (t : Trait) (slot : String) : Bool := !t.isSupplied && t.slot = some slot

/-! ## The account -/

namespace Profile

/-- Entries in the account of slots, one after the other. -/
def post (slots : Std.ExtTreeMap String Int) (entries : List (String × Int)) :
    Std.ExtTreeMap String Int :=
  entries.foldl (fun slots entry => addToSlot slots entry.1 entry.2) slots

/-- The sum of the entries for a slot. -/
def postedTo (slot : String) (entries : List (String × Int)) : Int :=
  ((entries.filter (·.1 = slot)).map (·.2)).sum

/-- Nothing is entered for a slot without an entry. -/
theorem postedTo_of_not_mem {slot : String} {entries : List (String × Int)}
    (h : slot ∉ entries.map (·.1)) : postedTo slot entries = 0 := by
  have hnone : entries.filter (·.1 = slot) = [] := by
    rw [List.filter_eq_nil_iff]
    intro entry hentry
    rw [decide_eq_true_eq]
    rintro rfl
    exact h (List.mem_map_of_mem hentry)
  rw [postedTo, hnone]
  rfl

/-- A slot is listed once something was entered for it, with the sum of what was entered. That the
sum may wrap around at each entry comes to its wrapping around once. -/
theorem getElem?_post (slots : Std.ExtTreeMap String Int) (entries : List (String × Int))
    (slot : String) :
    (post slots entries)[slot]? =
      if slot ∈ entries.map (·.1) then some (word (slots[slot]?.getD 0 + postedTo slot entries))
      else slots[slot]? := by
  induction entries generalizing slots with
  | nil => rfl
  | cons entry rest ih =>
    -- the first posting makes the entry, if it is for this slot; the rest is posted onto it
    rw [post, List.foldl_cons, ← post, ih, getElem?_addToSlot]
    by_cases h : entry.1 = slot
    · have hposted : postedTo slot (entry :: rest) = entry.2 + postedTo slot rest := by
        simp [postedTo, h]
      have hmem : slot ∈ (entry :: rest).map (·.1) := by simp [h]
      rw [if_pos h, if_pos hmem, hposted]
      by_cases hrest : slot ∈ rest.map (·.1)
      · rw [if_pos hrest, Option.getD_some, word_word_add, Int.add_assoc]
      · rw [if_neg hrest, postedTo_of_not_mem hrest, Int.add_zero]
    · have hposted : postedTo slot (entry :: rest) = postedTo slot rest := by
        simp [postedTo, h]
      have hmem : slot ∈ (entry :: rest).map (·.1) ↔ slot ∈ rest.map (·.1) := by
        simp [Ne.symm h]
      rw [if_neg h, hposted]
      simp only [hmem]

/-- Entries can be made in two parts. -/
theorem post_append (slots : Std.ExtTreeMap String Int) (entries entries' : List (String × Int)) :
    post slots (entries ++ entries') = post (post slots entries) entries' := List.foldl_append

/-- What two parts enter for a slot adds up. -/
theorem postedTo_append (slot : String) (entries entries' : List (String × Int)) :
    postedTo slot (entries ++ entries') = postedTo slot entries + postedTo slot entries' := by
  simp [postedTo]

/-! ## What is provided -/

/-- Values that are not null are read one by one, each with a warning if it has no valid count. -/
theorem answeredBy_addProvisions (answer : Question → Answer) (slots : Std.ExtTreeMap String Int)
    (values : List Value) :
    (addProvisions slots values).answeredBy answer =
      let provisions := (values.filter (!·.isNull)).map fun v => Provision.ofText v.display
      (post slots (provisions.map fun p => (p.slot, p.count)),
        (provisions.filter (·.miscounted)).map Provision.warning) := by
  rw [Inquiry.answeredBy_eq, result_addProvisions]
  refine Prod.ext ?_ ?_
  · simp only [post, List.map_map, List.foldl_map]
    rfl
  -- the warnings are those of the miscounted texts, one value after another
  dsimp only
  induction values generalizing slots with
  | nil => rfl
  | cons value rest ih =>
    rw [addProvisions]
    cases hnull : value.isNull with
    | true => rw [if_pos rfl, ih, List.filter_cons_of_neg (by simp [hnull])]
    | false =>
      rw [if_neg Bool.false_ne_true, List.filter_cons_of_pos (by simp [hnull]), List.map_cons]
      split
      · next hread =>
        rw [ih, List.filter_cons_of_neg (by simp [Provision.ofText, hread])]
      · next hread =>
        rw [Inquiry.warnings_bind, ih, List.filter_cons_of_pos (by simp [Provision.ofText, hread])]
        rfl

/-! ## What is taken -/

/-- Each trait that was taken against a slot and not granted is entered with minus one. -/
def takings (owned : List Trait) : List (String × Int) :=
  (owned.filterMap fun t => if t.isSupplied then none else t.slot).map (·, -1)

/-- Taking slots is entering the takings. -/
theorem takeSlots_eq_post (slots : Std.ExtTreeMap String Int) (owned : List Trait) :
    takeSlots slots owned = post slots (takings owned) := by
  rw [takeSlots, post, takings, List.foldl_map]

/-- A slot has takings if a trait takes it. -/
theorem mem_takings_iff {owned : List Trait} {slot : String} :
    slot ∈ (takings owned).map (·.1) ↔ ∃ t ∈ owned, t.takes slot = true := by
  simp [takings, Trait.takes]

/-- The takings of the first trait come first. -/
theorem takings_cons (t : Trait) (rest : List Trait) :
    takings (t :: rest) = takings [t] ++ takings rest := by
  rw [takings, takings, takings, ← List.map_append, ← List.filterMap_append]
  rfl

/-- One trait takes one at most. -/
theorem postedTo_takings_singleton (slot : String) (t : Trait) :
    postedTo slot (takings [t]) = if t.takes slot then -1 else 0 := by
  rw [takings, List.filterMap_cons, Trait.takes]
  cases t.isSupplied with
  | true => rfl
  | false =>
    cases t.slot with
    | none => rfl
    | some other =>
      by_cases h : other = slot
      · simp [postedTo, h]
      · simp [postedTo, h]

/-- Each trait that takes a slot takes one off it. -/
theorem postedTo_takings (slot : String) (owned : List Trait) :
    postedTo slot (takings owned) = -(owned.countP (·.takes slot) : Int) := by
  induction owned with
  | nil => rfl
  | cons t rest ih =>
    rw [takings_cons, postedTo_append, postedTo_takings_singleton, ih, List.countP_cons]
    split <;> omega

end Profile

/-! ## Blocks -/

/-- The values that a character is asked for are its provisions. -/
theorem Character.map_values_provides (c : Character) (here : Standpoint) :
    (((here.values "provides" .all).result (Question.answer c.activeTraits)).filter
      (!·.isNull)).map (fun v => Provision.ofText v.display) = c.provisions := by
  have hfound : (here.values "provides" .all).result (Question.answer c.activeTraits) =
      ((Pool.mk c.activeTraits here.vars.lookup).matching "provides" .all).map (·.2.value) := rfl
  have htraits : c.activeTraits.filter Filter.all.acceptsTrait = c.activeTraits :=
    List.filter_eq_self.mpr fun _ _ => rfl
  have hcontribution : ∀ k, Filter.all.acceptsContribution k = true := fun _ => rfl
  rw [hfound, Pool.matching, htraits, provisions]
  simp only [hcontribution, List.filter_flatMap, List.map_flatMap, List.filter_map,
    List.filter_filter, List.map_map, Function.comp_def, Bool.true_and, Bool.and_comm]

namespace Stats.IsComposed

variable {rules : Rules} {skills : List Skill} {c : Character} {s : Stats}

/-- The account of a block: what is provided is entered first, then what is taken. -/
theorem openSlots_eq (h : s.IsComposed (Question.answer c.activeTraits) rules skills c) :
    s.profile.openSlots = Profile.post ∅
      ((c.provisions.map fun p => (p.slot, p.count)) ++ Profile.takings c.ownedTraits) := by
  let here : Standpoint := ⟨c.id, .traits, ∅⟩
  have hprovided := fun values => congrArg Prod.fst
    (Profile.answeredBy_addProvisions (Question.answer c.activeTraits) ∅ values)
  -- first what the active traits provide, then what the owned ones take, in one run of postings
  have hprofile : s.profile.openSlots = Profile.takeSlots ((Profile.addProvisions ∅
      ((here.values "provides" .all).result (Question.answer c.activeTraits))).result
        (Question.answer c.activeTraits)) c.ownedTraits := by
    rw [h.profile]
    simp only [Profile.inquire, Inquiry.result_bind, Inquiry.result_pure]
    rfl
  rw [hprofile, Profile.takeSlots_eq_post, Inquiry.result, hprovided, c.map_values_provides here,
    Profile.post_append]

/-- A slot is listed if something provides it or is taken against it, with the balance of both in 32
bits. -/
theorem getElem?_openSlots_iff (h : s.IsComposed (Question.answer c.activeTraits) rules skills c)
    {slot : String} {n : Int} :
    s.profile.openSlots[slot]? = some n ↔
      ((∃ p ∈ c.provisions, p.slot = slot) ∨ ∃ t ∈ c.ownedTraits, t.takes slot = true) ∧
        n = word (((c.provisions.filter (·.slot = slot)).map (·.count)).sum -
          c.ownedTraits.countP (·.takes slot)) := by
  have hlisted : slot ∈ ((c.provisions.map fun p => (p.slot, p.count)) ++
      Profile.takings c.ownedTraits).map (·.1) ↔
        (∃ p ∈ c.provisions, p.slot = slot) ∨ ∃ t ∈ c.ownedTraits, t.takes slot = true := by
    rw [List.map_append, List.mem_append, Profile.mem_takings_iff]
    simp
  have hprovided : Profile.postedTo slot (c.provisions.map fun p => (p.slot, p.count)) =
      ((c.provisions.filter (·.slot = slot)).map (·.count)).sum := by
    simp only [Profile.postedTo, List.filter_map, List.map_map, Function.comp_def]
  rw [h.openSlots_eq, Profile.getElem?_post, Profile.postedTo_append, hprovided,
    Profile.postedTo_takings]
  simp only [hlisted, Std.ExtTreeMap.getElem?_empty, Option.getD_none, Int.zero_add,
    ← Int.sub_eq_add_neg]
  split
  · next hmem => rw [Option.some.injEq, and_iff_right hmem, eq_comm]
  · next hmem => simp [hmem]

end Stats.IsComposed

/-- The first stage warns of nothing but provisions, of each without a valid count once. -/
theorem Profile.warnings_inquire (rules : Rules) (c : Character) :
    (inquire rules c).warnings (Question.answer c.activeTraits) =
      (c.provisions.filter (·.miscounted)).map Provision.warning := by
  let here : Standpoint := ⟨c.id, .traits, ∅⟩
  have hprovided := fun values => congrArg Prod.snd
    (answeredBy_addProvisions (Question.answer c.activeTraits) ∅ values)
  rw [← c.map_values_provides here, inquire]
  simp only [Inquiry.warnings_bind, Inquiry.warnings_pure, Standpoint.warnings_any,
    Standpoint.warnings_firstText, Standpoint.warnings_texts, Standpoint.warnings_values,
    List.nil_append, List.append_nil]
  exact hprovided _

/-- The later stages have other warnings. -/
theorem Stats.filter_isSlotWarning (rules : Rules) (skills : List Skill) (c : Character) :
    (c.derive rules skills).stats.warnings.filter Profile.isSlotWarning =
      (c.provisions.filter (·.miscounted)).map Provision.warning := by
  have hslots : ∀ message ∈ (c.provisions.filter (·.miscounted)).map Provision.warning,
      Profile.isSlotWarning message = true := by
    intro message hmem
    obtain ⟨p, -, rfl⟩ := List.mem_map.mp hmem
    exact p.isSlotWarning_warning
  rw [Character.stats_derive]
  dsimp only
  rw [filter_isSlotWarning_inquire, Profile.warnings_inquire, List.filter_eq_self.mpr hslots]

/-! ## At a desk -/

namespace Desk

variable {φ : Type} [DecidableEq φ]

/-- A character that provides slots in all ways, and takes one from gear that is not equipped. -/
def quartermaster : Character where
  id := "hero"
  traits := [
    { id := "a", name := "Human", kind := .species
      contributions := [⟨"provides", .text " General Feats : 3", none, false⟩,
        ⟨"provides", .null, none, false⟩, ⟨"provides", .text "General Feats:-1", none, true⟩,
        ⟨"provides", .text "Talents: Force: many", none, false⟩] },
    { id := "b", name := "Dodge", kind := .feat, slot := some "General Feats" },
    { id := "c", name := "Toughness", kind := .feat, slot := some "General Feats"
      isSupplied := true },
    { id := "d", name := "Crate", kind := .equipment, slot := some "Hold" }]

/-- A character with one slot more than 32 bits can count. -/
def overstocked : Character where
  id := "hero"
  traits := [
    { id := "a", name := "Human", kind := .species
      contributions := [⟨"provides", .text "General Feats:2147483647", none, false⟩,
        ⟨"provides", .text "General Feats:1", none, false⟩] }]

end Desk

end CharacterSheet
