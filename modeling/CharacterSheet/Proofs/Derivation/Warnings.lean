import CharacterSheet.Proofs.Derivation.Asked
import CharacterSheet.Proofs.Derivation.Composition
import CharacterSheet.Proofs.Inquiry.Standpoint
import CharacterSheet.Proofs.Text.Lowering
import CharacterSheet.Proofs.Text.Search

/-!
# The warnings of a block

A block has the warnings of its stages, one stage after the other. Each warning begins with what it
is about: an ability, the key of a question, or the word that stands for provided slots. So the
warnings about provided slots are told from all others by how they begin.
-/

namespace CharacterSheet

/-! ## Inquiries -/

namespace Inquiry

variable {α β : Type} {p : String → Prop}

/-- All warnings are of one kind, whatever the questions are answered with. -/
def WarnsOnly (p : String → Prop) : Inquiry α → Prop
  | done _ => True
  | ask _ next => ∀ given, (next given).WarnsOnly p
  | warn message next => p message ∧ next.WarnsOnly p

/-- Who asks nothing warns of nothing. -/
@[simp] theorem warnsOnly_pure (a : α) : (pure a : Inquiry α).WarnsOnly p := trivial

/-- A warning that is allowed may be given. -/
theorem warnsOnly_warning {message : String} (h : p message) : (warning message).WarnsOnly p :=
  ⟨h, trivial⟩

/-- Two inquiries in a row warn of nothing else if neither of them does. -/
theorem WarnsOnly.bind {x : Inquiry α} (hx : x.WarnsOnly p) {next : α → Inquiry β}
    (hnext : ∀ a, (next a).WarnsOnly p) : (x >>= next).WarnsOnly p := by
  induction x with
  | done a => exact hnext a
  | ask q rest ih => exact fun given => ih given (hx given)
  | warn message rest ih => exact ⟨hx.1, ih hx.2⟩

/-- Whatever the answers are, only such warnings are given. -/
theorem WarnsOnly.of_mem_warnings {x : Inquiry α} (h : x.WarnsOnly p)
    (answer : Question → Answer) : ∀ message ∈ x.warnings answer, p message := by
  induction x with
  | done a => exact fun _ hmem => absurd hmem List.not_mem_nil
  | ask q rest ih => exact ih _ (h _)
  | warn message rest ih => exact List.forall_mem_cons.mpr ⟨h.1, ih h.2⟩

/-- An inquiry that may not warn gives no warning. -/
theorem WarnsOnly.warnings_eq_nil {x : Inquiry α} (h : x.WarnsOnly fun _ => False)
    (answer : Question → Answer) : x.warnings answer = [] :=
  List.eq_nil_iff_forall_not_mem.mpr (h.of_mem_warnings answer)

end Inquiry

namespace Standpoint

variable (here : Standpoint) {p : String → Prop} (key : String) (filter : Filter)

/-- Asking alone is no reason to warn. -/
theorem warnsOnly_ask (mode : Mode) : (here.ask mode key filter).WarnsOnly p := fun _ => trivial

/-- The warning about a number begins with its key. -/
theorem warnsOnly_number (mode : Mode) (h : ∀ rest, p (key ++ rest)) :
    (here.number mode key filter).WarnsOnly p := by
  refine (here.warnsOnly_ask key filter mode).bind fun given => ?_
  cases given with
  | ok reduced => exact Inquiry.warnsOnly_pure _
  | error e =>
    have hmessage := h (" (" ++ here.stage.name ++ "): " ++ e.message ++ "; using 0")
    simp only [← String.append_assoc] at hmessage
    exact (Inquiry.warnsOnly_warning hmessage).bind fun _ => Inquiry.warnsOnly_pure _

/-- Asking whether anything is there warns of nothing. -/
theorem warnsOnly_any : (here.any key filter).WarnsOnly p :=
  (here.warnsOnly_ask key filter .or).bind fun given => by split <;> exact Inquiry.warnsOnly_pure _

/-- Asking for texts warns of nothing. -/
theorem warnsOnly_texts : (here.texts key filter).WarnsOnly p :=
  (here.warnsOnly_ask key filter .lowerCaseValues).bind fun given => by
    split <;> exact Inquiry.warnsOnly_pure _

/-- Asking for the first text warns of nothing. -/
theorem warnsOnly_firstText : (here.firstText key filter).WarnsOnly p :=
  (here.warnsOnly_ask key filter .first).bind fun given => by
    split <;> exact Inquiry.warnsOnly_pure _

/-- Asking for a summary warns of nothing. -/
theorem warnsOnly_summary : (here.summary key filter).WarnsOnly p :=
  (here.warnsOnly_ask key filter .summary).bind fun given => by
    split <;> exact Inquiry.warnsOnly_pure _

/-- Asking for values warns of nothing. -/
theorem warnsOnly_values : (here.values key filter).WarnsOnly p :=
  (here.warnsOnly_ask key filter .values).bind fun given => by
    split <;> exact Inquiry.warnsOnly_pure _

/-- The warning about factors begins with their key. -/
theorem warnsOnly_scaled (n : Int) (h : ∀ rest, p (key ++ rest)) :
    (here.scaled n key).WarnsOnly p := by
  refine (here.warnsOnly_values key .all).bind fun factors => ?_
  split
  · exact Inquiry.warnsOnly_pure _
  split
  · exact Inquiry.warnsOnly_pure _
  · next e _ =>
    have hmessage := h (": " ++ e.message ++ "; ignoring")
    simp only [← String.append_assoc] at hmessage
    exact (Inquiry.warnsOnly_warning hmessage).bind fun _ => Inquiry.warnsOnly_pure _

variable (answer : Question → Answer)

/-- Asking whether anything is there gives no warning. -/
@[simp] theorem warnings_any : (here.any key filter).warnings answer = [] :=
  (here.warnsOnly_any key filter).warnings_eq_nil answer

/-- Asking for texts gives no warning. -/
@[simp] theorem warnings_texts : (here.texts key filter).warnings answer = [] :=
  (here.warnsOnly_texts key filter).warnings_eq_nil answer

/-- Asking for the first text gives no warning. -/
@[simp] theorem warnings_firstText : (here.firstText key filter).warnings answer = [] :=
  (here.warnsOnly_firstText key filter).warnings_eq_nil answer

end Standpoint

/-! ## Keys of skills -/

namespace Text

/-- No code point but its own stands for a character, apart from the one that stands for those that
are none. -/
theorem toNat_of_ofNat_eq {n : Nat} {c : Char} (h : Char.ofNat n = c) (hc : c ≠ Char.ofNat 0) :
    n = c.toNat := by
  by_cases hvalid : n.isValidChar
  · rw [← h, Char.ofNat, dif_pos hvalid]
    rfl
  · rw [Char.ofNat, dif_neg hvalid] at h
    exact absurd h.symm hc

/-- All capitals stand behind the colon in the order of code points. -/
theorem ne_colon_of_image {n : Nat} (h : n ≠ 0x3A) : CaseRun.image capitalLetters n ≠ 0x3A := by
  have hbehind : ∀ r ∈ capitalLetters, 0x3A < (r.first + r.shift).toNat := by decide +kernel
  rw [CaseRun.image]
  split
  · next r hr =>
    have hleast := hbehind r (List.mem_of_find?_eq_some hr)
    split
    · next hin => omega
    · exact h
  · exact h

/-- No letter becomes a colon when it is upper-cased. -/
theorem colon_not_mem_upperChar {c : Char} (h : c ≠ ':') : ':' ∉ upperChar c := by
  have hlong : ∀ entry ∈ longCapitals, ':' ∉ entry.2.map Char.ofNat := by decide
  have hc : c.toNat ≠ 0x3A := fun heq => h (Char.toNat_inj.mp heq)
  rw [upperChar]
  split
  · next image himage =>
    obtain ⟨before, behind, hsplit, -⟩ := List.lookup_eq_some_iff.mp himage
    exact hlong (c.toNat, image) (by simp [hsplit])
  · intro hmem
    have hcolon := toNat_of_ofNat_eq (List.mem_singleton.mp hmem).symm (by decide)
    exact ne_colon_of_image hc hcolon

/-- No letter becomes a colon when it is lower-cased. -/
theorem colon_not_mem_lowerChars {s : List Char} (h : ':' ∉ s) : ':' ∉ lowerChars s := by
  have hcaseless : isCaseless (0x3A, 0x3A) = true := by decide
  exact mt (mem_of_mem_lowerFrom_of_isCaseless hcaseless (by decide)) h

end Text

namespace Skill

/-- A capitalized word has no colon that the word did not have. -/
theorem colon_not_mem_capitalize {word : List Char} (h : ':' ∉ word) : ':' ∉ capitalize word := by
  cases word with
  | nil => exact List.not_mem_nil
  | cons c rest =>
    rw [List.mem_cons, not_or] at h
    rw [capitalize, List.mem_append, not_or]
    exact ⟨Text.colon_not_mem_upperChar (Ne.symm h.1), h.2⟩

/-- Words without colons are put together without one. -/
theorem colon_not_mem_camelCase {words : List (List Char)} (h : ∀ word ∈ words, ':' ∉ word) :
    ':' ∉ camelCase words := by
  cases words with
  | nil => exact List.not_mem_nil
  | cons word rest =>
    obtain ⟨hword, hrest⟩ := List.forall_mem_cons.mp h
    rw [camelCase, List.mem_append, not_or, List.mem_flatMap]
    refine ⟨hword, ?_⟩
    rintro ⟨other, hother, hmem⟩
    exact colon_not_mem_capitalize (hrest other hother) hmem

/-- Words have no colons, and writing them in another case brings none in. -/
theorem colon_not_mem_bonusKey (s : Skill) : ':' ∉ s.bonusKey.toList := by
  have hwords : ∀ word ∈ (Text.wordsBetween (!Text.isWordCharacter ·) s.name.toList).map
      Text.lowerChars, ':' ∉ word := by
    intro word hword
    obtain ⟨plain, hplain, rfl⟩ := List.mem_map.mp hword
    refine Text.colon_not_mem_lowerChars fun hmem => ?_
    have hgap := (Text.mem_splitWhere.mp ⟨plain, List.mem_of_mem_filter hplain, hmem⟩).2
    exact absurd hgap (by decide)
  rw [bonusKey, String.toList_append, String.toList_ofList, List.mem_append, not_or]
  exact ⟨colon_not_mem_camelCase hwords, by decide⟩

/-- The key of a skill never begins like a warning about slots. -/
theorem diverge_bonusKey (s : Skill) : Text.Diverge "provides: " s.bonusKey := by
  have hcolon := s.colon_not_mem_bonusKey
  have hlength : "provides: ".toList.length ≤ s.bonusKey.toList.length := by
    rw [bonusKey, String.toList_append, List.length_append]
    exact Nat.le_add_left 10 _
  constructor
  · intro hbegins
    exact hcolon (hbegins.subset (by decide))
  · intro hbegins
    rw [hbegins.eq_of_length_le hlength] at hcolon
    exact hcolon (by decide)

end Skill

/-! ## Stage by stage -/

/-- The warnings of the stages one after the other, each started from the parts of a block. -/
def Stats.stageWarnings (answer : Question → Answer) (rules : Rules) (skills : List Skill)
    (c : Character) (s : Stats) : List String :=
  (Profile.inquire rules c).warnings answer ++
    (Scores.inquire c s.profile s.condition).warnings answer ++
    (SkillSheet.inquire rules skills c s.profile s.condition s.scores s.scoreVars).warnings
      answer ++
    (Shields.inquire c s.scoreVars).warnings answer ++
    (Defenses.inquire c s.profile s.condition s.scores s.scoreVars).warnings answer ++
    (Health.inquire c s.profile s.scores (s.defenses.publish s.scoreVars)).warnings answer ++
    (Offense.inquire c s.profile s.condition s.scores
      (s.defenses.publish s.scoreVars)).warnings answer

/-- The warnings of a derivation are those of its stages, in order. -/
theorem Stats.warnings_inquire (answer : Question → Answer) (rules : Rules) (skills : List Skill)
    (c : Character) : (inquire rules skills c).warnings answer =
      ((inquire rules skills c).result answer).stageWarnings answer rules skills c := by
  simp only [inquire, stageWarnings, scoreVars, Inquiry.result_bind, Inquiry.warnings_bind,
    Inquiry.result_pure, Inquiry.warnings_pure, Scores.snd_result_inquire, List.append_nil,
    List.append_assoc]

/-- The block lists the warnings of all stages, in order. -/
theorem Desk.warnings_derive {φ : Type} [DecidableEq φ] (desk : Desk φ) (c : Character) :
    (desk.derive c).1.stats.warnings = (desk.derive c).1.stats.stageWarnings
      (Question.answer c.activeTraits) desk.rules desk.skills c := by
  rw [derive_fst_eq_derive, Character.stats_derive]
  exact Stats.warnings_inquire _ _ _ _

/-! ## Warnings about provided slots -/

/-- Whether a warning is about the slots that are provided. -/
def Profile.isSlotWarning (message : String) : Bool := Text.startsWith "provides: " message

/-- The keys of all other questions part with the word for provided slots. -/
theorem Standpoint.warnsOnly_number_of_diverge (here : Standpoint) {mode : Mode} {key : String}
    {filter : Filter} (h : Text.Diverge "provides: " key) :
    (here.number mode key filter).WarnsOnly (Profile.isSlotWarning · = false) :=
  here.warnsOnly_number key filter mode h.startsWith_append

section Stages

variable (rules : Rules) (skills : List Skill) (c : Character) (profile : Profile)
  (condition : ConditionEffect) (scores : Scores) (vars : Variables)

/-- A score warns of no slot. -/
theorem Scores.warnsOnly_score (isDroid : Bool) (penalty : Int) (a : Ability) :
    (score c isDroid penalty vars a).WarnsOnly (Profile.isSlotWarning · = false) := by
  have hname : Text.Diverge "provides: " a.name := by cases a <;> decide
  have hkey : Text.Diverge "provides: " a.bonusKey := by cases a <;> decide
  have hbase : (base c a).WarnsOnly (Profile.isSlotWarning · = false) := by
    rw [base]
    split
    · exact Inquiry.warnsOnly_pure _
    · next e _ =>
      -- the message starts with the name of the ability, which no slot warning does
      have hmessage := hname.startsWith_append (" base score: " ++ e.message ++ "; using 0")
      simp only [← String.append_assoc] at hmessage
      exact (Inquiry.warnsOnly_warning hmessage).bind fun _ => Inquiry.warnsOnly_pure _
  rw [score]
  refine hbase.bind fun base => ?_
  refine (Standpoint.warnsOnly_number _ _ _ _ hkey.startsWith_append).bind fun bonus => ?_
  refine (Standpoint.warnsOnly_summary _ _ _).bind fun sources => ?_
  exact Inquiry.warnsOnly_pure _

/-- The scores warn of no slot. -/
theorem Scores.warnsOnly_inquireFrom (isDroid : Bool) (penalty : Int) (abilities : List Ability) :
    (inquireFrom c isDroid penalty scores vars abilities).WarnsOnly
      (Profile.isSlotWarning · = false) := by
  induction abilities generalizing scores vars with
  | nil => exact Inquiry.warnsOnly_pure _
  | cons a rest ih => exact (warnsOnly_score c vars isDroid penalty a).bind fun _ => ih _ _

/-- The entries of skills warn of no slot. -/
theorem SkillSheet.warnsOnly_entriesFrom (terms : Terms)
    (entries : Std.ExtTreeMap String SkillEntry) :
    (entriesFrom c vars terms entries skills).WarnsOnly (Profile.isSlotWarning · = false) := by
  induction skills generalizing entries with
  | nil => exact Inquiry.warnsOnly_pure _
  | cons skill rest ih =>
    have hentry : (entry c vars terms skill).WarnsOnly (Profile.isSlotWarning · = false) := by
      refine (Standpoint.warnsOnly_number _ _ _ _ skill.diverge_bonusKey.startsWith_append).bind
        fun specific => ?_
      exact (Standpoint.warnsOnly_summary _ _ _).bind fun _ => Inquiry.warnsOnly_pure _
    exact hentry.bind fun _ => ih _

/-- The skills warn of no slot. -/
theorem SkillSheet.warnsOnly_inquire :
    (inquire rules skills c profile condition scores vars).WarnsOnly
      (Profile.isSlotWarning · = false) := by
  let here : Standpoint := ⟨c.id, .skills, vars⟩
  refine (here.warnsOnly_number_of_diverge (by decide)).bind fun general => ?_
  refine (here.warnsOnly_texts _ _).bind fun focused => ?_
  refine (warnsOnly_entriesFrom skills c vars _ ∅).bind fun entries => ?_
  refine (here.warnsOnly_number_of_diverge (by decide)).bind fun classBase => ?_
  exact (here.warnsOnly_number_of_diverge (by decide)).bind fun extra => Inquiry.warnsOnly_pure _

/-- The shields warn of no slot. -/
theorem Shields.warnsOnly_inquire :
    (inquire c vars).WarnsOnly (Profile.isSlotWarning · = false) := by
  let here : Standpoint := ⟨c.id, .shields, vars⟩
  refine (here.warnsOnly_number_of_diverge (by decide)).bind fun rating => ?_
  exact (here.warnsOnly_number_of_diverge (by decide)).bind fun bonus => Inquiry.warnsOnly_pure _

/-- What all defenses have in common warns of no slot. -/
theorem Defense.warnsOnly_common (here : Standpoint) (penalty : Int) (name : String)
    (hclass : Text.Diverge "provides: " (name ++ "DefenseClassBonus"))
    (hbonus : Text.Diverge "provides: " (name ++ "DefenseBonus")) :
    (common here penalty name).WarnsOnly (Profile.isSlotWarning · = false) := by
  refine (here.warnsOnly_number_of_diverge hclass).bind fun classBonus => ?_
  refine (here.warnsOnly_number_of_diverge hbonus).bind fun misc => ?_
  exact (here.warnsOnly_summary _ _).bind fun tip => Inquiry.warnsOnly_pure _

/-- The defenses warn of no slot. -/
theorem Defenses.warnsOnly_inquire :
    (inquire c profile condition scores vars).WarnsOnly (Profile.isSlotWarning · = false) := by
  let here : Standpoint := ⟨c.id, .defenses, vars⟩
  have hcommon := Defense.warnsOnly_common here condition.penalty
  have hscaled : Text.Diverge "provides: " "damageThresholdHardenedMultiplier" := by decide
  refine (hcommon "reflex" (by decide) (by decide)).bind fun reflex => ?_
  refine (hcommon "fortitude" (by decide) (by decide)).bind fun fortitude => ?_
  refine (hcommon "will" (by decide) (by decide)).bind fun will => ?_
  refine (here.warnsOnly_number_of_diverge (by decide)).bind fun bonus => ?_
  exact (here.warnsOnly_scaled _ _ hscaled.startsWith_append).bind fun _ => Inquiry.warnsOnly_pure _

/-- The hit points warn of no slot. -/
theorem Health.warnsOnly_inquire :
    (inquire c profile scores vars).WarnsOnly (Profile.isSlotWarning · = false) := by
  let here : Standpoint := ⟨c.id, .health, vars⟩
  have hscaled : Text.Diverge "provides: " "healthMultiplier" := by decide
  refine (here.warnsOnly_number_of_diverge (by decide)).bind fun rolled => ?_
  refine (here.warnsOnly_number_of_diverge (by decide)).bind fun bonus => ?_
  exact (here.warnsOnly_scaled _ _ hscaled.startsWith_append).bind fun _ => Inquiry.warnsOnly_pure _

/-- The attack bonuses warn of no slot. -/
theorem Offense.warnsOnly_inquire :
    (inquire c profile condition scores vars).WarnsOnly (Profile.isSlotWarning · = false) :=
  (Standpoint.warnsOnly_number_of_diverge ⟨c.id, .offense, vars⟩ (by decide)).bind fun _ =>
    Inquiry.warnsOnly_pure _

/-- Only the first stage warns of provided slots. -/
theorem Stats.filter_isSlotWarning_inquire (answer : Question → Answer) :
    ((inquire rules skills c).warnings answer).filter Profile.isSlotWarning =
      ((Profile.inquire rules c).warnings answer).filter Profile.isSlotWarning := by
  have hsilent : ∀ {α : Type} {x : Inquiry α}, x.WarnsOnly (Profile.isSlotWarning · = false) →
      (x.warnings answer).filter Profile.isSlotWarning = [] := fun hx =>
    List.filter_eq_nil_iff.mpr fun message hmem =>
      Bool.eq_false_iff.mp (hx.of_mem_warnings answer message hmem)
  simp only [inquire, Inquiry.warnings_bind, Inquiry.warnings_pure, List.filter_append,
    Scores.inquire, hsilent (Scores.warnsOnly_inquireFrom c _ _ _ _ _),
    hsilent (SkillSheet.warnsOnly_inquire rules skills c _ _ _ _),
    hsilent (Shields.warnsOnly_inquire c _), hsilent (Defenses.warnsOnly_inquire c _ _ _ _),
    hsilent (Health.warnsOnly_inquire c _ _ _), hsilent (Offense.warnsOnly_inquire c _ _ _ _),
    List.append_nil]

end Stages

end CharacterSheet
