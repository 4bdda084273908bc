import CharacterSheet.Proofs.Derivation.Asked
import CharacterSheet.Proofs.Inquiry.Faithful

/-!
# The memo table cannot be seen

A desk answers repeated questions from a memo table in whose keys a fingerprint stands for the roll
variables. As long as the fingerprint tells apart the variables of the questions of one derivation,
the desk derives what the character derives on its own, whatever its table held before. No harm
comes from a fingerprint that does not: apart from summaries, which look up no variable, a
derivation never asks for the same key with other variables.
-/

namespace CharacterSheet

theorem Question.eq_of_keyBy_eq {φ : Type} {fingerprint : Variables → φ} {q q' : Question}
    (h : q.keyBy fingerprint = q'.keyBy fingerprint)
    (hvars : fingerprint q.vars = fingerprint q'.vars → q.vars = q'.vars) : q = q' := by
  cases q
  cases q'
  simp only [keyBy, QuestionKey.mk.injEq] at h hvars
  obtain ⟨rfl, rfl, rfl, rfl, rfl, hprint⟩ := h
  rw [hvars hprint]

/-- A summary looks up no variable. -/
theorem Question.answer_eq_of_summary {φ : Type} {fingerprint : Variables → φ} {q q' : Question}
    (h : q.keyBy fingerprint = q'.keyBy fingerprint) (hmode : q.mode = .summary)
    (traits : List Trait) : q.answer traits = q'.answer traits := by
  cases q
  cases q'
  simp only [keyBy, QuestionKey.mk.injEq] at h hmode
  obtain ⟨-, rfl, rfl, rfl, -, -⟩ := h
  subst hmode
  rfl

/-- Questions of one derivation that are kept under the same key have the same answer. -/
theorem Character.answer_eq_of_keyBy_eq {φ : Type} (rules : Rules) (skills : List Skill)
    (c : Character) (fingerprint : Variables → φ) :
    ∀ q ∈ c.asked rules skills, ∀ q' ∈ c.asked rules skills,
      q.keyBy fingerprint = q'.keyBy fingerprint →
        q.answer c.activeTraits = q'.answer c.activeTraits := by
  intro q hq q' hq' h
  have hkey : q.key = q'.key := congrArg QuestionKey.key h
  have hmode : q.mode = q'.mode := congrArg QuestionKey.mode h
  by_cases hsummary : q.mode = .summary
  · exact Question.answer_eq_of_summary h hsummary _
  · rw [c.eq_of_mem_asked rules skills hq hq' hkey hsummary (hmode ▸ hsummary)]

namespace Desk

variable {φ : Type} [DecidableEq φ]

/-- The fingerprint tells apart the variables of the questions that the derivation of a character
asks. -/
def Distinguishes (desk : Desk φ) (c : Character) : Prop :=
  ∀ q ∈ c.asked desk.rules desk.skills, ∀ q' ∈ c.asked desk.rules desk.skills,
    desk.fingerprint q.vars = desk.fingerprint q'.vars → q.vars = q'.vars

instance (desk : Desk φ) (c : Character) : Decidable (desk.Distinguishes c) :=
  inferInstanceAs (Decidable (∀ q ∈ c.asked desk.rules desk.skills,
    ∀ q' ∈ c.asked desk.rules desk.skills,
      desk.fingerprint q.vars = desk.fingerprint q'.vars → q.vars = q'.vars))

/-- A desk derives the stat block, with its warnings, and the orphans that the active traits give
when they answer every question afresh. -/
theorem derive_fst_of_distinguishes (desk : Desk φ) (c : Character) (h : desk.Distinguishes c) :
    (desk.derive c).1 = c.derive desk.rules desk.skills := by
  have hkey : ∀ q ∈ c.asked desk.rules desk.skills, ∀ q' ∈ c.asked desk.rules desk.skills,
      q.keyBy desk.fingerprint = q'.keyBy desk.fingerprint →
        q.answer c.activeTraits = q'.answer c.activeTraits :=
    fun q hq q' hq' heq =>
      congrArg (Question.answer _) (Question.eq_of_keyBy_eq heq (h q hq q' hq'))
  have hrun := (Inquiry.remembering_of_faithful hkey (Stats.inquire desk.rules desk.skills c)
    (fun _ hq => hq) (Memo.faithful_empty _ _ _)).1
  exact congrArg (Derivation.of c) hrun

/-- A desk derives what the character derives on its own, however it takes fingerprints. -/
theorem derive_fst_eq_derive (desk : Desk φ) (c : Character) :
    (desk.derive c).1 = c.derive desk.rules desk.skills := by
  have hrun := (Inquiry.remembering_of_faithful
    (Character.answer_eq_of_keyBy_eq desk.rules desk.skills c desk.fingerprint)
    (Stats.inquire desk.rules desk.skills c) (fun _ hq => hq) (Memo.faithful_empty _ _ _)).1
  exact congrArg (Derivation.of c) hrun

/-- Derives the stat blocks of characters one after the other at the same desk. -/
def deriveAll (desk : Desk φ) : List Character → List Derivation
  | [] => []
  | c :: rest => (desk.derive c).1 :: (desk.derive c).2.deriveAll rest

/-- Whatever the table of a desk holds, and whichever characters come before, each character gets
what it derives on its own. -/
theorem deriveAll_eq_map (desk : Desk φ) (cs : List Character)
    (h : ∀ c ∈ cs, desk.Distinguishes c) :
    desk.deriveAll cs = cs.map (Character.derive desk.rules desk.skills) := by
  induction cs generalizing desk with
  | nil => rfl
  | cons c rest ih =>
    have hc := derive_fst_of_distinguishes desk c (h c (by simp))
    -- only the table of the desk has changed, and `Distinguishes` does not look at it
    have hrest := ih (desk.derive c).2 fun c' hc' => h c' (by simp [hc'])
    rw [deriveAll, hc, hrest, List.map_cons]
    rfl

/-- A desk that tells variables apart by their number, with an answer left in its table for some
character called `hero`. -/
def crowded : Desk UInt64 where
  rules := {}
  skills := [⟨"Stealth", .dexterity, true⟩, ⟨"stealth", .dexterity, true⟩]
  fingerprint vars := vars.size.toUInt64
  memo := { entries := [(⟨.abilities, "strengthBonus", .sum, .plain, "hero", 3⟩, .ok (.number 9))] }

/-- Two characters called `hero`, the second one with a bonus that the first one lacks. -/
def heroes : List Character :=
  [{ id := "hero" },
    { id := "hero"
      traits := [{
        id := "t", name := "Sneak", kind := .talent
        contributions := [⟨"stealthSkillBonus", .text "@DEXMOD", none, false⟩] }] }]

/-- Two heroes with the same id share a memo table without harm. -/
theorem deriveAll_crowded :
    (∀ c ∈ heroes, crowded.Distinguishes c) ∧
      crowded.deriveAll heroes = heroes.map (Character.derive crowded.rules crowded.skills) := by
  have h : ∀ c ∈ heroes, crowded.Distinguishes c := by decide +kernel
  exact ⟨h, deriveAll_eq_map crowded heroes h⟩

end Desk

end CharacterSheet
