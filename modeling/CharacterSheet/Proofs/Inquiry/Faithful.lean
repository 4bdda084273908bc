import CharacterSheet.Proofs.Inquiry.Run

/-!
# Faithful memo tables

A memo table is faithful to the questions asked so far if each of its entries is the answer to one
of them, kept under that question's key. A request keeps a table faithful, and where questions with
one key have one answer it gives the answer that would have been computed. So an inquiry comes to
the same with the table and without it.
-/

namespace CharacterSheet

namespace Memo

variable {κ : Type}

theorem mem_entries_of_find? [DecidableEq κ] {α : Type} {memo : Memo κ α} {k : κ} {a : α}
    (h : memo.find? k = some a) : (k, a) ∈ memo.entries := by
  obtain ⟨before, behind, heq, -⟩ := List.lookup_eq_some_iff.mp h
  rw [heq]
  simp

/-- Each entry is the answer to one of the questions asked, under its key. -/
def Faithful (key : Question → κ) (answer : Question → Answer) (asked : List Question)
    (memo : Memo κ Answer) : Prop :=
  ∀ k a, (k, a) ∈ memo.entries → ∃ q ∈ asked, key q = k ∧ answer q = a

theorem faithful_empty (key : Question → κ) (answer : Question → Answer) (asked : List Question) :
    (empty : Memo κ Answer).Faithful key answer asked := by
  intro k a h
  exact absurd h List.not_mem_nil

variable [DecidableEq κ] {key : Question → κ} {answer : Question → Answer} {asked : List Question}

/-- The answer to a request is the one that would have been computed. -/
theorem Faithful.request_fst {memo : Memo κ Answer} (h : memo.Faithful key answer asked)
    (hkey : ∀ q ∈ asked, ∀ q' ∈ asked, key q = key q' → answer q = answer q') {q : Question}
    (hq : q ∈ asked) :
    (memo.request (key q) fun _ => answer q).1 = answer q := by
  rw [request]
  cases hfind : memo.find? (key q) with
  | none => rfl
  | some a =>
    -- the entry belongs to a question with the same key, so with the same answer
    obtain ⟨q', hq', hkq, rfl⟩ := h _ _ (mem_entries_of_find? hfind)
    exact hkey q' hq' q hq hkq

/-- A request keeps the table faithful. -/
theorem Faithful.request_snd {memo : Memo κ Answer} (h : memo.Faithful key answer asked)
    {q : Question} (hq : q ∈ asked) :
    (memo.request (key q) fun _ => answer q).2.Faithful key answer asked := by
  rw [request]
  cases memo.find? (key q) with
  | some a => exact h
  | none =>
    intro k a hmem
    rcases List.mem_cons.mp hmem with heq | hmem
    · cases heq
      exact ⟨q, hq, rfl, rfl⟩
    · exact h k a hmem

end Memo

namespace Inquiry

variable {κ α : Type} [DecidableEq κ] {key : Question → κ} {answer : Question → Answer}
  {asked : List Question}

/-- With a faithful table an inquiry comes to the same as without a table, and leaves a faithful
table behind. -/
theorem remembering_of_faithful
    (hkey : ∀ q ∈ asked, ∀ q' ∈ asked, key q = key q' → answer q = answer q') (x : Inquiry α)
    (hx : ∀ q ∈ x.questions answer, q ∈ asked) {memo : Memo κ Answer}
    (hmemo : memo.Faithful key answer asked) :
    (x.remembering key answer memo).1 = x.answeredBy answer ∧
      (x.remembering key answer memo).2.Faithful key answer asked := by
  induction x generalizing memo with
  | done a => exact ⟨rfl, hmemo⟩
  | ask q next ih =>
    -- the next question depends on the answer given, so faithfulness is carried along the tree
    have hq : q ∈ asked := hx q (by simp)
    have hnext := ih (answer q) (fun q' h => hx q' (by simp [h])) (hmemo.request_snd hq)
    simp only [remembering, answeredBy, hmemo.request_fst hkey hq]
    exact hnext
  | warn message next ih =>
    obtain ⟨hresult, htable⟩ := ih hx hmemo
    rw [remembering, answeredBy, ← hresult]
    exact ⟨rfl, htable⟩

end Inquiry

end CharacterSheet
