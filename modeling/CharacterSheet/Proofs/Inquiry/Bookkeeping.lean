import CharacterSheet.Inquiry.Question
import CharacterSheet.Inquiry.Memo
import Mathlib.Data.Finset.Card
import Mathlib.Data.List.DropRight

/-!
# The books of a memo table

A memo table is used in cycles: at the beginning of one it forgets everything, and within one it
answers requests. Its entries and counters tell what was looked up since the cycle began: each key
has the answer that was computed at its first request, and the later requests compute nothing.
-/

namespace CharacterSheet.Memo

variable {κ α : Type}

/-! ## Cycles -/

/-- A call of a memo table: a cycle begins, or the answer for a key is looked up. -/
inductive Call (κ α : Type) where
  | beginCycle
  | lookUp (key : κ) (compute : Unit → α)

/-- The key that a call looks up, with what computes the answer. -/
def Call.lookUp? : Call κ α → Option (κ × (Unit → α))
  | beginCycle => none
  | lookUp key compute => some (key, compute)

/-- What was looked up since the last cycle began, in order. -/
def cycle (calls : List (Call κ α)) : List (κ × (Unit → α)) :=
  (calls.rtakeWhile fun call => call.lookUp?.isSome).filterMap Call.lookUp?

/-- Nothing was looked up before any call. -/
@[simp] theorem cycle_nil : cycle ([] : List (Call κ α)) = [] := rfl

/-- Nothing was looked up since a cycle has just begun. -/
@[simp] theorem cycle_append_beginCycle (calls : List (Call κ α)) :
    cycle (calls ++ [.beginCycle]) = [] := by
  rw [cycle, List.rtakeWhile_concat_neg]
  · rfl
  · simp [Call.lookUp?]

/-- What is looked up is the last look-up of its cycle. -/
@[simp] theorem cycle_append_lookUp (calls : List (Call κ α)) (key : κ) (compute : Unit → α) :
    cycle (calls ++ [.lookUp key compute]) = cycle calls ++ [(key, compute)] := by
  rw [cycle, List.rtakeWhile_concat_pos, List.filterMap_append]
  · rfl
  · rfl

variable [DecidableEq κ]

/-- The table after a call. -/
def after (memo : Memo κ α) : Call κ α → Memo κ α
  | .beginCycle => memo.beginCycle
  | .lookUp key compute => (memo.request key compute).2

/-- A new table after some calls. -/
def ofCalls (calls : List (Call κ α)) : Memo κ α := calls.foldl after empty

/-- The last call is made of the table that the earlier ones left. -/
theorem ofCalls_append (calls : List (Call κ α)) (call : Call κ α) :
    ofCalls (calls ++ [call]) = (ofCalls calls).after call := by
  rw [ofCalls, List.foldl_append]
  rfl

/-! ## Requests -/

section Request

variable (memo : Memo κ α) (key : κ) (compute : Unit → α)

/-- The answer that is kept, or else the one that is computed. -/
theorem fst_request : (memo.request key compute).1 = (memo.find? key).getD (compute ()) := by
  rw [request]
  cases memo.find? key <;> rfl

/-- The answer to a request is kept under its key. -/
theorem find?_request :
    (memo.request key compute).2.find? key = some (memo.request key compute).1 := by
  rw [request]
  cases h : memo.find? key with
  | some answer => exact h
  | none => exact List.lookup_cons_self

/-- A request leaves the answers for other keys. -/
theorem find?_request_of_ne {other : κ} (hne : other ≠ key) :
    (memo.request key compute).2.find? other = memo.find? other := by
  rw [request]
  cases memo.find? key with
  | some answer => rfl
  | none =>
    rw [find?, List.lookup_cons, beq_false_of_ne hne]
    rfl

variable {memo key} in
/-- Where an answer is kept, nothing depends on what would compute another. -/
theorem request_congr (h : (memo.find? key).isSome = true) (compute' : Unit → α) :
    memo.request key compute = memo.request key compute' := by
  obtain ⟨answer, hanswer⟩ := Option.isSome_iff_exists.mp h
  rw [request, request, hanswer]

end Request

/-! ## What the table says about a cycle -/

/-- The table says what was looked up: the first computation for a key has given its answer, the
misses count the entries, which have different keys, and hits and misses together count all. -/
structure Records (memo : Memo κ α) (lookUps : List (κ × (Unit → α))) : Prop where
  find? (key : κ) : memo.find? key = (lookUps.lookup key).map fun compute => compute ()
  nodup : (memo.entries.map Prod.fst).Nodup
  misses : memo.misses = memo.size
  total : memo.hits + memo.misses = lookUps.length

/-- An empty table says that nothing was looked up. -/
theorem records_empty : (empty : Memo κ α).Records [] where
  find? _ := rfl
  nodup := List.nodup_nil
  misses := rfl
  total := rfl

/-- A key stands in a table if it can be looked up. -/
theorem mem_keys_iff {β : Type} {pairs : List (κ × β)} {key : κ} :
    key ∈ pairs.map Prod.fst ↔ (pairs.lookup key).isSome = true := by
  rw [List.lookup_isSome_iff, List.mem_map]
  simp only [beq_iff_eq, eq_comm (a := key)]

section Records

variable {memo : Memo κ α} {lookUps : List (κ × (Unit → α))} (h : memo.Records lookUps)
include h

/-- An answer is kept for each key that was looked up, and for no other. -/
theorem Records.isSome_find? {key : κ} :
    (memo.find? key).isSome = true ↔ key ∈ lookUps.map Prod.fst := by
  rw [h.find?, Option.isSome_map, mem_keys_iff]

/-- There is one entry for each key that was looked up. -/
theorem Records.size_eq : memo.size = (lookUps.map Prod.fst).toFinset.card := by
  have hkeys : (memo.entries.map Prod.fst).toFinset = (lookUps.map Prod.fst).toFinset := by
    ext key
    rw [List.mem_toFinset, List.mem_toFinset, mem_keys_iff]
    exact h.isSome_find?
  rw [← hkeys, List.toFinset_card_of_nodup h.nodup, List.length_map, size]

/-- A request is recorded. -/
theorem Records.request (key : κ) (compute : Unit → α) :
    (memo.request key compute).2.Records (lookUps ++ [(key, compute)]) := by
  have hkept : ∀ other, (memo.request key compute).2.find? other =
      ((lookUps ++ [(key, compute)]).lookup other).map fun compute => compute () := by
    intro other
    rw [List.lookup_append]
    -- only the requested key can get an answer, and not if it has one from an earlier look-up
    by_cases heq : other = key
    · subst heq
      rw [find?_request, fst_request, h.find?, List.lookup_cons_self]
      cases lookUps.lookup other <;> rfl
    · rw [find?_request_of_ne memo key compute heq, h.find?, List.lookup_cons,
        beq_false_of_ne heq, List.lookup_nil, Option.or_none]
  -- a hit adds no entry, and a miss adds one under a key that had none
  cases hfind : memo.find? key with
  | some answer =>
    have hmemo : (memo.request key compute).2 = { memo with hits := memo.hits + 1 } := by
      rw [Memo.request, hfind]
    have htotal : memo.hits + 1 + memo.misses = (lookUps ++ [(key, compute)]).length := by
      rw [List.length_append, ← h.total, List.length_singleton]
      omega
    rw [hmemo] at hkept ⊢
    exact ⟨hkept, h.nodup, h.misses, htotal⟩
  | none =>
    have hmemo : (memo.request key compute).2 = { memo with
        entries := (key, compute ()) :: memo.entries, misses := memo.misses + 1 } := by
      rw [Memo.request, hfind]
    have hnew : key ∉ memo.entries.map Prod.fst := by
      rw [mem_keys_iff, ← Memo.find?, hfind]
      exact Bool.false_ne_true
    have htotal : memo.hits + (memo.misses + 1) = (lookUps ++ [(key, compute)]).length := by
      rw [List.length_append, ← h.total, List.length_singleton]
      omega
    rw [hmemo] at hkept ⊢
    exact ⟨hkept, List.nodup_cons.mpr ⟨hnew, h.nodup⟩, congrArg (· + 1) h.misses, htotal⟩

end Records

/-- The table says what was looked up in the present cycle, whatever calls were made. -/
theorem records_ofCalls (calls : List (Call κ α)) : (ofCalls calls).Records (cycle calls) := by
  -- from the last call backwards, since a cycle begins at the last clearing
  induction calls using List.reverseRecOn with
  | nil =>
    rw [cycle_nil]
    exact records_empty
  | append_singleton calls call ih =>
    rw [ofCalls_append]
    cases call with
    | beginCycle =>
      rw [cycle_append_beginCycle]
      exact records_empty
    | lookUp key compute =>
      rw [cycle_append_lookUp]
      exact ih.request key compute

/-- After any calls, a request is answered with what was computed at the first look-up of its key in
the cycle. If that is an earlier one, nothing depends on what this one would compute. There are as
many misses as entries and as keys looked up in the cycle, and the hits make up for the rest. -/
theorem computes_once_per_cycle (calls : List (Call κ α)) :
    (∀ key compute, some ((ofCalls calls).request key compute).1 =
      ((cycle (calls ++ [.lookUp key compute])).lookup key).map fun first => first ()) ∧
    (∀ key ∈ (cycle calls).map Prod.fst, ∀ compute compute',
      (ofCalls calls).request key compute = (ofCalls calls).request key compute') ∧
    (ofCalls calls).misses = (ofCalls calls).size ∧
    (ofCalls calls).size = ((cycle calls).map Prod.fst).toFinset.card ∧
    (ofCalls calls).hits + (ofCalls calls).misses = (cycle calls).length := by
  have h := records_ofCalls calls
  refine ⟨?_, ?_, h.misses, h.size_eq, h.total⟩
  · intro key compute
    rw [← find?_request, cycle_append_lookUp]
    exact (h.request key compute).find? key
  · intro key hkey compute compute'
    exact request_congr compute (h.isSome_find?.mpr hkey) compute'

/-- What the jump bonus of a character called `hero` is kept under. -/
def jump : QuestionKey Nat := ⟨.skills, "jumpSkillBonus", .sum, .plain, "hero", 0⟩

/-- Two cycles; in the second one the jump bonus cannot be resolved, and is asked for again. -/
def retried : List (Call (QuestionKey Nat) Answer) :=
  [.lookUp jump fun _ => .ok (.number 4), .beginCycle,
    .lookUp { jump with fingerprint := 1 } fun _ => .ok (.number 5),
    .lookUp jump fun _ => .error (.unknownVariable "@luck"),
    .lookUp jump fun _ => .ok (.number 4)]

/-- In the second cycle the error is computed once, as the first cycle is forgotten, and kept. -/
theorem computes_once_per_cycle_retried :
    jump ∈ (cycle retried).map Prod.fst ∧
      ((ofCalls retried).request jump fun _ => .ok (.number 7)).1 =
        .error (.unknownVariable "@luck") ∧
      ((ofCalls retried).request jump fun _ => .ok (.number 7)) =
        ((ofCalls retried).request jump fun _ => .ok (.number 8)) ∧
      (ofCalls retried).misses = 2 ∧ (ofCalls retried).size = 2 ∧ (ofCalls retried).hits = 1 := by
  have hjump : jump ∈ (cycle retried).map Prod.fst := by decide
  obtain ⟨hfirst, hrepeated, hmisses, hsize, htotal⟩ := computes_once_per_cycle retried
  have hkeys : ((cycle retried).map Prod.fst).toFinset.card = 2 := by decide
  have hlength : (cycle retried).length = 3 := by decide
  refine ⟨hjump, Option.some.inj (hfirst jump _), hrepeated jump hjump _ _, ?_, ?_, ?_⟩ <;> omega

end CharacterSheet.Memo
