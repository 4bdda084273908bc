import CharacterSheet.Cleanup
import Mathlib.Data.Finset.Card

/-!
# What a cleanup asks of a store

A store that notes its calls shows what a cleanup asks of any store: to delete each of the traits
once, in order and for the same character, whatever it answered before. On a shelf the traits asked
for are gone afterwards, except for the broken ones, so asking again deletes nothing.
-/

namespace CharacterSheet

namespace TraitStore

/-! ## Any store -/

/-- A trait that a store was asked to delete, and what it answered. -/
structure Call where
  character : String
  id : TraitId
  outcome : Except StoreError Unit

variable {σ β : Type}

/-- The store with a note of each of its calls, in order. -/
def noting (note : Call → β) (store : TraitStore σ) : TraitStore (σ × List β) :=
  fun character id (state, notes) =>
    let (outcome, state) := store character id state
    (outcome, state, notes ++ [note ⟨character, id, outcome⟩])

/-- The store answers the calls one after the other, each in the state that the one before left. -/
inductive Answers (store : TraitStore σ) : σ → List Call → σ → Prop
  | nil (state : σ) : Answers store state [] state
  | cons {state next last : σ} {call : Call} {calls : List Call}
      (hcall : store call.character call.id state = (call.outcome, next))
      (hcalls : Answers store next calls last) : Answers store state (call :: calls) last

/-- A cleanup makes these calls and no others: whatever is noted of calls is noted of these, and
nothing else comes of the notes. The store answers the calls in turn, they name the character and
the listed traits in order, and those that succeeded are counted. -/
structure Makes (store : TraitStore σ) (character : String) (ids : List TraitId) (state : σ)
    (calls : List Call) : Prop where
  noted {β : Type} (note : Call → β) (before : List β) :
    (store.noting note).cleanUp character ids (state, before) =
      ((store.cleanUp character ids state).1, (store.cleanUp character ids state).2,
        before ++ calls.map note)
  answered : store.Answers state calls (store.cleanUp character ids state).2
  asked : calls.map (fun call => (call.character, call.id)) = ids.map fun id => (character, id)
  deleted : (store.cleanUp character ids state).1 = calls.countP fun call => call.outcome.toBool

variable (store : TraitStore σ) (character : String)

theorem noting_apply (note : Call → β) (id : TraitId) (state : σ) (notes : List β) :
    store.noting note character id (state, notes) =
      ((store character id state).1, (store character id state).2,
        notes ++ [note ⟨character, id, (store character id state).1⟩]) := rfl

section Step

variable (id : TraitId) (rest : List TraitId) (state : σ)

theorem fst_cleanUp_cons :
    (store.cleanUp character (id :: rest) state).1 =
      if (store character id state).1.toBool then
        (store.cleanUp character rest (store character id state).2).1 + 1
      else (store.cleanUp character rest (store character id state).2).1 := rfl

theorem snd_cleanUp_cons :
    (store.cleanUp character (id :: rest) state).2 =
      (store.cleanUp character rest (store character id state).2).2 := rfl

variable {id rest state}

/-- Whatever the store answers to the first call, the others follow. -/
theorem Makes.cons {calls : List Call}
    (h : store.Makes character rest (store character id state).2 calls) :
    store.Makes character (id :: rest) state
      (⟨character, id, (store character id state).1⟩ :: calls) where
  noted note before := by
    have hrest := h.noted note (before ++ [note ⟨character, id, (store character id state).1⟩])
    rw [List.append_assoc, List.singleton_append] at hrest
    apply Prod.ext
    · simp only [fst_cleanUp_cons, noting_apply, hrest]
    · simp only [snd_cleanUp_cons, noting_apply, hrest, List.map_cons]
  answered := .cons rfl h.answered
  asked := by rw [List.map_cons, List.map_cons, h.asked]
  deleted := by
    rw [fst_cleanUp_cons, h.deleted, List.countP_cons]
    split <;> rfl

end Step

theorem exists_makes (ids : List TraitId) (state : σ) :
    ∃ calls, store.Makes character ids state calls := by
  induction ids generalizing state with
  | nil =>
    refine ⟨[], ⟨?_, .nil state, rfl, rfl⟩⟩
    intro β note before
    rw [List.map_nil, List.append_nil]
    rfl
  | cons id rest ih =>
    obtain ⟨calls, h⟩ := ih (store character id state).2
    exact ⟨_, h.cons⟩

/-- A call in words. -/
def Call.words (call : Call) : String :=
  call.character ++ " " ++ call.id ++ ": " ++
    match call.outcome with
    | .ok () => "ok"
    | .error e => e.message

/-- A store that writes down its calls notes them in words. -/
theorem logged_eq_noting : store.logged = store.noting Call.words := rfl

/-- The log of a cleanup has its calls in words behind what was there before. -/
theorem Makes.logged {store : TraitStore σ} {character : String} {ids : List TraitId} {state : σ}
    {calls : List Call} (h : store.Makes character ids state calls) (log : List String) :
    store.logged.cleanUp character ids (state, log) =
      ((store.cleanUp character ids state).1, (store.cleanUp character ids state).2,
        log ++ calls.map Call.words) := by
  rw [logged_eq_noting, h.noted]

/-- A store that refuses each of the traits and stays as it is deletes nothing. -/
theorem cleanUp_eq_of_refuses {ids : List TraitId} {state : σ}
    (h : ∀ id ∈ ids, ∃ e, store character id state = (.error e, state)) :
    store.cleanUp character ids state = (0, state) := by
  induction ids with
  | nil => rfl
  | cons id rest ih =>
    obtain ⟨e, he⟩ := h id (by simp)
    have hrest := ih fun other hother => h other (by simp [hother])
    apply Prod.ext
    · rw [fst_cleanUp_cons, he, hrest]
      rfl
    · rw [snd_cleanUp_cons, he, hrest]

end TraitStore

/-! ## A shelf -/

section Shelf

variable {broken : List TraitId} {present : Std.ExtTreeSet TraitId} {character : String}
  {id : TraitId}

theorem shelf_of_mem_broken (h : id ∈ broken) :
    shelf broken character id present = (.error (.backend "offline"), present) := by
  rw [shelf, if_pos (List.contains_iff_mem.mpr h)]

theorem shelf_of_notMem (hbroken : id ∉ broken) (h : id ∉ present) :
    shelf broken character id present = (.error (.notFound id), present) := by
  rw [shelf, if_neg (by simpa using hbroken), if_neg (by simpa using h)]

theorem shelf_of_mem (hbroken : id ∉ broken) (h : id ∈ present) :
    shelf broken character id present = (.ok (), present.erase id) := by
  rw [shelf, if_neg (by simpa using hbroken), if_pos (by simpa using h)]

/-- A shelf deletes what is on it and not broken. -/
theorem toBool_shelf_iff :
    (shelf broken character id present).1.toBool = true ↔ id ∈ present ∧ id ∉ broken := by
  by_cases hbroken : id ∈ broken
  · simp [shelf_of_mem_broken hbroken, hbroken, Except.toBool]
  · by_cases h : id ∈ present
    · simp [shelf_of_mem hbroken h, hbroken, h, Except.toBool]
    · simp [shelf_of_notMem hbroken h, h, Except.toBool]

theorem mem_shelf_iff {other : TraitId} :
    other ∈ (shelf broken character id present).2 ↔
      other ∈ present ∧ ¬ (other = id ∧ other ∉ broken) := by
  -- a broken identity changes nothing, and so does one that is not on the shelf
  by_cases hbroken : id ∈ broken
  · rw [shelf_of_mem_broken hbroken]
    refine (and_iff_left ?_).symm
    rintro ⟨rfl, h⟩
    exact h hbroken
  · by_cases h : id ∈ present
    · rw [shelf_of_mem hbroken h, Std.ExtTreeSet.mem_erase, Ne, Std.compare_eq_iff_eq]
      grind
    · rw [shelf_of_notMem hbroken h]
      refine (and_iff_left_of_imp ?_).symm
      rintro hother ⟨rfl, -⟩
      exact h hother

variable (broken present character) (ids : List TraitId)

/-- What stays on the shelf. -/
theorem mem_snd_cleanUp_shelf_iff {other : TraitId} :
    other ∈ ((shelf broken).cleanUp character ids present).2 ↔
      other ∈ present ∧ ¬ (other ∈ ids ∧ other ∉ broken) := by
  induction ids generalizing present with
  | nil => simp [TraitStore.cleanUp]
  | cons id rest ih =>
    rw [TraitStore.snd_cleanUp_cons, ih, mem_shelf_iff, List.mem_cons]
    tauto

/-- What is counted is listed, was on the shelf and is not broken. The induction is on the list: the
first trait is counted only if it is still there, and is gone then. -/
theorem fst_cleanUp_shelf :
    ((shelf broken).cleanUp character ids present).1 =
      (ids.toFinset.filter fun id => id ∈ present ∧ id ∉ broken).card := by
  induction ids generalizing present with
  | nil => rfl
  | cons id rest ih =>
    rw [TraitStore.fst_cleanUp_cons, ih, List.toFinset_cons]
    split
    · next h =>
      rw [toBool_shelf_iff] at h
      -- a deleted identity counts once, since it is no longer on the shelf for the rest of the list
      have hrest :
          (insert id rest.toFinset).filter (fun other => other ∈ present ∧ other ∉ broken) =
            insert id (rest.toFinset.filter fun other =>
              other ∈ (shelf broken character id present).2 ∧ other ∉ broken) := by
        ext other
        simp only [Finset.mem_filter, Finset.mem_insert, mem_shelf_iff]
        by_cases heq : other = id <;> simp [heq, h]
      rw [hrest, Finset.card_insert_of_notMem]
      simp [mem_shelf_iff, h]
    · next h =>
      rw [toBool_shelf_iff] at h
      congr 1
      ext other
      simp only [Finset.mem_filter, Finset.mem_insert, mem_shelf_iff]
      by_cases heq : other = id <;> simp [heq, h]

/-- The counted traits are the listed ones that a cleanup takes from the shelf. -/
theorem fst_cleanUp_shelf_eq_card_lost :
    ((shelf broken).cleanUp character ids present).1 =
      (ids.toFinset.filter fun id =>
        id ∈ present ∧ id ∉ ((shelf broken).cleanUp character ids present).2).card := by
  rw [fst_cleanUp_shelf]
  congr 1
  ext id
  rw [Finset.mem_filter, Finset.mem_filter, List.mem_toFinset, mem_snd_cleanUp_shelf_iff]
  tauto

/-- After a cleanup every listed trait is broken or gone, so the next one deletes nothing. -/
theorem cleanUp_shelf_again :
    let left := ((shelf broken).cleanUp character ids present).2
    (shelf broken).cleanUp character ids left = (0, left) := by
  apply TraitStore.cleanUp_eq_of_refuses
  intro id hid
  by_cases hbroken : id ∈ broken
  · exact ⟨_, shelf_of_mem_broken hbroken⟩
  · refine ⟨_, shelf_of_notMem hbroken ?_⟩
    rw [mem_snd_cleanUp_shelf_iff]
    exact fun h => h.2 ⟨hid, hbroken⟩

end Shelf

/-- A cleanup asks any store for each listed trait once and counts the calls that succeed. A shelf
loses by it what is listed and not broken, each trait is counted once, and a second cleanup does
nothing. -/
theorem cleanUp_asks_each_once (character : String) (ids : List TraitId) :
    (∀ {σ : Type} (store : TraitStore σ) (state : σ), ∃ calls,
      store.Makes character ids state calls ∧
        (store.cleanUp character ids state).1 =
          calls.countP fun call => call.outcome.toBool) ∧
    ∀ (broken : List TraitId) (present : Std.ExtTreeSet TraitId),
      let run := (shelf broken).cleanUp character ids present
      (∀ id, id ∈ run.2 ↔ id ∈ present ∧ ¬ (id ∈ ids ∧ id ∉ broken)) ∧
        run.1 = (ids.toFinset.filter fun id => id ∈ present ∧ id ∉ run.2).card ∧
        (shelf broken).cleanUp character ids run.2 = (0, run.2) := by
  constructor
  · intro σ store state
    obtain ⟨calls, h⟩ := store.exists_makes character ids state
    exact ⟨calls, h, h.deleted⟩
  · intro broken present
    exact ⟨fun _ => mem_snd_cleanUp_shelf_iff broken present character ids,
      fst_cleanUp_shelf_eq_card_lost broken present character ids,
      cleanUp_shelf_again broken present character ids⟩

example : ((shelf ["dodge"]).cleanUp "hero" ["aim", "dodge", "jump", "aim"]
    (.ofList ["aim", "dodge", "feint"])).1 = 1 := by
  decide +kernel

end CharacterSheet
