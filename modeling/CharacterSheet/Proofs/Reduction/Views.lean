import CharacterSheet.Proofs.Value.Classes
import CharacterSheet.Reduction.Basic
import Mathlib.Data.List.Forall2

/-!
# Modes as views

Whatever the mode, a reduction looks at one sequence: the contributions under the key that pass the
filter, trait by trait and within a trait in the order of its list. Several modes at once come to
the same as each of them alone.
-/

namespace CharacterSheet

/-! ## The sequence -/

/-- The trait and the contribution pass the filter: the kind of the trait is one of those let
through, if any are named, and none of those kept out, and the contribution is not situational where
these are left out. -/
structure Filter.Passes (f : Filter) (s : Sourced) : Prop where
  only : f.only = [] ∨ s.1.kind ∈ f.only
  excluding : s.1.kind ∉ f.excluding
  situational : f.withoutSituational = true → s.2.situational = false

/-- A contribution passes a filter if its trait and it are accepted. -/
theorem Filter.passes_iff (f : Filter) (s : Sourced) :
    f.Passes s ↔ f.acceptsTrait s.1 = true ∧ f.acceptsContribution s.2 = true := by
  have htrait : f.acceptsTrait s.1 = true ↔
      (f.only = [] ∨ s.1.kind ∈ f.only) ∧ s.1.kind ∉ f.excluding := by
    simp [acceptsTrait]
  have hcontribution : f.acceptsContribution s.2 = true ↔
      (f.withoutSituational = true → s.2.situational = false) := by
    rw [acceptsContribution]
    cases f.withoutSituational <;> simp
  rw [htrait, hcontribution]
  exact ⟨fun h => ⟨⟨h.only, h.excluding⟩, h.situational⟩, fun h => ⟨h.1.1, h.1.2, h.2⟩⟩

instance (f : Filter) (s : Sourced) : Decidable (f.Passes s) :=
  decidable_of_iff _ (f.passes_iff s).symm

namespace Pool

variable (pool : Pool) (key : String) (filter : Filter)

/-- All contributions of all traits, in order. -/
def contributions : List Sourced := pool.traits.flatMap fun t => t.contributions.map (t, ·)

/-- The contributions that a reduction looks at. -/
def found : List Sourced := pool.contributions.filter fun s => s.2.key = key ∧ filter.Passes s

/-- What matches is what is found. -/
theorem matching_eq_found : pool.matching key filter = pool.found key filter := by
  obtain ⟨traits, lookup⟩ := pool
  simp only [matching, found, contributions, List.filter_flatMap, List.filter_map,
    Function.comp_def, filter.passes_iff]
  induction traits with
  | nil => rfl
  | cons t rest ih =>
    rw [List.flatMap_cons, ← ih]
    by_cases htrait : filter.acceptsTrait t = true
    · simp [htrait]
    · simp [htrait]

end Pool

/-! ## One mode -/

namespace Sourced

variable (lookup : Lookup) {found : List Sourced}

/-- The record is of the contribution: it has its value, its remark, whether it is situational, and
the name and the id of its trait. -/
structure IsRecordOf (record : SourcedValue) (s : Sourced) : Prop where
  value : record.value = s.2.value
  source : record.source = s.1.name
  sourceId : record.sourceId = s.1.id
  modifier : record.modifier = s.2.modifier
  situational : record.situational = s.2.situational

/-- Each answer is a view of the contributions. A number is that of their values alone. -/
structure AreViews (found : List Sourced) (answer : Mode → Except ResolveError Reduced) :
    Prop where
  sum : answer .sum = (Value.resolveWhole lookup (found.map (·.2.value))).map .number
  max : answer .max = ((found.map (·.2.value)).mapM (Value.resolveOne lookup)).map fun xs =>
    .number ((xs.reduceOption.foldl (Tally.tighten Binary64.max) none).elim 0 Binary64.toWhole)
  or : ∃ b, answer .or = .ok (.flag b) ∧
    (b = true ↔ ∃ v ∈ found.map (·.2.value), v.isTruthy = true)
  first : ∃ v?, answer .first = .ok (.value v?) ∧ ∀ v, v? = some v ↔
    ∃ before behind, found.map (·.2.value) = before ++ v :: behind ∧ v ≠ .null ∧
      ∀ u ∈ before, u = .null
  values : answer .values = .ok (.values (found.map (·.2.value)))
  lowerCaseValues : ∃ texts, answer .lowerCaseValues = .ok (.texts texts) ∧
    List.Forall₂ (fun text v => text = Text.lower v.display) texts
      ((found.map (·.2.value)).filter (· ≠ .null))
  numericValues : answer .numericValues =
    .ok (.values ((found.map (·.2.value)).filter (·.number?.isSome)))
  mapped : ∃ records, answer .mapped = .ok (.mapped records) ∧
    List.Forall₂ IsRecordOf records found
  summary : ∃ entries, answer .summary = .ok (.summary (", ".intercalate entries)) ∧
    List.Forall₂ (fun entry s => entry = s.describe) entries
      (found.filter fun s => s.2.value ≠ .null)

/-- The largest value is that of all numbers that can be resolved, in any order of comparing them.
-/
theorem largest?_eq (best : Option Binary64) : largest? lookup best found =
    ((found.map (·.2.value)).mapM (Value.resolveOne lookup)).map fun xs =>
      xs.reduceOption.foldl (Tally.tighten Binary64.max) best := by
  induction found generalizing best with
  | nil => rfl
  | cons s rest ih =>
    rw [largest?, List.map_cons, List.mapM_cons]
    cases s.2.value.resolveOne lookup with
    | error e => rfl
    | ok x? =>
      cases x? with
      | none =>
        simp only [ih]
        cases (rest.map (·.2.value)).mapM (Value.resolveOne lookup) <;> rfl
      | some x =>
        simp only [ih]
        cases (rest.map (·.2.value)).mapM (Value.resolveOne lookup) <;> rfl

/-- A value is there if it is not null. -/
theorem isNull_eq_false_iff {v : Value} : (!v.isNull) = decide (v ≠ .null) := by
  cases v <;> rfl

/-- The first value is the one behind nothing but nulls. -/
theorem first?_eq_some_iff {v : Value} :
    first? found = some v ↔ ∃ before behind,
      found.map (·.2.value) = before ++ v :: behind ∧ v ≠ .null ∧ ∀ u ∈ before, u = .null := by
  simp only [first?, isNull_eq_false_iff]
  rw [List.find?_eq_some_iff_append]
  simp only [decide_not, Bool.not_not, Bool.not_eq_true', decide_eq_false_iff_not,
    decide_eq_true_eq]
  constructor
  · rintro ⟨hv, before, behind, hsplit, hbefore⟩
    exact ⟨before, behind, hsplit, hv, hbefore⟩
  · rintro ⟨before, behind, hsplit, hv, hbefore⟩
    exact ⟨hv, before, behind, hsplit, hbefore⟩

/-- In each mode, what is found is seen as the mode says. -/
theorem areViews_reduce (found : List Sourced) :
    AreViews lookup found (reduce lookup found) where
  sum := rfl
  max := by
    rw [reduce, largest?_eq]
    cases (found.map (·.2.value)).mapM (Value.resolveOne lookup) <;> rfl
  or := ⟨_, rfl, by simp⟩
  first := ⟨_, rfl, fun _ => first?_eq_some_iff⟩
  values := rfl
  lowerCaseValues := by
    refine ⟨_, rfl, ?_⟩
    rw [lowerCaseValues, List.filter_map, List.forall₂_map_left_iff, List.forall₂_map_right_iff]
    simp only [isNull_eq_false_iff, Function.comp_def]
    exact List.forall₂_same.mpr fun _ _ => rfl
  numericValues := rfl
  mapped := by
    refine ⟨_, rfl, ?_⟩
    rw [List.forall₂_map_left_iff]
    exact List.forall₂_same.mpr fun _ _ => ⟨rfl, rfl, rfl, rfl, rfl⟩
  summary := by
    refine ⟨_, rfl, ?_⟩
    simp only [isNull_eq_false_iff]
    rw [List.forall₂_map_left_iff]
    exact List.forall₂_same.mpr fun _ _ => rfl

/-- Only a sum or a maximum can fail. -/
theorem mode_of_reduce_error {mode : Mode} {e : ResolveError}
    (h : reduce lookup found mode = .error e) : mode = .sum ∨ mode = .max := by
  cases mode with
  | sum => exact .inl rfl
  | max => exact .inr rfl
  | _ => cases h

end Sourced

/-! ## Several modes -/

namespace Pool

section Several

variable (pool : Pool) {found : List Sourced} {results : Aggregation} {modes : List Mode}

/-- An aggregation succeeds if each mode does, and has the result of each. -/
theorem aggregateOnto_eq_ok_iff {a : Aggregation} :
    pool.aggregateOnto found results modes = .ok a ↔
      (∀ mode ∈ modes, ∃ r, Sourced.reduce pool.lookup found mode = .ok r) ∧
      ∀ mode, a[mode]? = if mode ∈ modes then (Sourced.reduce pool.lookup found mode).toOption
        else results[mode]? := by
  induction modes generalizing results with
  | nil =>
    simp only [aggregateOnto, List.not_mem_nil, false_implies, implies_true, true_and, if_false,
      Except.ok.injEq]
    exact ⟨fun h _ => h ▸ rfl, fun h => Std.ExtTreeMap.ext_getElem? fun mode => (h mode).symm⟩
  | cons next rest ih =>
    rw [aggregateOnto, List.forall_mem_cons]
    cases hnext : Sourced.reduce pool.lookup found next with
    | error e => simp
    | ok reduced =>
      simp only [ih]
      -- the first result stands under its mode, whether or not the rest asks for that mode again
      have hentry : ∀ mode,
          (if mode ∈ rest then (Sourced.reduce pool.lookup found mode).toOption
            else (results.insert next reduced)[mode]?) =
          if mode ∈ next :: rest then (Sourced.reduce pool.lookup found mode).toOption
            else results[mode]? := by
        intro mode
        by_cases hmode : mode = next
        · subst hmode
          simp [hnext, Except.toOption]
        · simp [hmode, Std.ExtTreeMap.getElem?_insert, Ne.symm hmode]
      simp only [hentry, and_assoc]
      simp

/-- An aggregation fails with the first error in the order of the modes. -/
theorem aggregateOnto_eq_error_iff {e : ResolveError} :
    pool.aggregateOnto found results modes = .error e ↔
      ∃ before mode behind, modes = before ++ mode :: behind ∧
        Sourced.reduce pool.lookup found mode = .error e ∧
        ∀ m ∈ before, ∃ r, Sourced.reduce pool.lookup found m = .ok r := by
  induction modes generalizing results with
  | nil => simp [aggregateOnto]
  | cons next rest ih =>
    rw [aggregateOnto]
    -- the first mode fails, or it does not and the failing one lies behind it
    cases hnext : Sourced.reduce pool.lookup found next with
    | error e' =>
      constructor
      · rintro ⟨⟩
        exact ⟨[], next, rest, rfl, hnext, nofun⟩
      · rintro ⟨before, mode, behind, hsplit, hmode, hbefore⟩
        cases before with
        | nil =>
          cases hsplit
          rw [hnext] at hmode
          cases hmode
          rfl
        | cons m before =>
          cases hsplit
          obtain ⟨r, hr⟩ := hbefore _ List.mem_cons_self
          rw [hnext] at hr
          cases hr
    | ok reduced =>
      simp only [ih]
      constructor
      · rintro ⟨before, mode, behind, rfl, hmode, hbefore⟩
        exact ⟨next :: before, mode, behind, rfl, hmode,
          List.forall_mem_cons.mpr ⟨⟨reduced, hnext⟩, hbefore⟩⟩
      · rintro ⟨before, mode, behind, hsplit, hmode, hbefore⟩
        cases before with
        | nil =>
          cases hsplit
          rw [hnext] at hmode
          cases hmode
        | cons m before =>
          cases hsplit
          exact ⟨before, mode, behind, rfl, hmode, (List.forall_mem_cons.mp hbefore).2⟩

end Several

variable (pool : Pool) (key : String) (filter : Filter)

/-- What is asked for directly is what the reduction in the mode of that name comes to. -/
structure AccessorsAgree : Prop where
  sum : pool.reduce key .sum filter = (pool.sum key filter).map .number
  max : pool.reduce key .max filter = (pool.max key filter).map .number
  any : pool.reduce key .or filter = .ok (.flag (pool.any key filter))
  first : pool.reduce key .first filter = .ok (.value (pool.first? key filter))
  lowerCaseValues :
    pool.reduce key .lowerCaseValues filter = .ok (.texts (pool.lowerCaseValues key filter))
  summary : pool.reduce key .summary filter = .ok (.summary (pool.summary key filter))

/-- A number that is taken out and put back is the same. -/
theorem map_number_number? (answer : Except ResolveError Int) :
    ((answer.map Reduced.number).map fun r => r.number?.getD 0).map Reduced.number =
      answer.map .number := by
  cases answer <;> rfl

/-- Each accessor gives what its mode does. -/
theorem accessorsAgree : pool.AccessorsAgree key filter where
  sum := by
    rw [sum, reduce, Sourced.reduce, map_number_number?]
  max := by
    have hnumber : pool.reduce key .max filter =
        ((Sourced.largest? pool.lookup none (pool.matching key filter)).map
          fun best => best.elim 0 Binary64.toWhole).map .number := by
      rw [reduce, Sourced.reduce]
      cases Sourced.largest? pool.lookup none (pool.matching key filter) <;> rfl
    rw [max, hnumber, map_number_number?]
  any := rfl
  first := rfl
  lowerCaseValues := rfl
  summary := rfl

/-- Every mode is a view of the contributions that are found. What is asked for directly is what
the reduction in that mode comes to, and only sums and maxima can fail. Several modes are answered
at once exactly if each of them is, each as on its own; otherwise the first one that fails says
why. -/
theorem reduce_views :
    Sourced.AreViews pool.lookup (pool.found key filter) (pool.reduce key · filter) ∧
    pool.AccessorsAgree key filter ∧
    (∀ mode e, pool.reduce key mode filter = .error e → mode = .sum ∨ mode = .max) ∧
    (∀ modes a, pool.aggregate key modes filter = .ok a ↔
      (∀ mode ∈ modes, ∃ r, pool.reduce key mode filter = .ok r) ∧
      ∀ mode, a[mode]? =
        if mode ∈ modes then (pool.reduce key mode filter).toOption else none) ∧
    ∀ modes e, pool.aggregate key modes filter = .error e ↔
      ∃ before mode behind, modes = before ++ mode :: behind ∧
        pool.reduce key mode filter = .error e ∧
        ∀ m ∈ before, ∃ r, pool.reduce key m filter = .ok r := by
  refine ⟨?_, pool.accessorsAgree key filter, ?_, fun modes a => ?_, fun modes e => ?_⟩
  · rw [← matching_eq_found]
    exact Sourced.areViews_reduce pool.lookup (pool.matching key filter)
  · exact fun mode e h => Sourced.mode_of_reduce_error pool.lookup h
  · rw [aggregate, aggregateOnto_eq_ok_iff]
    simp only [Std.ExtTreeMap.getElem?_empty]
    rfl
  · rw [aggregate, aggregateOnto_eq_error_iff]
    rfl

/-- Two traits with a color each, one of them in special situations only. -/
def painted : Pool where
  traits :=
    [{ id := "a", name := "Armor", kind := .armor,
       contributions := [⟨"color", .null, none, false⟩, ⟨"color", .text "Red", none, false⟩,
         ⟨"weight", .number 0, none, false⟩] },
      { id := "b", name := "Cloak", kind := .equipment,
        contributions := [⟨"color", .text "Blue", some "at night", true⟩,
          ⟨"color", .text "7", none, false⟩] }]
  lookup := noVariables

/-- A color is no number, so a sum that is asked for among other things fails. -/
theorem reduce_views_painted :
    (painted.found "color" .plain).map (·.2.value) = [.null, .text "Red", .text "7"] ∧
    painted.reduce "color" .numericValues .plain = .ok (.values [.text "7"]) ∧
    painted.aggregate "color" [.values, .sum, .max] .plain = .error (.notNumeric "Red") ∧
    ∃ a, painted.aggregate "color" [.first, .summary, .first] .plain = .ok a ∧
      a[Mode.first]? = some (.value (some (.text "Red"))) ∧
      a[Mode.summary]? = some (.summary "Armor: Red, Cloak: 7") ∧ a[Mode.sum]? = none := by
  obtain ⟨hviews, -, -, hok, herror⟩ := reduce_views painted "color" .plain
  have hfound : (painted.found "color" .plain).map (·.2.value) =
      [.null, .text "Red", .text "7"] := by
    decide +kernel
  have hsum : painted.reduce "color" .sum .plain = .error (.notNumeric "Red") := by
    decide +kernel
  have hfirst : painted.reduce "color" .first .plain = .ok (.value (some (.text "Red"))) := by
    decide +kernel
  have hsummary : painted.reduce "color" .summary .plain =
      .ok (.summary "Armor: Red, Cloak: 7") := by
    decide +kernel
  refine ⟨hfound, ?_, ?_, ?_⟩
  · rw [hviews.numericValues, hfound]
    decide +kernel
  · exact (herror _ _).mpr ⟨[.values], .sum, [.max], rfl, hsum, by simp [hviews.values]⟩
  · have hasked : ∀ mode ∈ [Mode.first, .summary, .first],
        ∃ r, painted.reduce "color" mode .plain = .ok r := by
      simp [hfirst, hsummary]
    -- that this listing succeeds follows from the error part: no mode of it fails
    cases hall : painted.aggregate "color" [.first, .summary, .first] .plain with
    | error e =>
      obtain ⟨before, mode, behind, hsplit, hmode, -⟩ := (herror _ _).mp hall
      obtain ⟨r, hr⟩ := hasked mode (hsplit ▸ by simp)
      rw [hmode] at hr
      cases hr
    | ok a =>
      obtain ⟨-, hentries⟩ := (hok _ a).mp hall
      refine ⟨a, rfl, ?_, ?_, ?_⟩
      · rw [hentries, if_pos (by simp), hfirst]
        rfl
      · rw [hentries, if_pos (by simp), hsummary]
        rfl
      · rw [hentries, if_neg (by simp)]

end Pool

end CharacterSheet
