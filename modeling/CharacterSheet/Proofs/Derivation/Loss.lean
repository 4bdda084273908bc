import CharacterSheet.Proofs.Derivation.Framing
import CharacterSheet.Proofs.Inquiry.Standpoint
import CharacterSheet.Proofs.Value.Tally

/-!
# Losing what a key contributes

Two runs of an inquiry are compared: one with all contributions, one without those under a key. If
every read of the key fails in the first run, each of them warns and falls back on what the second
run finds, so the results agree and the first run has one warning more for each read.
-/

namespace CharacterSheet

/-! ## Traits without a key -/

/-- The trait without its contributions under a key. -/
def Trait.withoutKey (key : String) (t : Trait) : Trait :=
  { t with contributions := t.contributions.filter fun c => c.key ≠ key }

/-- Leaving out one key is leaving out a set of keys. -/
theorem Trait.withoutKey_eq (key : String) :
    Trait.withoutKey key = Trait.withoutKeys fun key' => key' = key := by
  funext t
  simp only [withoutKey, withoutKeys, ne_eq, decide_not]

/-- Leaving out a key retunes traits, unless the key makes a level nonheroic. -/
theorem Trait.retunes_withoutKey {key : String} (hkey : key ≠ "isNonheroic") :
    Trait.Retunes (Trait.withoutKey key) := by
  rw [withoutKey_eq]
  exact retunes_withoutKeys (decide_eq_false hkey.symm)

/-- The contributions to other keys stay. -/
theorem Trait.filter_withoutKey_of_ne {key key' : String} (h : key' ≠ key) (t : Trait) :
    (t.withoutKey key).contributions.filter (·.key = key') =
      t.contributions.filter (·.key = key') := by
  rw [withoutKey_eq]
  exact filter_withoutKeys (decide_eq_false h) t

/-- Nothing is found for the key that is left out. -/
theorem Pool.matching_withoutKey (traits : List Trait) (lookup : Lookup) (key : String)
    (filter : Filter) :
    (Pool.mk (traits.map (Trait.withoutKey key)) lookup).matching key filter = [] := by
  simp only [Pool.matching, List.flatMap_eq_nil_iff, List.map_eq_nil_iff, List.filter_eq_nil_iff]
  intro t ht c hc
  obtain ⟨t', -, rfl⟩ := List.mem_map.mp (List.mem_of_mem_filter ht)
  have hne := (List.mem_filter.mp hc).2
  simp_all

/-! ## Reads that fail -/

namespace Question

/-- The question reads the contributions under a key for more than a summary. -/
def Reads (key : String) (q : Question) : Prop := q.key = key ∧ q.mode ≠ .summary

instance (key : String) (q : Question) : Decidable (q.Reads key) :=
  inferInstanceAs (Decidable (_ ∧ _))

/-- The values that the traits contribute to a question. -/
def found (traits : List Trait) (q : Question) : List Value :=
  ((Pool.mk traits q.vars.lookup).matching q.key q.filter).map (·.2.value)

/-- The warning of a question whose contributions cannot be resolved. Values are read as factors;
other contributions are replaced by zero as a whole. -/
def complaint? (traits : List Trait) (q : Question) : Option String :=
  match q.mode with
  | .values =>
    match Value.resolveWhole q.vars.lookup ((q.found traits).map Value.asFactor) with
    | .error e => some (q.key ++ ": " ++ e.message ++ "; ignoring")
    | .ok _ => none
  | _ =>
    match q.answer traits with
    | .error e => some (q.key ++ " (" ++ q.stage.name ++ "): " ++ e.message ++ "; using 0")
    | .ok _ => none

/-- The warnings of the questions that read a key. -/
def complaints (traits : List Trait) (key : String) (qs : List Question) : List String :=
  (qs.filter (·.Reads key)).filterMap (·.complaint? traits)

/-- Where nothing is asked there is nothing to complain of. -/
@[simp] theorem complaints_nil (traits : List Trait) (key : String) :
    complaints traits key [] = [] := rfl

/-- The complaints about two lists of questions are those about each. -/
@[simp] theorem complaints_append (traits : List Trait) (key : String) (qs qs' : List Question) :
    complaints traits key (qs ++ qs') = complaints traits key qs ++ complaints traits key qs' := by
  simp [complaints]

/-- Questions about other keys are no reason to complain. -/
theorem complaints_of_not_reads {traits : List Trait} {key : String} {qs : List Question}
    (h : ∀ q ∈ qs, ¬ q.Reads key) : complaints traits key qs = [] := by
  have hnone : qs.filter (·.Reads key) = [] := by simpa [List.filter_eq_nil_iff] using h
  rw [complaints, hnone, List.filterMap_nil]

/-- Where each read of the key fails, there is one warning for each of them. -/
theorem map_complaint?_eq {traits : List Trait} {key : String} {qs : List Question}
    (h : ∀ q ∈ qs, q.Reads key → (q.complaint? traits).isSome) :
    (qs.filter (·.Reads key)).map (·.complaint? traits) =
      (complaints traits key qs).map some := by
  rw [complaints, List.map_filterMap_some_eq_filter_map_isSome, eq_comm, List.filter_eq_self]
  intro m hm
  obtain ⟨q, hq, rfl⟩ := List.mem_map.mp hm
  obtain ⟨hmem, hreads⟩ := List.mem_filter.mp hq
  exact h q hmem (of_decide_eq_true hreads)

/-- The complaint about a single question is its own. -/
theorem complaints_singleton {traits : List Trait} {key : String} {q : Question} {m : String}
    (hq : q.Reads key) (hm : q.complaint? traits = some m) : complaints traits key [q] = [m] := by
  simp [complaints, hq, hm]

/-- A number with a complaint cannot be resolved, and its warning is the complaint. -/
theorem answer_of_complaint? {traits : List Trait} {q : Question}
    (hmode : q.mode = .sum ∨ q.mode = .max) (h : (q.complaint? traits).isSome) :
    ∃ e, q.answer traits = .error e ∧ q.complaint? traits =
      some (q.key ++ " (" ++ q.stage.name ++ "): " ++ e.message ++ "; using 0") := by
  have hvalues : q.mode ≠ .values := by
    rcases hmode with h | h <;> rw [h] <;> decide
  cases hanswer : q.answer traits with
  | error e => exact ⟨e, rfl, by rcases hmode with h | h <;> simp [complaint?, h, hanswer]⟩
  | ok reduced => rcases hmode with hm | hm <;> simp [complaint?, hm, hanswer] at h

/-- Factors with a complaint cannot be resolved, and their warning is the complaint. -/
theorem found_of_complaint? {traits : List Trait} {q : Question} (hmode : q.mode = .values)
    (h : (q.complaint? traits).isSome) :
    ∃ e, Value.resolveWhole q.vars.lookup ((q.found traits).map Value.asFactor) = .error e ∧
      q.complaint? traits = some (q.key ++ ": " ++ e.message ++ "; ignoring") := by
  cases hfound : Value.resolveWhole q.vars.lookup ((q.found traits).map Value.asFactor) with
  | error e => exact ⟨e, rfl, by simp [complaint?, hmode, hfound]⟩
  | ok n => simp [complaint?, hmode, hfound] at h

/-- A question about another key has the same answer. -/
theorem answer_withoutKey_of_ne {key : String} (hkey : key ≠ "isNonheroic") (traits : List Trait)
    {q : Question} (hq : q.key ≠ key) :
    q.answer (traits.map (Trait.withoutKey key)) = q.answer traits :=
  answer_map (Trait.retunes_withoutKey hkey) traits q (Trait.filter_withoutKey_of_ne hq)

end Question

/-! ## Two runs -/

namespace Inquiry

variable {α β α' β' : Type}

/-- If each read of the key fails in the run of `x` with all contributions, then its result is
related to that of the run of `y` without those under the key, and it has one warning more for each
of these reads. -/
def Loses (key : String) (traits : List Trait) (R : α → β → Prop) (x : Inquiry α)
    (y : Inquiry β) : Prop :=
  (∀ q ∈ x.questions (Question.answer traits), q.Reads key → (q.complaint? traits).isSome) →
    R (x.result (Question.answer traits))
        (y.result (Question.answer (traits.map (Trait.withoutKey key)))) ∧
      (y.warnings (Question.answer (traits.map (Trait.withoutKey key)))).Sublist
        (x.warnings (Question.answer traits)) ∧
      (x.warnings (Question.answer traits)).Perm
        (y.warnings (Question.answer (traits.map (Trait.withoutKey key))) ++
          Question.complaints traits key (x.questions (Question.answer traits)))

namespace Loses

variable {key : String} {traits : List Trait}

/-- Inquiries that are over lose nothing if their results are related. -/
theorem pure {R : α → β → Prop} {a : α} {b : β} (h : R a b) :
    Loses key traits R (Pure.pure a : Inquiry α) (Pure.pure b : Inquiry β) :=
  fun _ => ⟨h, .slnil, .nil⟩

/-- Two inquiries in a row lose what both of them do. -/
theorem bind {R : α → β → Prop} {S : α' → β' → Prop} {x : Inquiry α} {y : Inquiry β}
    {next : α → Inquiry α'} {next' : β → Inquiry β'} (hx : Loses key traits R x y)
    (hnext : ∀ a b, R a b → Loses key traits S (next a) (next' b)) :
    Loses key traits S (x >>= next) (y >>= next') := by
  intro hfail
  simp only [questions_bind, List.mem_append] at hfail
  obtain ⟨hresult, hsub, hperm⟩ := hx fun q hq => hfail q (.inl hq)
  obtain ⟨hresult', hsub', hperm'⟩ := hnext _ _ hresult fun q hq => hfail q (.inr hq)
  simp only [result_bind, warnings_bind, questions_bind, Question.complaints_append]
  -- the complaints of the first part move behind the warnings of the second run's second part
  refine ⟨hresult', hsub.append hsub', (hperm.append hperm').trans ?_⟩
  simp only [List.append_assoc]
  refine List.Perm.append_left _ ?_
  rw [← List.append_assoc, ← List.append_assoc]
  exact List.Perm.append_right _ List.perm_append_comm

/-- Where the results of the two runs are equal, both go on from the same one. -/
theorem bind_eq {S : α' → β' → Prop} {x y : Inquiry α} {next : α → Inquiry α'}
    {next' : α → Inquiry β'} (hx : Loses key traits Eq x y)
    (hnext : ∀ a, Loses key traits S (next a) (next' a)) :
    Loses key traits S (x >>= next) (y >>= next') := by
  apply hx.bind
  intro a b hab
  subst hab
  exact hnext a

/-- An inquiry that never asks for the key runs in the same way. -/
theorem of_ne (hkey : key ≠ "isNonheroic") (x : Inquiry α)
    (hx : ∀ q ∈ x.questions (Question.answer traits), q.key ≠ key) :
    Loses key traits Eq x x := by
  intro _
  have hrun := answeredBy_congr x fun q hq =>
    (Question.answer_withoutKey_of_ne hkey traits (hx q hq)).symm
  have hnone : Question.complaints traits key (x.questions (Question.answer traits)) = [] :=
    Question.complaints_of_not_reads fun q hq hreads => hx q hq hreads.1
  rw [hnone, List.append_nil]
  simp only [result, warnings, ← hrun]
  exact ⟨trivial, .refl _, .refl _⟩

/-- One that only asks for another key does so too. -/
theorem of_single_ne (hkey : key ≠ "isNonheroic") {x : Inquiry α} {q : Question}
    (hx : x.questions (Question.answer traits) = [q]) (hq : q.key ≠ key) :
    Loses key traits Eq x x := by
  apply of_ne hkey
  intro q' hq'
  rw [hx, List.mem_singleton] at hq'
  rwa [hq']

end Loses

end Inquiry

/-! ## Reads from a standpoint -/

namespace Standpoint

open Inquiry (Loses)

variable {key : String} {traits : List Trait} (here : Standpoint)

/-- A summary may become any other. -/
theorem loses_summary (asked : String) (filter : Filter) :
    Loses key traits (fun _ _ => True) (here.summary asked filter) (here.summary asked filter) := by
  intro _
  have hnone : Question.complaints traits key [here.question .summary asked filter] = [] :=
    Question.complaints_of_not_reads fun q hq hreads => by
      rw [List.mem_singleton.mp hq] at hreads
      exact hreads.2 rfl
  simp [hnone]

/-- With nothing left under the key, its sum and its maximum are zero. -/
theorem answer_question_withoutKey (traits : List Trait) (key : String) {mode : Mode}
    (hmode : mode = .sum ∨ mode = .max) (filter : Filter) :
    (here.question mode key filter).answer (traits.map (Trait.withoutKey key)) =
      .ok (.number 0) := by
  rw [Question.answer, Pool.reduce]
  rcases hmode with rfl | rfl <;>
    simp only [question, Pool.matching_withoutKey] <;> rfl

/-- A number that cannot be resolved is the number that is left without the key. -/
theorem loses_number (hkey : key ≠ "isNonheroic") {mode : Mode} (hmode : mode = .sum ∨ mode = .max)
    (asked : String) (filter : Filter) :
    Loses key traits Eq (here.number mode asked filter) (here.number mode asked filter) := by
  by_cases hasked : asked = key
  · subst hasked
    intro hfail
    have hreads : (here.question mode asked filter).Reads asked := by
      refine ⟨rfl, ?_⟩
      rcases hmode with rfl | rfl <;> exact nofun
    obtain ⟨e, he, hcomplaint⟩ := Question.answer_of_complaint? hmode
      (hfail (here.question mode asked filter) (by simp) hreads)
    -- the fallback of the failing run is the number that the other run finds
    have hfull := here.number_of_error _ he
    have hbare := here.number_of_ok _
      (here.answer_question_withoutKey traits asked hmode filter)
    simp only [Inquiry.result, Inquiry.warnings, hfull, hbare, questions_number,
      Question.complaints_singleton hreads hcomplaint]
    exact ⟨rfl, List.nil_sublist _, .refl _⟩
  · exact Loses.of_single_ne hkey (here.questions_number _ _ _ _) hasked

/-- A sum that cannot be resolved is the sum that is left without the key. -/
theorem loses_sum (hkey : key ≠ "isNonheroic") (asked : String) (filter : Filter) :
    Loses key traits Eq (here.sum asked filter) (here.sum asked filter) :=
  here.loses_number hkey (.inl rfl) asked filter

/-- A maximum that cannot be resolved is the maximum that is left without the key. -/
theorem loses_max (hkey : key ≠ "isNonheroic") (asked : String) (filter : Filter) :
    Loses key traits Eq (here.max asked filter) (here.max asked filter) :=
  here.loses_number hkey (.inr rfl) asked filter

/-- Factors that cannot be resolved count as little as none. -/
theorem loses_scaled (hkey : key ≠ "isNonheroic") (n : Int) (asked : String) :
    Loses key traits Eq (here.scaled n asked) (here.scaled n asked) := by
  by_cases hasked : asked = key
  · subst hasked
    intro hfail
    have hreads : (here.question .values asked .all).Reads asked := ⟨rfl, nofun⟩
    obtain ⟨e, he, hcomplaint⟩ := Question.found_of_complaint? rfl (hfail _ (by simp) hreads)
    have hfound : (here.question .values asked .all).found traits ≠ [] := fun hnil =>
      Value.ne_nil_of_resolveWhole_error _ he (by rw [hnil, List.map_nil])
    -- the factors come behind the number that they scale, which cannot fail itself
    have hfull := here.scaled_of_error (Question.answer traits) rfl hfound
      (Value.resolveWhole_ofInt_cons_error _ n he)
    have hbare := here.scaled_of_nil n asked
      (Question.answer (traits.map (Trait.withoutKey asked))) (by
        rw [Question.answer, Pool.reduce, question, Pool.matching_withoutKey]
        rfl)
    simp only [Inquiry.result, Inquiry.warnings, hfull, hbare, questions_scaled,
      Question.complaints_singleton hreads hcomplaint]
    exact ⟨trivial, List.nil_sublist _, .refl _⟩
  · exact Loses.of_single_ne hkey (here.questions_scaled _ _ _) hasked

end Standpoint

end CharacterSheet
