import CharacterSheet.Proofs.Value.Tally
import Mathlib.Data.List.Induction

/-!
# Classes of tokens

Summands, scaling steps, overrides and the two kinds of bounds each go into a part of their own of
what the tokens amount to. So a list of values resolves to a number that depends on the sequence of
each class alone, whatever stands between its members; a list fails as its first value that is no
token does.
-/

namespace CharacterSheet

/-! ## Classes -/

namespace Token

/-- The number that the token adds. -/
def addend? : Token → Option Binary64
  | add x => some x
  | _ => none

/-- The step by which the token scales. -/
def scaling? : Token → Option Scaling
  | scale step => some step
  | _ => none

/-- The number that the token puts in the place of the sum. -/
def override? : Token → Option Binary64
  | override x => some x
  | _ => none

/-- The lower bound that the token sets. -/
def atLeast? : Token → Option Binary64
  | atLeast x => some x
  | _ => none

/-- The upper bound that the token sets. -/
def atMost? : Token → Option Binary64
  | atMost x => some x
  | _ => none

/-- Each class of tokens stands in the same sequence in both lists. Of the overrides only the last
one counts, and the summands count only if there is none. -/
structure SameClasses (tokens tokens' : List Token) : Prop where
  addends : tokens.filterMap override? = [] →
    tokens.filterMap addend? = tokens'.filterMap addend?
  scalings : tokens.filterMap scaling? = tokens'.filterMap scaling?
  override : (tokens.filterMap override?).getLast? = (tokens'.filterMap override?).getLast?
  atLeast : tokens.filterMap atLeast? = tokens'.filterMap atLeast?
  atMost : tokens.filterMap atMost? = tokens'.filterMap atMost?

end Token

/-! ## What tokens amount to -/

namespace Tally

/-- A bound with one more number, of which the operation takes the stricter one. -/
def tighten (stricter : Binary64 → Binary64 → Binary64) (bound : Option Binary64) (x : Binary64) :
    Option Binary64 :=
  some (bound.elim x (stricter · x))

/-- The tally of tokens, class by class. -/
def ofTokens (tokens : List Token) : Tally where
  total := (tokens.filterMap Token.addend?).foldl Binary64.add 0
  override := (tokens.filterMap Token.override?).getLast?
  scalings := tokens.filterMap Token.scaling?
  atLeast := (tokens.filterMap Token.atLeast?).foldl (tighten Binary64.max) none
  atMost := (tokens.filterMap Token.atMost?).foldl (tighten Binary64.min) none

/-- A part of the tally that each token changes only as a member of some class is the same after all
tokens as after those of the class. -/
theorem foldl_push_part {α β : Type} (part : Tally → β) (class? : Token → Option α)
    (step : β → α → β)
    (hpush : ∀ t token, part (t.push token) = (class? token).elim (part t) (step (part t)))
    (t : Tally) (tokens : List Token) :
    part (tokens.foldl push t) = (tokens.filterMap class?).foldl step (part t) := by
  induction tokens generalizing t with
  | nil => rfl
  | cons token rest ih =>
    rw [List.foldl_cons, ih, hpush, List.filterMap_cons]
    cases class? token <;> rfl

theorem foldl_some_eq_getLast? {α : Type} (xs : List α) :
    xs.foldl (fun _ x => some x) none = xs.getLast? := by
  induction xs using List.reverseRecOn with
  | nil => rfl
  | append_singleton xs x _ =>
    rw [List.foldl_append, List.getLast?_concat]
    rfl

theorem foldl_concat_eq {α : Type} (xs : List α) : xs.foldl (fun ys x => ys ++ [x]) [] = xs := by
  rw [← List.flatMap_eq_foldl, List.flatMap_singleton']

/-- What tokens amount to one after the other, they amount to class by class. -/
theorem foldl_push_empty (tokens : List Token) : tokens.foldl push empty = ofTokens tokens := by
  -- each part of the tally is a fold over the tokens of its own class
  have htotal := foldl_push_part (·.total) Token.addend? Binary64.add
    (fun t token => by cases token <;> rfl) empty tokens
  have hoverride := foldl_push_part (·.override) Token.override? (fun _ x => some x)
    (fun t token => by cases token <;> rfl) empty tokens
  have hscalings := foldl_push_part (·.scalings) Token.scaling? (fun steps step => steps ++ [step])
    (fun t token => by cases token <;> simp [push, Token.scaling?]) empty tokens
  have hatLeast := foldl_push_part (·.atLeast) Token.atLeast? (tighten Binary64.max)
    (fun t token => by cases token <;> rfl) empty tokens
  have hatMost := foldl_push_part (·.atMost) Token.atMost? (tighten Binary64.min)
    (fun t token => by cases token <;> rfl) empty tokens
  calc tokens.foldl push empty
    _ = ⟨(tokens.foldl push empty).total, (tokens.foldl push empty).override,
          (tokens.foldl push empty).scalings, (tokens.foldl push empty).atLeast,
          (tokens.foldl push empty).atMost⟩ := rfl
    _ = ofTokens tokens := by
      rw [htotal, hoverride, hscalings, hatLeast, hatMost, empty, foldl_some_eq_getLast?,
        foldl_concat_eq]
      rfl

/-- What a tally comes to is settled by its parts, the sum counting only without an override. -/
theorem result_congr {t t' : Tally} (htotal : t.override = none → t.total = t'.total)
    (hoverride : t.override = t'.override) (hscalings : t.scalings = t'.scalings)
    (hatLeast : t.atLeast = t'.atLeast) (hatMost : t.atMost = t'.atMost) :
    t.result = t'.result := by
  have hstart : t.override.getD t.total = t'.override.getD t'.total := by
    rw [← hoverride]
    cases h : t.override with
    | none => exact htotal h
    | some x => rfl
  rw [result, result, hstart, hscalings, hatLeast, hatMost]

/-- Tokens of the same classes come to the same number. -/
theorem result_ofTokens_congr {tokens tokens' : List Token}
    (h : Token.SameClasses tokens tokens') :
    (ofTokens tokens).result = (ofTokens tokens').result := by
  refine result_congr ?_ h.override h.scalings ?_ ?_
  · intro hnone
    have hoverride : tokens.filterMap Token.override? = [] := List.getLast?_eq_none_iff.mp hnone
    simp only [ofTokens, h.addends hoverride]
  · simp only [ofTokens, h.atLeast]
  · simp only [ofTokens, h.atMost]

end Tally

/-! ## Values -/

namespace Value

/-- Whether the value is null or a blank text. -/
def isBlank : Value → Bool
  | null => true
  | text s => Text.trim s = ""
  | _ => false

variable (lookup : Lookup)

/-- The value does not fail to be read as a token; a null or blank one has none. -/
def IsRead (v : Value) : Prop := v.error? lookup = none

instance (v : Value) : Decidable (v.IsRead lookup) := inferInstanceAs (Decidable (_ = none))

theorem ofValue_of_isBlank {v : Value} (h : v.isBlank = true) :
    Token.ofValue lookup v = .ok none := by
  cases v with
  | null => rfl
  | text s => exact if_pos (of_decide_eq_true h)
  | bool b => cases h
  | number x => cases h

/-- Values come to the first error among them, or else to the number of their tokens. -/
theorem resolve_eq (values : List Value) :
    resolve lookup values = (values.findSome? (error? lookup)).elim
      (.ok (Tally.ofTokens (tokens lookup values)).result) .error := by
  rw [resolve, tally_eq, Tally.foldl_push_empty]
  cases values.findSome? (error? lookup) <;> rfl

/-- Values that can all be read come to the number of their tokens. -/
theorem resolve_of_isRead {values : List Value} (h : ∀ v ∈ values, v.IsRead lookup) :
    resolve lookup values = .ok (Tally.ofTokens (tokens lookup values)).result := by
  rw [resolve_eq, List.findSome?_eq_none_iff.mpr h]
  rfl

/-- Resolving fails with the first error among the values. -/
theorem resolve_eq_error_iff {values : List Value} {e : ResolveError} :
    resolve lookup values = .error e ↔ values.findSome? (error? lookup) = some e := by
  rw [resolve_eq]
  cases values.findSome? (error? lookup) <;> simp

/-- A list fails to resolve exactly if one of its values fails to be read, and as the first such
value does. Lists that can be read resolve to the same number if each class of tokens stands in the
same sequence in both, so null and blank values can stand anywhere. -/
theorem resolve_by_classes :
    (∀ values, (∃ e, resolve lookup values = .error e) ↔
      ∃ v ∈ values, ∃ e, Token.ofValue lookup v = .error e) ∧
    (∀ values e, resolve lookup values = .error e ↔
      ∃ before v behind, values = before ++ v :: behind ∧ Token.ofValue lookup v = .error e ∧
        ∀ u ∈ before, u.IsRead lookup) ∧
    (∀ values values', (∀ v ∈ values, v.IsRead lookup) → (∀ v ∈ values', v.IsRead lookup) →
      Token.SameClasses (tokens lookup values) (tokens lookup values') →
      ∃ x, resolve lookup values = .ok x ∧ resolve lookup values' = .ok x) ∧
    ∀ before blank behind, blank.isBlank = true →
      resolve lookup (before ++ blank :: behind) = resolve lookup (before ++ behind) := by
  refine ⟨fun values => ?_, fun values e => ?_, fun values values' hread hread' hclasses => ?_,
    fun before blank behind hblank => ?_⟩
  · simp only [resolve_eq_error_iff, ← error?_eq_some_iff]
    rw [← Option.isSome_iff_exists, List.findSome?_isSome_iff]
    simp only [Option.isSome_iff_exists]
  · rw [resolve_eq_error_iff, List.findSome?_eq_some_iff]
    simp only [error?_eq_some_iff, IsRead]
  · refine ⟨_, resolve_of_isRead lookup hread, ?_⟩
    rw [resolve_of_isRead lookup hread', Tally.result_ofTokens_congr hclasses]
  -- a blank is neither an error nor a token
  · have hnone := ofValue_of_isBlank lookup hblank
    have herror : blank.error? lookup = none := by rw [error?, hnone]
    have htoken : blank.token? lookup = none := by rw [token?, hnone]
    rw [resolve_eq, resolve_eq, tokens, tokens, List.findSome?_append, List.findSome?_append,
      List.findSome?_cons, List.filterMap_append, List.filterMap_append, List.filterMap_cons,
      herror, htoken]

/-- Below an override, a summand makes no difference, nor does the place of the bound. -/
theorem resolve_by_classes_overridden :
    let values : List Value := [ofInt 2, .text "*2", .text "=4", .null, .text "max 7"]
    let values' : List Value := [.text "MAX 7", .text "=4", .text "*2"]
    (∀ v ∈ values, v.IsRead noVariables) ∧ (∀ v ∈ values', v.IsRead noVariables) ∧
      Token.SameClasses (tokens noVariables values) (tokens noVariables values') ∧
      (∃ x, resolve noVariables values = .ok x ∧ resolve noVariables values' = .ok x) ∧
      (resolve noVariables values).toOption = some (Binary64.ofInt 7) ∧
      resolve noVariables ([ofInt 2] ++ .text " " :: [.text "*2"]) =
        resolve noVariables ([ofInt 2] ++ [.text "*2"]) := by
  intro values values'
  have hread : ∀ v ∈ values, v.IsRead noVariables := by decide +kernel
  have hread' : ∀ v ∈ values', v.IsRead noVariables := by decide +kernel
  have hclasses : Token.SameClasses (tokens noVariables values) (tokens noVariables values') :=
    ⟨by decide +kernel, by decide +kernel, by decide +kernel, by decide +kernel,
      by decide +kernel⟩
  obtain ⟨-, -, hresolve, hblank⟩ := resolve_by_classes noVariables
  exact ⟨hread, hread', hclasses, hresolve values values' hread hread' hclasses,
    by decide +kernel, hblank _ _ _ (by decide +kernel)⟩

end Value

end CharacterSheet
