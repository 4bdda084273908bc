import CharacterSheet.Proofs.Binary64.Rounding
import CharacterSheet.Proofs.Value.Classes

/-!
# Zeros in a sum

Whether a zero among the tokens has a sign makes no difference for the number that the tokens amount
to, but for the sign of this number if it is zero itself. So tokens can be told apart by their plain
form as long as none of them divides by zero.
-/

namespace CharacterSheet

/-! ## Plain form -/

namespace Scaling

/-- The number by which the step multiplies or divides. -/
def operand : Scaling → Binary64
  | times x => x
  | dividedBy x => x

/-- The step, without the sign of a zero. -/
def plain : Scaling → Scaling
  | times x => times x.plain
  | dividedBy x => dividedBy x.plain

/-- Whether the step is a division by zero. -/
def dividesByZero : Scaling → Bool
  | times _ => false
  | dividedBy x => x.isZero

@[simp] theorem dividesByZero_plain (step : Scaling) :
    step.plain.dividesByZero = step.dividesByZero := by
  cases step <;> simp [plain, dividesByZero]

/-- One step in plain form. -/
theorem applyScaling_plain {x : Binary64} {step : Scaling} (h : step.dividesByZero = false) :
    (Tally.applyScaling x.plain step.plain).plain = (Tally.applyScaling x step).plain := by
  cases step with
  | times y => exact Binary64.mul_plain x y
  | dividedBy y => exact Binary64.div_plain h

end Scaling

namespace Token

/-- The token, without the sign of a zero. -/
def plain : Token → Token
  | add x => add x.plain
  | scale step => scale step.plain
  | override x => override x.plain
  | atLeast x => atLeast x.plain
  | atMost x => atMost x.plain

end Token

/-! ## What tokens amount to -/

namespace Tally

/-- Numbers that only differ in the sign of a zero do so after any steps. The induction is on the
steps, which may differ in the same way. -/
theorem plain_foldl_applyScaling_congr {x y : Binary64} {steps steps' : List Scaling}
    (hxy : x.plain = y.plain) (hsteps : steps.map Scaling.plain = steps'.map Scaling.plain)
    (hzero : ∀ step ∈ steps, step.dividesByZero = false) :
    (steps.foldl applyScaling x).plain = (steps'.foldl applyScaling y).plain := by
  induction steps generalizing x y steps' with
  | nil =>
    rw [List.map_nil] at hsteps
    rw [List.map_eq_nil_iff.mp hsteps.symm]
    exact hxy
  | cons step rest ih =>
    cases steps' with
    | nil => cases hsteps
    | cons step' rest' =>
      obtain ⟨hstep, hrest⟩ := List.cons.inj hsteps
      obtain ⟨hzero, hzeros⟩ := List.forall_mem_cons.mp hzero
      -- that a step divides by zero does not depend on the sign of its zero
      have hzero' : step'.dividesByZero = false := by
        rw [← Scaling.dividesByZero_plain, ← hstep, Scaling.dividesByZero_plain, hzero]
      rw [List.foldl_cons, List.foldl_cons]
      refine ih ?_ hrest hzeros
      rw [← Scaling.applyScaling_plain hzero, hxy, hstep, Scaling.applyScaling_plain hzero']

/-- The strictest bound in plain form is that of the numbers in plain form. -/
theorem map_plain_foldl_tighten {stricter : Binary64 → Binary64 → Binary64}
    (hplain : ∀ x y, stricter x.plain y.plain = (stricter x y).plain) (bound : Option Binary64)
    (xs : List Binary64) :
    (xs.foldl (tighten stricter) bound).map Binary64.plain =
      (xs.map Binary64.plain).foldl (tighten stricter) (bound.map Binary64.plain) := by
  induction xs generalizing bound with
  | nil => rfl
  | cons x rest ih =>
    rw [List.foldl_cons, ih, List.map_cons, List.foldl_cons]
    congr 1
    cases bound with
    | none => rfl
    | some b => exact congrArg some (hplain b x).symm

/-- A number brought within a bound that may be missing, in plain form. -/
theorem plain_elim_bound {stricter : Binary64 → Binary64 → Binary64}
    (hplain : ∀ x y, stricter x.plain y.plain = (stricter x y).plain) {x y : Binary64}
    {bound bound' : Option Binary64} (hxy : x.plain = y.plain)
    (hbound : bound.map Binary64.plain = bound'.map Binary64.plain) :
    (bound.elim x (stricter x)).plain = (bound'.elim y (stricter y)).plain := by
  cases bound with
  | none =>
    cases bound' with
    | none => exact hxy
    | some b' => cases hbound
  | some b =>
    cases bound' with
    | none => cases hbound
    | some b' =>
      rw [Option.elim_some, Option.elim_some, ← hplain, ← hplain, hxy,
        Option.some.inj hbound]

/-- The number that is scaled: the last override, or the sum if there is none. -/
def start (t : Tally) : Binary64 := t.override.getD t.total

/-- The number before the bounds. -/
def unbounded (t : Tally) : Binary64 := t.scalings.foldl applyScaling t.start

/-- Bounds in plain form bring numbers that only differ in the sign of a zero to such numbers. -/
theorem plain_result_of_unbounded {t t' : Tally}
    (hunbounded : t.unbounded.plain = t'.unbounded.plain)
    (hatLeast : t.atLeast.map Binary64.plain = t'.atLeast.map Binary64.plain)
    (hatMost : t.atMost.map Binary64.plain = t'.atMost.map Binary64.plain) :
    t.result.plain = t'.result.plain :=
  plain_elim_bound Binary64.min_plain (plain_elim_bound Binary64.max_plain hunbounded hatLeast)
    hatMost

/-- Tallies whose parts only differ in the sign of zeros amount to such numbers. -/
theorem plain_result_congr {t t' : Tally} (hstart : t.start.plain = t'.start.plain)
    (hscalings : t.scalings.map Scaling.plain = t'.scalings.map Scaling.plain)
    (hzero : ∀ step ∈ t.scalings, step.dividesByZero = false)
    (hatLeast : t.atLeast.map Binary64.plain = t'.atLeast.map Binary64.plain)
    (hatMost : t.atMost.map Binary64.plain = t'.atMost.map Binary64.plain) :
    t.result.plain = t'.result.plain :=
  plain_result_of_unbounded (plain_foldl_applyScaling_congr hstart hscalings hzero) hatLeast hatMost

end Tally

end CharacterSheet
