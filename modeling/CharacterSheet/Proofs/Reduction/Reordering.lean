import CharacterSheet.Proofs.Derivation.Reordering
import CharacterSheet.Proofs.Value.SignedZero
import Mathlib.Algebra.Order.BigOperators.Group.List
import Mathlib.Algebra.Order.BigOperators.Group.Multiset
import Mathlib.Data.List.Perm.Subperm

/-!
# Sums in another order

Whether a sum resolves does not hang on the order of the traits, and neither do its bounds, except
that of two zeros the first one stays. But of several overrides the last one counts, and every step
on the way to the bounds is rounded. The sum is the same in every order if no two overrides differ
and whatever comes about on the way is a number.
-/

namespace CharacterSheet

/-! ## Bounds -/

namespace Binary64

/-- In plain form a number is a rational, one of the infinities, or none. -/
theorem plain_cases (x : Binary64) :
    (∃ q, x.plain = finite q) ∨ x.plain = infinite false ∨ x.plain = infinite true ∨
      x.plain = nan := by
  cases x with
  | finite q => exact .inl ⟨q, rfl⟩
  | negZero => exact .inl ⟨0, rfl⟩
  | infinite negative =>
    cases negative with
    | false => exact .inr (.inl rfl)
    | true => exact .inr (.inr (.inl rfl))
  | nan => exact .inr (.inr (.inr rfl))

/-- The larger one of two finite numbers is found in either order. -/
theorem comm_max_finite (p q : Rat) : (finite p).max (finite q) = (finite q).max (finite p) := by
  rw [max_finite, max_finite, max_comm]

/-- The smaller one of two finite numbers is found in either order. -/
theorem comm_min_finite (p q : Rat) : (finite p).min (finite q) = (finite q).min (finite p) := by
  rw [min_finite, min_finite, min_comm]

/-- Up to the sign of a zero, the larger one of two numbers is found in either order. -/
theorem comm_max (x y : Binary64) : (x.max y).plain = (y.max x).plain := by
  rw [← max_plain, ← max_plain]
  rcases plain_cases x with ⟨p, hx⟩ | hx | hx | hx <;>
    rcases plain_cases y with ⟨q, hy⟩ | hy | hy | hy <;> rw [hx, hy]
  case inl.inl => exact comm_max_finite p q
  all_goals rfl

/-- Up to the sign of a zero, the smaller one of two numbers is found in either order. -/
theorem comm_min (x y : Binary64) : (x.min y).plain = (y.min x).plain := by
  rw [← min_plain, ← min_plain]
  rcases plain_cases x with ⟨p, hx⟩ | hx | hx | hx <;>
    rcases plain_cases y with ⟨q, hy⟩ | hy | hy | hy <;> rw [hx, hy]
  case inl.inl => exact comm_min_finite p q
  all_goals rfl

-- a number that is not finite gives way to each other one or makes each other one give way
/-- Two lower bounds may change places, up to the sign of a zero. -/
theorem rightComm_max (x y z : Binary64) : ((x.max y).max z).plain = ((x.max z).max y).plain := by
  simp only [← max_plain]
  rcases plain_cases x with ⟨p, hx⟩ | hx | hx | hx <;>
    rcases plain_cases y with ⟨q, hy⟩ | hy | hy | hy <;>
    rcases plain_cases z with ⟨r, hz⟩ | hz | hz | hz <;> rw [hx, hy, hz]
  case inl.inl.inl => simp only [max_finite, max_right_comm]
  all_goals
    first
    | rfl
    | exact comm_max_finite _ _
    | rw [max_finite]; first | rfl | exact max_finite _ _ | exact (max_finite _ _).symm

/-- Two upper bounds may change places, up to the sign of a zero. -/
theorem rightComm_min (x y z : Binary64) : ((x.min y).min z).plain = ((x.min z).min y).plain := by
  simp only [← min_plain]
  rcases plain_cases x with ⟨p, hx⟩ | hx | hx | hx <;>
    rcases plain_cases y with ⟨q, hy⟩ | hy | hy | hy <;>
    rcases plain_cases z with ⟨r, hz⟩ | hz | hz | hz <;> rw [hx, hy, hz]
  case inl.inl.inl => simp only [min_finite, min_right_comm]
  all_goals
    first
    | rfl
    | exact comm_min_finite _ _
    | rw [min_finite]; first | rfl | exact min_finite _ _ | exact (min_finite _ _).symm

end Binary64

namespace Tally

/-- Bounds that are tightened in another order come to the same, up to the sign of a zero. -/
theorem foldl_tighten_congr {stricter : Binary64 → Binary64 → Binary64}
    (hplain : ∀ x y, stricter x.plain y.plain = (stricter x y).plain)
    (hcomm : ∀ x y, (stricter x y).plain = (stricter y x).plain)
    (hright : ∀ x y z, (stricter (stricter x y) z).plain = (stricter (stricter x z) y).plain)
    {xs ys : List Binary64} (h : xs.Perm ys) :
    (xs.foldl (tighten stricter) none).map Binary64.plain =
      (ys.foldl (tighten stricter) none).map Binary64.plain := by
  have hform : ∀ b x, (stricter b.plain x).plain = (stricter b x).plain := by
    intro b x
    rw [← hplain, ← hplain, Binary64.plain_plain]
  -- steps that take the plain form can be exchanged as they are
  have hsteps : ∀ xs : List Binary64, (xs.foldl (tighten stricter) none).map Binary64.plain =
      xs.foldl (fun bound x => (tighten stricter bound x).map Binary64.plain) none := by
    intro xs
    refine (List.foldl_hom (Option.map Binary64.plain) fun bound x => ?_).symm
    cases bound with
    | none => rfl
    | some b => exact congrArg some (hform b x)
  rw [hsteps, hsteps]
  refine h.foldl_eq' (fun x _ y _ bound => ?_) none
  cases bound with
  | none => exact congrArg some ((hform x y).trans ((hcomm x y).trans (hform y x).symm))
  | some b =>
    exact congrArg some ((hform _ y).trans ((hright b x y).trans (hform _ x).symm))

/-- The bounds are the same in every order. -/
theorem result_congr_of_perm {tokens tokens' : List Token} (h : tokens.Perm tokens')
    (hunbounded : (ofTokens tokens).unbounded.plain = (ofTokens tokens').unbounded.plain) :
    (ofTokens tokens).result.plain = (ofTokens tokens').result.plain :=
  plain_result_of_unbounded hunbounded
    (foldl_tighten_congr Binary64.max_plain Binary64.comm_max Binary64.rightComm_max
      (h.filterMap _))
    (foldl_tighten_congr Binary64.min_plain Binary64.comm_min Binary64.rightComm_min
      (h.filterMap _))

end Tally

/-! ## Exact steps -/

namespace Scaling

/-- The exact factor of the step. -/
def ratio : Scaling → Rat
  | times x => x.rat
  | dividedBy x => x.rat⁻¹

/-- A factor or divisor is applied exactly if the result is a number of the format. -/
theorem applyScaling_exact {x : Binary64} {step : Scaling} (hx : x.isFinite = true)
    (hfinite : step.operand.isFinite = true) (hzero : step.dividesByZero = false)
    (h : Binary64.IsNumber (x.rat * step.ratio)) :
    (Tally.applyScaling x step).plain = .finite (x.rat * step.ratio) := by
  have hround : (Binary64.round (x.rat * step.ratio)).plain = .finite (x.rat * step.ratio) :=
    congrArg Binary64.plain h
  cases step with
  | times y => exact (Binary64.plain_mul_of_isFinite hx hfinite).trans hround
  | dividedBy y =>
    have hdiv := Binary64.plain_div_of_isFinite hx hfinite hzero
    rw [div_eq_mul_inv] at hdiv
    exact hdiv.trans hround

/-- A product is exact as long as its partial products are numbers. -/
theorem foldl_applyScaling_exact {x : Binary64} {steps : List Scaling} (hx : x.isFinite = true)
    (hfinite : ∀ step ∈ steps, step.operand.isFinite = true)
    (hzero : ∀ step ∈ steps, step.dividesByZero = false)
    (hproducts : ∀ front, front <+: steps → Binary64.IsNumber (x.rat * (front.map ratio).prod)) :
    (steps.foldl Tally.applyScaling x).plain = .finite (x.rat * (steps.map ratio).prod) := by
  induction steps generalizing x with
  | nil => simpa using Binary64.plain_of_isFinite hx
  | cons step rest ih =>
    obtain ⟨hstep, hrest⟩ := List.forall_mem_cons.mp hfinite
    obtain ⟨hzero, hzeros⟩ := List.forall_mem_cons.mp hzero
    -- the product so far is a number, since every product of a front of the list is one
    have hexact : Binary64.IsNumber (x.rat * step.ratio) := by
      have hproduct := hproducts [step] (List.cons_prefix_cons.mpr ⟨rfl, List.nil_prefix⟩)
      rwa [List.map_singleton, List.prod_singleton] at hproduct
    have hplain := applyScaling_exact hx hstep hzero hexact
    have hnext : (Tally.applyScaling x step).isFinite = true := by
      rw [← Binary64.isFinite_plain, hplain]
      rfl
    have hrat : (Tally.applyScaling x step).rat = x.rat * step.ratio := by
      rw [← Binary64.rat_plain, hplain]
      rfl
    have hfront : ∀ front, front <+: rest → Binary64.IsNumber
        ((Tally.applyScaling x step).rat * (front.map ratio).prod) := by
      intro front hinit
      have hproduct := hproducts (step :: front) (List.cons_prefix_cons.mpr ⟨rfl, hinit⟩)
      rwa [List.map_cons, List.prod_cons, ← mul_assoc, ← hrat] at hproduct
    rw [List.foldl_cons, ih hnext hrest hzeros hfront, hrat, List.map_cons, List.prod_cons,
      mul_assoc]

end Scaling

/-- What stands at the front of a reordered list stands somewhere in the list, in some order. -/
theorem exists_sublist_of_prefix {α : Type} {xs ys front : List α} (h : xs.Perm ys)
    (hinit : front <+: ys) : ∃ part : List α, part.Sublist xs ∧ part.Perm front := by
  obtain ⟨part, hperm, hsublist⟩ := hinit.sublist.subperm.trans h.symm.subperm
  exact ⟨part, hsublist, hperm⟩

/-- A sum is exact in every order if the sums of all parts are numbers. -/
theorem Binary64.foldl_add_of_perm {xs ys : List Binary64} (h : xs.Perm ys)
    (hfinite : ∀ x ∈ xs, x.isFinite = true)
    (hsums : ∀ part : List Binary64, part.Sublist xs → IsNumber (part.map rat).sum) :
    ys.foldl add 0 = finite (xs.map rat).sum := by
  have hfronts : ∀ front, front <+: ys → IsNumber (0 + (front.map rat).sum) := by
    intro front hinit
    obtain ⟨part, hpart, hfront⟩ := exists_sublist_of_prefix h hinit
    rw [zero_add, ← (hfront.map rat).sum_eq]
    exact hsums part hpart
  have hfold := foldl_add_exact (fun y hy => hfinite y (h.mem_iff.mpr hy)) hfronts
  rw [zero_add, ← (h.map rat).sum_eq] at hfold
  exact hfold

/-- A product is exact in every order if the products with all parts are numbers. -/
theorem Scaling.foldl_applyScaling_of_perm {x : Binary64} {steps steps' : List Scaling}
    (h : steps.Perm steps') (hx : x.isFinite = true)
    (hfinite : ∀ step ∈ steps, step.operand.isFinite = true)
    (hzero : ∀ step ∈ steps, step.dividesByZero = false)
    (hproducts : ∀ part : List Scaling, part.Sublist steps →
      Binary64.IsNumber (x.rat * (part.map ratio).prod)) :
    (steps'.foldl Tally.applyScaling x).plain = .finite (x.rat * (steps.map ratio).prod) := by
  -- a front of the one order is, in some order, a part of the other
  have hfronts : ∀ front, front <+: steps' →
      Binary64.IsNumber (x.rat * (front.map ratio).prod) := by
    intro front hinit
    obtain ⟨part, hpart, hfront⟩ := exists_sublist_of_prefix h hinit
    rw [← (hfront.map ratio).prod_eq]
    exact hproducts part hpart
  rw [foldl_applyScaling_exact hx (fun step hstep => hfinite step (h.mem_iff.mpr hstep))
    (fun step hstep => hzero step (h.mem_iff.mpr hstep)) hfronts, (h.map ratio).prod_eq]

/-- Nothing on the way to the bounds hangs on the order: no two overrides differ; where there is
none, every sum of some of the summands is a number; and unless there is one step at most, every
product of the start with the factors of some of the steps is a number. -/
structure Token.AreExact (tokens : List Token) : Prop where
  overrides : ∀ x ∈ tokens.filterMap override?, ∀ y ∈ tokens.filterMap override?,
    x.plain = y.plain
  sums : tokens.filterMap override? = [] →
    (∀ x ∈ tokens.filterMap addend?, x.isFinite = true) ∧
      ∀ part : List Binary64, part.Sublist (tokens.filterMap addend?) →
        Binary64.IsNumber (part.map Binary64.rat).sum
  products : (tokens.filterMap scaling?).length ≤ 1 ∨
    (Tally.ofTokens tokens).start.isFinite = true ∧
      (∀ step ∈ tokens.filterMap scaling?, step.operand.isFinite = true) ∧
      ∀ part : List Scaling, part.Sublist (tokens.filterMap scaling?) →
        Binary64.IsNumber ((Tally.ofTokens tokens).start.rat * (part.map Scaling.ratio).prod)

/-- Summands that are multiples of a power of two are exact in every order if their absolute values
add up to 53 digits at most, so whole numbers are as long as they add up to less than `2 ^ 53`. -/
theorem Token.areExact_of_onGrid {tokens : List Token} {e : Int} (hlow : -1074 ≤ e)
    (hhigh : e ≤ 971) (hoverride : tokens.filterMap override? = [])
    (hscaling : (tokens.filterMap scaling?).length ≤ 1)
    (hgrid : ∀ x ∈ tokens.filterMap addend?, x.isFinite = true ∧ Binary64.OnGrid e x.rat)
    (hsum : ((tokens.filterMap addend?).map fun x => |x.rat|).sum < 2 ^ (e + 53)) :
    AreExact tokens where
  overrides := by
    rw [hoverride]
    nofun
  sums := by
    refine fun _ => ⟨fun x hx => (hgrid x hx).1, fun part hpart => ?_⟩
    -- every partial sum lies on the grid, and its size is at most that of all summands together
    have hpartGrid : Binary64.OnGrid e (part.map Binary64.rat).sum :=
      Binary64.OnGrid.sum (List.forall_mem_map.mpr fun x hx => (hgrid x (hpart.subset hx)).2)
    have hle : |(part.map Binary64.rat).sum| ≤ (part.map fun x => |x.rat|).sum := by
      have hle := Multiset.abs_sum_le_sum_abs (s := (part.map Binary64.rat : Multiset Rat))
      rwa [Multiset.map_coe, Multiset.sum_coe, Multiset.sum_coe, List.map_map] at hle
    have hpartSum : (part.map fun x => |x.rat|).sum ≤
        ((tokens.filterMap addend?).map fun x => |x.rat|).sum := by
      refine (hpart.map _).sum_le_sum fun y hy => ?_
      obtain ⟨x, -, rfl⟩ := List.mem_map.mp hy
      exact abs_nonneg _
    exact Binary64.isNumber_of_onGrid hpartGrid hlow hhigh
      ((hle.trans hpartSum).trans_lt hsum)
  products := .inl hscaling

namespace Tally

variable {tokens tokens' : List Token} (h : tokens.Perm tokens') (hexact : Token.AreExact tokens)

include h hexact

/-- Reordered tokens start from the same number. -/
theorem start_congr_of_perm : (ofTokens tokens).start.plain = (ofTokens tokens').start.plain := by
  have hperm := h.filterMap Token.override?
  -- without an override the start is the sum, with one it is the last, and all overrides are equal
  by_cases hnone : tokens.filterMap Token.override? = []
  · have hnone' : tokens'.filterMap Token.override? = [] := by
      rw [hnone] at hperm
      exact hperm.nil_eq.symm
    obtain ⟨hfinite, hsums⟩ := hexact.sums hnone
    simp only [start, ofTokens, hnone, hnone', List.getLast?_nil, Option.getD_none]
    rw [Binary64.foldl_add_of_perm (.refl _) hfinite hsums,
      Binary64.foldl_add_of_perm (h.filterMap _) hfinite hsums]
  · have hnone' : tokens'.filterMap Token.override? ≠ [] := by
      intro hempty
      rw [hempty] at hperm
      exact hnone hperm.eq_nil
    have hlast := List.getLast_mem hnone
    have hlast' := hperm.mem_iff.mpr (List.getLast_mem hnone')
    simp only [start, ofTokens, List.getLast?_eq_some_getLast hnone,
      List.getLast?_eq_some_getLast hnone', Option.getD_some]
    exact hexact.overrides _ hlast _ hlast'

/-- What is exact in one order is exact in every order, and comes to the same. -/
theorem unbounded_congr_of_perm
    (hzero : ∀ step ∈ tokens.filterMap Token.scaling?, step.dividesByZero = false) :
    (ofTokens tokens).unbounded.plain = (ofTokens tokens').unbounded.plain := by
  have hstart := start_congr_of_perm h hexact
  have hperm := h.filterMap Token.scaling?
  rcases hexact.products with hlength | ⟨hfinite, hsteps, hproducts⟩
  · -- at most one step stands alone in both orders
    have hsame : tokens.filterMap Token.scaling? = tokens'.filterMap Token.scaling? := by
      rcases hsteps : tokens.filterMap Token.scaling? with _ | ⟨step, _ | ⟨next, rest⟩⟩
      · rw [hsteps] at hperm
        exact hperm.nil_eq
      · rw [hsteps] at hperm
        exact List.singleton_perm.mp hperm
      · simp [hsteps] at hlength
    exact plain_foldl_applyScaling_congr hstart (congrArg _ hsame) hzero
  · -- both orders come to the exact product
    calc (ofTokens tokens).unbounded.plain
      _ = _ := Scaling.foldl_applyScaling_of_perm (.refl _) hfinite hsteps hzero hproducts
      _ = ((tokens'.filterMap Token.scaling?).foldl applyScaling (ofTokens tokens).start).plain :=
        (Scaling.foldl_applyScaling_of_perm hperm hfinite hsteps hzero hproducts).symm
      _ = (ofTokens tokens').unbounded.plain :=
        plain_foldl_applyScaling_congr hstart rfl fun step hstep =>
          hzero step (hperm.mem_iff.mpr hstep)

end Tally

/-! ## Sums -/

/-- No text is read as a division by zero. -/
theorem Token.dividesByZero_of_ofTrimmed {lookup : Lookup} {s : String} {step : Scaling}
    (h : ofTrimmed lookup s = .ok (.scale step)) : step.dividesByZero = false := by
  have hmap : ∀ (make : Binary64 → Token) (r : Except ResolveError Binary64),
      r.map make = .ok (.scale step) → ∃ x, make x = .scale step := by
    intro make r hread
    cases r with
    | error e => cases hread
    | ok x => exact ⟨x, Except.ok.inj hread⟩
  revert h
  rw [ofTrimmed]
  cases Text.after? "*" s with
  | some factor =>
    intro h
    obtain ⟨x, hx⟩ := hmap _ _ h
    cases hx
    rfl
  | none =>
    cases Text.after? "/" s with
    | some divisor =>
      -- the divisor is looked at before the step is made
      cases hread : operand lookup divisor s with
      | error e => simp [hread]
      | ok x =>
        by_cases hx : x.isZero = true
        · simp [hread, hx]
        · simp only [hread, if_neg hx, Except.ok.injEq, scale.injEq]
          rintro rfl
          exact Bool.eq_false_iff.mpr hx
    | none =>
      have hother : ∀ (make : Binary64 → Token) (r : Except ResolveError Binary64),
          (∀ x, make x ≠ .scale step) → r.map make = .ok (.scale step) →
            step.dividesByZero = false := by
        intro make r hmake hread
        obtain ⟨x, hx⟩ := hmap make r hread
        exact absurd hx (hmake x)
      cases Text.after? "=" s with
      | some whole => exact hother _ _ fun x => by simp
      | none =>
        cases Text.after? "min " (Text.lower s) with
        | some bound => exact hother _ _ fun x => by simp
        | none =>
          cases Text.after? "max " (Text.lower s) with
          | some bound => exact hother _ _ fun x => by simp
          | none => exact hother _ _ fun x => by simp

/-- No value is read as a division by zero. -/
theorem Value.dividesByZero_of_mem_tokens {lookup : Lookup} {values : List Value} {step : Scaling}
    (h : step ∈ (tokens lookup values).filterMap Token.scaling?) : step.dividesByZero = false := by
  obtain ⟨token, htoken, hstep⟩ := List.mem_filterMap.mp h
  obtain ⟨v, -, hv⟩ := List.mem_filterMap.mp htoken
  have hscale : token = .scale step := by
    cases token with
    | scale step' => exact congrArg Token.scale (Option.some.inj hstep)
    | _ => cases hstep
  -- only a scaling word gives a scaling, and it is refused where it divides by zero
  have hread : Token.ofValue lookup v = .ok (some (.scale step)) := by
    rw [token?] at hv
    cases hvalue : Token.ofValue lookup v with
    | error e => simp [hvalue] at hv
    | ok read => simp_all
  cases v with
  | text s =>
    simp only [Token.ofValue] at hread
    split at hread
    · cases hread
    · cases hword : Token.ofTrimmed lookup (Text.trim s) with
      | error e => simp [hword, Except.map] at hread
      | ok token =>
        simp only [hword, Except.map, Except.ok.injEq, Option.some.injEq] at hread
        exact Token.dividesByZero_of_ofTrimmed (hread ▸ hword)
  | _ => cases hread

namespace Pool

/-- The tokens of the contributions under a key. -/
def tokens (pool : Pool) (key : String) (filter : Filter) : List Token :=
  Value.tokens pool.lookup ((pool.matching key filter).map (·.2.value))

/-- A sum is the whole number that the values found resolve to. -/
theorem sum_eq (pool : Pool) (key : String) (filter : Filter) :
    pool.sum key filter =
      Value.resolveWhole pool.lookup ((pool.matching key filter).map (·.2.value)) := by
  rw [sum, reduce, Sourced.reduce]
  cases Value.resolveWhole pool.lookup ((pool.matching key filter).map (·.2.value)) <;> rfl

/-- The sum resolves exactly if every contribution can be read. -/
theorem sum_eq_ok_iff (pool : Pool) (key : String) (filter : Filter) (n : Int) :
    pool.sum key filter = .ok n ↔
      (∀ s ∈ pool.matching key filter, s.2.value.IsRead pool.lookup) ∧
        (Tally.ofTokens (pool.tokens key filter)).result.toWhole = n := by
  have hread : (((pool.matching key filter).map (·.2.value)).findSome?
      (Value.error? pool.lookup) = none) ↔
        ∀ s ∈ pool.matching key filter, s.2.value.IsRead pool.lookup := by
    rw [List.findSome?_eq_none_iff, List.forall_mem_map]
    rfl
  rw [sum_eq, Value.resolveWhole, Value.resolve_eq, ← hread, tokens]
  cases ((pool.matching key filter).map (·.2.value)).findSome? (Value.error? pool.lookup) with
  | none => simp [Except.map]
  | some e => simp [Except.map]

/-- Whether a sum resolves does not hang on the order of the traits. If it resolves, then it is the
same in both orders if the number before the bounds is, and so it is in every order if nothing on
the way to this number hangs on the order. -/
theorem sum_of_perm {traits traits' : List Trait} (h : traits.Perm traits') (lookup : Lookup)
    (key : String) (filter : Filter) :
    let pool : Pool := ⟨traits, lookup⟩
    let pool' : Pool := ⟨traits', lookup⟩
    ((∃ n, pool.sum key filter = .ok n) ↔ ∃ n, pool'.sum key filter = .ok n) ∧
    ((Tally.ofTokens (pool.tokens key filter)).unbounded.plain =
        (Tally.ofTokens (pool'.tokens key filter)).unbounded.plain →
      ∀ n, pool.sum key filter = .ok n ↔ pool'.sum key filter = .ok n) ∧
    (Token.AreExact (pool.tokens key filter) →
      ∀ n, pool.sum key filter = .ok n ↔ pool'.sum key filter = .ok n) := by
  intro pool pool'
  -- both pools hold the same contributions, so they read the same tokens in another order
  have hmatching : (pool.matching key filter).Perm (pool'.matching key filter) :=
    perm_matching h lookup key filter
  have htokens : (pool.tokens key filter).Perm (pool'.tokens key filter) :=
    (hmatching.map _).filterMap _
  have hread : (∀ s ∈ pool.matching key filter, s.2.value.IsRead lookup) ↔
      ∀ s ∈ pool'.matching key filter, s.2.value.IsRead lookup := by
    simp only [hmatching.mem_iff]
  have hsum : (Tally.ofTokens (pool.tokens key filter)).unbounded.plain =
      (Tally.ofTokens (pool'.tokens key filter)).unbounded.plain →
        ∀ n, pool.sum key filter = .ok n ↔ pool'.sum key filter = .ok n := by
    intro hunbounded n
    rw [sum_eq_ok_iff, sum_eq_ok_iff, hread, ← Binary64.toWhole_plain,
      Tally.result_congr_of_perm htokens hunbounded, Binary64.toWhole_plain]
  refine ⟨?_, hsum, fun hexact => hsum (Tally.unbounded_congr_of_perm htokens hexact ?_)⟩
  · simp only [sum_eq_ok_iff, exists_and_left, exists_eq', and_true]
    exact hread
  · exact fun step hstep => Value.dividesByZero_of_mem_tokens hstep

/-- A feat with one contribution. -/
def bonus (id : TraitId) (value : String) : Trait where
  id
  name := id
  kind := .feat
  contributions := [⟨"bonus", .text value, none, false⟩]

/-- Halves, two steps that scale, and a bound. -/
theorem sum_of_perm_halves :
    let traits := [bonus "a" "0.5", bonus "b" "*2", bonus "c" "min 1", bonus "d" "1.5",
      bonus "e" "/4"]
    traits.Perm traits.reverse ∧
      Token.AreExact ((Pool.mk traits noVariables).tokens "bonus" .all) ∧
      (Pool.mk traits noVariables).sum "bonus" .all = .ok 1 ∧
      (Pool.mk traits.reverse noVariables).sum "bonus" .all = .ok 1 := by
  intro traits
  have hperm : traits.Perm traits.reverse := (List.reverse_perm traits).symm
  have hexact : Token.AreExact ((Pool.mk traits noVariables).tokens "bonus" .all) := by
    have hsums : ∀ part ∈ (((Pool.mk traits noVariables).tokens "bonus" .all).filterMap
        Token.addend?).sublists, Binary64.IsNumber (part.map Binary64.rat).sum := by
      decide +kernel
    have hproducts : ∀ part ∈ (((Pool.mk traits noVariables).tokens "bonus" .all).filterMap
        Token.scaling?).sublists, Binary64.IsNumber
          ((Tally.ofTokens ((Pool.mk traits noVariables).tokens "bonus" .all)).start.rat *
            (part.map Scaling.ratio).prod) := by
      decide +kernel
    exact ⟨by decide +kernel,
      fun _ => ⟨by decide +kernel, fun part hpart => hsums part (List.mem_sublists.mpr hpart)⟩,
      .inr ⟨by decide +kernel, by decide +kernel,
        fun part hpart => hproducts part (List.mem_sublists.mpr hpart)⟩⟩
  have hsum : (Pool.mk traits noVariables).sum "bonus" .all = .ok 1 := by decide +kernel
  obtain ⟨-, -, hevery⟩ := sum_of_perm hperm noVariables "bonus" .all
  exact ⟨hperm, hexact, hsum, (hevery hexact 1).mp hsum⟩

/-- Of two overrides the last one counts, and fractions are rounded after each addition. -/
theorem sum_ne_of_perm :
    let overrides := [bonus "a" "=2", bonus "b" "=3"]
    let fractions := [bonus "a" "0.1", bonus "b" "0.2", bonus "c" "0.7"]
    overrides.Perm overrides.reverse ∧
      (Pool.mk overrides noVariables).sum "bonus" .all = .ok 3 ∧
      (Pool.mk overrides.reverse noVariables).sum "bonus" .all = .ok 2 ∧
    fractions.Perm fractions.reverse ∧
      (Pool.mk fractions noVariables).sum "bonus" .all = .ok 1 ∧
      (Pool.mk fractions.reverse noVariables).sum "bonus" .all = .ok 0 := by
  intro overrides fractions
  exact ⟨(List.reverse_perm overrides).symm, by decide +kernel, by decide +kernel,
    (List.reverse_perm fractions).symm, by decide +kernel, by decide +kernel⟩

end Pool

end CharacterSheet
