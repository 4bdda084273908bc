import CharacterSheet.Binary64.Basic
import Mathlib.Algebra.BigOperators.Group.List.Lemmas
import Mathlib.Algebra.Order.Ring.Rat
import Mathlib.Data.Rat.Floor
import Mathlib.Tactic.Linarith
import Mathlib.Tactic.Positivity
import Mathlib.Tactic.NormNum

/-!
# Rounding

The last binary digit of a rounded number depends on how large the number is. Rounding keeps the
order all the same: numbers of different size lie on different sides of a power of two, and both
lie on a grid that has this power on it. Every integer of at most 53 binary digits is a number.

Which zero a computation comes to depends on its steps. So what is said of numbers here is said of
their plain form, in which both zeros are one.
-/

namespace CharacterSheet.Binary64

/-! ## The nearest integer -/

/-- The nearest integer is not below the floor. -/
theorem floor_le_nearestInt (q : Rat) : q.floor ≤ nearestInt q := by
  simp only [nearestInt]
  split_ifs <;> omega

/-- The nearest integer is the floor or the integer above it. -/
theorem nearestInt_le_floor_add_one (q : Rat) : nearestInt q ≤ q.floor + 1 := by
  simp only [nearestInt]
  split_ifs <;> omega

/-- An integer is the nearest one to itself. -/
theorem nearestInt_intCast (n : Int) : nearestInt n = n := by
  simp [nearestInt, Rat.floor_intCast]

/-- A larger number has no smaller nearest integer. -/
theorem nearestInt_mono {p q : Rat} (h : p ≤ q) : nearestInt p ≤ nearestInt q := by
  rcases (Rat.floor_monotone h).lt_or_eq with hlt | heq
  · calc nearestInt p
      _ ≤ p.floor + 1 := nearestInt_le_floor_add_one p
      _ ≤ q.floor := hlt
      _ ≤ nearestInt q := floor_le_nearestInt q
  · simp only [nearestInt, heq]
    split_ifs <;> first | omega | linarith

/-! ## Size -/

/-- Both ways to write the absolute value of a rational number agree. -/
theorem abs_eq (q : Rat) : q.abs = |q| := by
  rw [Rat.abs]
  split
  · next h => exact (abs_of_nonneg h).symm
  · next h => exact (abs_of_neg (not_le.mp h)).symm

/-- Powers of two are positive. -/
theorem two_zpow_pos (e : Int) : (0 : Rat) < 2 ^ e := zpow_pos two_pos e

/-- Powers of two grow with their exponents. -/
theorem two_zpow_le {d e : Int} (h : d ≤ e) : (2 : Rat) ^ d ≤ 2 ^ e :=
  zpow_le_zpow_right₀ one_le_two h

/-- Powers of two grow strictly with their exponents. -/
theorem two_zpow_lt {d e : Int} (h : d < e) : (2 : Rat) ^ d < 2 ^ e :=
  zpow_lt_zpow_right₀ one_lt_two h

/-- A natural number lies between the two powers of two that its logarithm tells. -/
theorem natCast_between {n : Nat} (h : n ≠ 0) :
    (2 : Rat) ^ (n.log2 : Int) ≤ n ∧ (n : Rat) < 2 ^ (n.log2 + 1 : Int) := by
  have hle : 2 ^ n.log2 ≤ n := Nat.log2_self_le h
  have hlt : n < 2 ^ (n.log2 + 1) := Nat.lt_log2_self
  exact ⟨by exact_mod_cast hle, by exact_mod_cast hlt⟩

/-- The logarithms of numerator and denominator give the size up to one binary digit. -/
theorem abs_between {q : Rat} (h : q ≠ 0) :
    (2 : Rat) ^ ((q.num.natAbs.log2 : Int) - q.den.log2 - 1) ≤ |q| ∧
      |q| < (2 : Rat) ^ ((q.num.natAbs.log2 : Int) - q.den.log2 + 1) := by
  obtain ⟨hnum, hnum'⟩ := natCast_between (Int.natAbs_ne_zero.mpr (Rat.num_ne_zero.mpr h))
  obtain ⟨hden, hden'⟩ := natCast_between q.den_nz
  have hpos : (0 : Rat) < q.den := Nat.cast_pos.mpr q.den_pos
  -- numerator and denominator lie between powers of two, and `|q|` is their quotient
  have habs : |q| * q.den = q.num.natAbs := by
    rw [Nat.cast_natAbs, Int.cast_abs, ← Rat.mul_den_eq_num, abs_mul, Nat.abs_cast]
  generalize (q.num.natAbs.log2 : Int) = a at hnum hnum' ⊢
  generalize (q.den.log2 : Int) = b at hden hden' ⊢
  constructor
  · refine le_of_mul_le_mul_right ?_ hpos
    calc (2 : Rat) ^ (a - b - 1) * q.den
      _ ≤ 2 ^ (a - b - 1) * 2 ^ (b + 1) :=
        mul_le_mul_of_nonneg_left hden'.le (two_zpow_pos _).le
      _ = 2 ^ a := by
        rw [← zpow_add₀ two_ne_zero]
        congr 1
        omega
      _ ≤ |q| * q.den := habs ▸ hnum
  · refine lt_of_mul_lt_mul_right ?_ hpos.le
    calc |q| * q.den
      _ < 2 ^ (a + 1) := habs ▸ hnum'
      _ = 2 ^ (a - b + 1) * 2 ^ b := by
        rw [← zpow_add₀ two_ne_zero]
        congr 1
        omega
      _ ≤ 2 ^ (a - b + 1) * q.den := mul_le_mul_of_nonneg_left hden (two_zpow_pos _).le

/-- The binary exponent tells between which powers of two the absolute value lies. -/
theorem binaryExponent_spec {q : Rat} (h : q ≠ 0) :
    (2 : Rat) ^ binaryExponent q ≤ |q| ∧ |q| < (2 : Rat) ^ (binaryExponent q + 1) := by
  obtain ⟨hlow, hhigh⟩ := abs_between h
  simp only [binaryExponent, abs_eq]
  split
  · next hlt => exact ⟨hlow, by rwa [sub_add_cancel]⟩
  · next hle => exact ⟨not_lt.mp hle, hhigh⟩

/-- A number is smaller than the power of two above its binary exponent, even if it is zero. -/
theorem abs_lt_two_zpow (q : Rat) : |q| < (2 : Rat) ^ (binaryExponent q + 1) := by
  by_cases h : q = 0
  · rw [h, abs_zero]
    exact two_zpow_pos _
  · exact (binaryExponent_spec h).2

/-- A number whose last digit has a higher place than that of another one is larger than some power
of two that the other one is below. -/
theorem abs_apart {p q : Rat} (hq : q ≠ 0) (h : unitExponent p < unitExponent q) :
    |p| < (2 : Rat) ^ binaryExponent q ∧ (2 : Rat) ^ binaryExponent q ≤ |q| ∧
      unitExponent q ≤ binaryExponent q := by
  have hexponent : binaryExponent p + 1 ≤ binaryExponent q ∧
      unitExponent q ≤ binaryExponent q := by
    simp only [unitExponent] at h ⊢
    omega
  exact ⟨(abs_lt_two_zpow p).trans_le (two_zpow_le hexponent.1), (binaryExponent_spec hq).1,
    hexponent.2⟩

/-! ## Grids -/

/-- The number is a multiple of a power of two. -/
def OnGrid (e : Int) (q : Rat) : Prop := ∃ m : Int, q = m * (2 : Rat) ^ e

/-- Zero is on every grid. -/
theorem onGrid_zero (e : Int) : OnGrid e 0 := ⟨0, by simp⟩

/-- The integers are the grid of the exponent zero. -/
theorem onGrid_intCast (n : Int) : OnGrid 0 n := ⟨n, by simp⟩

/-- The unit of a grid is on it. -/
theorem onGrid_two_zpow (e : Int) : OnGrid e (2 ^ e) := ⟨1, by simp⟩

/-- A grid is symmetric. -/
theorem OnGrid.neg {e : Int} {q : Rat} (h : OnGrid e q) : OnGrid e (-q) := by
  obtain ⟨m, rfl⟩ := h
  exact ⟨-m, by push_cast; ring⟩

/-- A grid is closed under sums. -/
theorem OnGrid.add {e : Int} {p q : Rat} (hp : OnGrid e p) (hq : OnGrid e q) :
    OnGrid e (p + q) := by
  obtain ⟨m, rfl⟩ := hp
  obtain ⟨n, rfl⟩ := hq
  exact ⟨m + n, by push_cast; ring⟩

/-- The sum of any numbers on a grid is on the grid. -/
theorem OnGrid.sum {e : Int} {qs : List Rat} (h : ∀ q ∈ qs, OnGrid e q) : OnGrid e qs.sum := by
  induction qs with
  | nil => exact onGrid_zero e
  | cons q rest ih =>
    obtain ⟨hq, hrest⟩ := List.forall_mem_cons.mp h
    rw [List.sum_cons]
    exact hq.add (ih hrest)

/-- What is on a grid is on every finer one. -/
theorem OnGrid.finer {d e : Int} {q : Rat} (h : OnGrid e q) (hde : d ≤ e) : OnGrid d q := by
  obtain ⟨m, rfl⟩ := h
  obtain ⟨k, rfl⟩ := Int.le.dest hde
  refine ⟨m * 2 ^ k, ?_⟩
  rw [zpow_add₀ two_ne_zero, zpow_natCast]
  push_cast
  ring

/-! ## Both zeros as one -/

/-- The number, without the sign of a zero. -/
def plain : Binary64 → Binary64
  | negZero => finite 0
  | x => x

/-- A number that is not written as a zero with a sign is plain already. -/
@[simp] theorem plain_finite (q : Rat) : (finite q).plain = finite q := rfl

/-- Both zeros have the same plain form. -/
@[simp] theorem plain_zero (negative : Bool) : (zero negative).plain = finite 0 := by
  cases negative <;> rfl

/-- The plain form is plain. -/
@[simp] theorem plain_plain (x : Binary64) : x.plain.plain = x.plain := by
  cases x <;> rfl

/-- The plain form is finite if the number is. -/
@[simp] theorem isFinite_plain (x : Binary64) : x.plain.isFinite = x.isFinite := by
  cases x <;> rfl

/-- The plain form stands for the same rational number. -/
@[simp] theorem rat_plain (x : Binary64) : x.plain.rat = x.rat := by
  cases x <;> rfl

/-- The plain form is zero if the number is. -/
@[simp] theorem isZero_plain (x : Binary64) : x.plain.isZero = x.isZero := by
  rw [isZero, isFinite_plain, rat_plain, isZero]

/-- What the sheet shows of a number does not tell one zero from the other. -/
@[simp] theorem toWhole_plain (x : Binary64) : x.plain.toWhole = x.toWhole := by
  cases x <;> rfl

/-- In plain form a finite number is the rational that it stands for. -/
theorem plain_of_isFinite {x : Binary64} (h : x.isFinite = true) : x.plain = finite x.rat := by
  cases x with
  | finite q => rfl
  | negZero => rfl
  | infinite negative => cases h
  | nan => cases h

/-! ## Rounding -/

/-- A number brought to the digits that a number of its size can have. -/
def rounded (q : Rat) : Rat := nearestInt (q / 2 ^ unitExponent q) * 2 ^ unitExponent q

/-- Rounding gives a finite number below the bound of the format, with the sign of what was rounded
if that becomes zero, and an infinity from the bound on. -/
theorem round_eq (q : Rat) : round q =
    if |rounded q| < 2 ^ (1024 : Int) then
      if rounded q = 0 then zero (q < 0) else finite (rounded q)
    else infinite (q < 0) := by
  rw [← abs_eq]
  rfl

/-- Up to the sign of a zero, rounding is rounding to the grid, with an infinity from the bound of
the format on. -/
theorem plain_round (q : Rat) : (round q).plain =
    if |rounded q| < 2 ^ (1024 : Int) then finite (rounded q) else infinite (q < 0) := by
  rw [round_eq]
  split
  · split
    · next hzero => rw [plain_zero, hzero]
    · rfl
  · rfl

variable {p q y : Rat}

/-- Rounding does not pass a number on the grid from below. -/
theorem rounded_le (hy : OnGrid (unitExponent q) y) (h : q ≤ y) : rounded q ≤ y := by
  obtain ⟨m, rfl⟩ := hy
  have hunit := two_zpow_pos (unitExponent q)
  have hnearest : nearestInt (q / 2 ^ unitExponent q) ≤ m := by
    rw [← nearestInt_intCast m]
    exact nearestInt_mono ((div_le_iff₀ hunit).mpr h)
  exact mul_le_mul_of_nonneg_right (Int.cast_le.mpr hnearest) hunit.le

/-- Rounding does not pass a number on the grid from above. -/
theorem le_rounded (hy : OnGrid (unitExponent q) y) (h : y ≤ q) : y ≤ rounded q := by
  obtain ⟨m, rfl⟩ := hy
  have hunit := two_zpow_pos (unitExponent q)
  have hnearest : m ≤ nearestInt (q / 2 ^ unitExponent q) := by
    rw [← nearestInt_intCast m]
    exact nearestInt_mono ((le_div_iff₀ hunit).mpr h)
  exact mul_le_mul_of_nonneg_right (Int.cast_le.mpr hnearest) hunit.le

/-- Between two numbers whose last digits have different places lies one that can have the digits of
both: a power of two that is the size of the one with the larger size. -/
theorem exists_onGrid_between (h : p ≤ q) (hunit : unitExponent p ≠ unitExponent q) :
    ∃ y, p ≤ y ∧ y ≤ q ∧ OnGrid (unitExponent p) y ∧ OnGrid (unitExponent q) y := by
  rcases hunit.lt_or_gt with hunit | hunit
  · by_cases hq : q = 0
    · exact ⟨0, hq ▸ h, hq.ge, onGrid_zero _, onGrid_zero _⟩
    obtain ⟨hp, hlarge, hgrid⟩ := abs_apart hq hunit
    -- the larger one of the two is above zero, or its absolute value would not be the larger one
    have hpos : 0 ≤ q := by
      by_contra hneg
      have hneg := not_le.mp hneg
      rw [abs_of_neg hneg] at hlarge
      rw [abs_of_neg (h.trans_lt hneg)] at hp
      linarith
    rw [abs_of_nonneg hpos] at hlarge
    have hpower := (onGrid_two_zpow (binaryExponent q)).finer hgrid
    exact ⟨2 ^ binaryExponent q, (le_abs_self p).trans hp.le, hlarge, hpower.finer hunit.le, hpower⟩
  · by_cases hp : p = 0
    · exact ⟨0, hp.le, hp ▸ h, onGrid_zero _, onGrid_zero _⟩
    obtain ⟨hq, hlarge, hgrid⟩ := abs_apart hp hunit
    have hneg : p ≤ 0 := by
      by_contra hpos
      have hpos := not_le.mp hpos
      rw [abs_of_pos hpos] at hlarge
      rw [abs_of_pos (hpos.trans_le h)] at hq
      linarith
    rw [abs_of_nonpos hneg] at hlarge
    have hpower := ((onGrid_two_zpow (binaryExponent p)).finer hgrid).neg
    exact ⟨-2 ^ binaryExponent p, by linarith, by linarith [neg_abs_le q], hpower,
      hpower.finer hunit.le⟩

/-- Rounding keeps the order. -/
theorem rounded_mono (h : p ≤ q) : rounded p ≤ rounded q := by
  by_cases hunit : unitExponent p = unitExponent q
  · have hpos := two_zpow_pos (unitExponent q)
    rw [rounded, rounded, hunit]
    exact mul_le_mul_of_nonneg_right
      (Int.cast_le.mpr (nearestInt_mono (div_le_div_of_nonneg_right h hpos.le))) hpos.le
  · obtain ⟨y, hp, hq, hgrid, hgrid'⟩ := exists_onGrid_between h hunit
    exact (rounded_le hgrid hp).trans (le_rounded hgrid' hq)

/-- A number of at most 53 digits is rounded to itself. -/
theorem rounded_eq_self {e : Int} (hgrid : OnGrid e q) (he : -1074 ≤ e)
    (hq : |q| < 2 ^ (e + 53)) : rounded q = q := by
  have hunit : OnGrid (unitExponent q) q := by
    by_cases hzero : q = 0
    · rw [hzero]
      exact onGrid_zero _
    · have hexponent : (2 : Rat) ^ binaryExponent q < 2 ^ (e + 53) :=
        (binaryExponent_spec hzero).1.trans_lt hq
      have hlt := (zpow_lt_zpow_iff_right₀ one_lt_two).mp hexponent
      refine hgrid.finer ?_
      simp only [unitExponent]
      omega
  exact le_antisymm (rounded_le hunit le_rfl) (le_rounded hunit le_rfl)

/-- The powers of two that the format can tell apart are rounded to themselves. -/
theorem rounded_two_zpow {e : Int} (he : -1074 ≤ e) :
    rounded (2 ^ e) = 2 ^ e ∧ rounded (-2 ^ e) = -2 ^ e := by
  have habs : |(2 : Rat) ^ e| < 2 ^ (e + 53) := by
    rw [abs_of_pos (two_zpow_pos e)]
    exact two_zpow_lt (by omega)
  exact ⟨rounded_eq_self (onGrid_two_zpow e) he habs,
    rounded_eq_self (onGrid_two_zpow e).neg he (by rwa [abs_neg])⟩

/-- A number is rounded to a finite one exactly if that stays below the bound of the format. -/
theorem isFinite_round_iff : (round q).isFinite = true ↔ |rounded q| < 2 ^ (1024 : Int) := by
  rw [← isFinite_plain, plain_round]
  split <;> simp_all [isFinite]

/-- If it is finite, the rounded number is the nearest one on the grid, up to the sign of a zero. -/
theorem plain_round_of_isFinite (h : (round q).isFinite = true) :
    (round q).plain = finite (rounded q) := by
  rw [plain_round, if_pos (isFinite_round_iff.mp h)]

/-! ## Bounds -/

/-- Finite numbers compare as rational ones do. -/
theorem lt_finite (p q : Rat) : (finite p).lt (finite q) = decide (p < q) := rfl

/-- The larger one of two finite numbers is the one of the rational numbers. -/
theorem max_finite (p q : Rat) : (finite p).max (finite q) = finite (Max.max p q) := by
  simp only [max, lt_finite, decide_eq_true_eq]
  rcases lt_or_ge p q with h | h
  · rw [if_pos h, max_eq_right h.le]
  · rw [if_neg (not_lt.mpr h), max_eq_left h]

/-- The smaller one of two finite numbers is the one of the rational numbers. -/
theorem min_finite (p q : Rat) : (finite p).min (finite q) = finite (Min.min p q) := by
  simp only [min, lt_finite, decide_eq_true_eq]
  rcases lt_or_ge q p with h | h
  · rw [if_pos h, min_eq_right h.le]
  · rw [if_neg (not_lt.mpr h), min_eq_left h]

/-- The sign of a zero does not matter to comparisons. -/
theorem lt_plain (x y : Binary64) : x.plain.lt y.plain = x.lt y := by
  cases x <;> cases y <;> rfl

/-- Of two numbers the larger one is found by one comparison. -/
theorem max_eq_ite {x y : Binary64} (hx : x ≠ nan) (hy : y ≠ nan) :
    x.max y = if x.lt y then y else x := by
  cases x <;> cases y <;> first | rfl | exact absurd rfl hx

/-- Of two numbers the smaller one is found by one comparison. -/
theorem min_eq_ite {x y : Binary64} (hx : x ≠ nan) (hy : y ≠ nan) :
    x.min y = if y.lt x then y else x := by
  cases x <;> cases y <;> first | rfl | exact absurd rfl hx

/-- Only what is not a number has a plain form that is not one. -/
theorem plain_eq_nan_iff {x : Binary64} : x.plain = nan ↔ x = nan := by
  cases x <;> simp [plain]

/-- The sign of a zero matters to the larger one of two numbers only as a sign of a zero. -/
theorem max_plain (x y : Binary64) : x.plain.max y.plain = (x.max y).plain := by
  by_cases hx : x = nan
  · subst hx
    rfl
  by_cases hy : y = nan
  · subst hy
    cases x <;> rfl
  rw [max_eq_ite (mt plain_eq_nan_iff.mp hx) (mt plain_eq_nan_iff.mp hy), lt_plain,
    max_eq_ite hx hy, apply_ite plain]

/-- The sign of a zero matters to the smaller one of two numbers only as a sign of a zero. -/
theorem min_plain (x y : Binary64) : x.plain.min y.plain = (x.min y).plain := by
  by_cases hx : x = nan
  · subst hx
    rfl
  by_cases hy : y = nan
  · subst hy
    cases x <;> rfl
  rw [min_eq_ite (mt plain_eq_nan_iff.mp hx) (mt plain_eq_nan_iff.mp hy), lt_plain,
    min_eq_ite hx hy, apply_ite plain]

/-- The larger one of two rounded numbers is the larger number rounded. -/
theorem plain_max_round (hp : (round p).isFinite = true) (hq : (round q).isFinite = true) :
    ((round p).max (round q)).plain = (round (Max.max p q)).plain := by
  have hmono : rounded (Max.max p q) = Max.max (rounded p) (rounded q) :=
    Monotone.map_max fun _ _ => rounded_mono
  have hfinite : (round (Max.max p q)).isFinite = true := by
    rcases max_choice p q with h | h <;> rwa [h]
  rw [← max_plain, plain_round_of_isFinite hp, plain_round_of_isFinite hq, max_finite,
    plain_round_of_isFinite hfinite, hmono]

/-- The smaller one of two rounded numbers is the smaller number rounded. -/
theorem plain_min_round (hp : (round p).isFinite = true) (hq : (round q).isFinite = true) :
    ((round p).min (round q)).plain = (round (Min.min p q)).plain := by
  have hmono : rounded (Min.min p q) = Min.min (rounded p) (rounded q) :=
    Monotone.map_min fun _ _ => rounded_mono
  have hfinite : (round (Min.min p q)).isFinite = true := by
    rcases min_choice p q with h | h <;> rwa [h]
  rw [← min_plain, plain_round_of_isFinite hp, plain_round_of_isFinite hq, min_finite,
    plain_round_of_isFinite hfinite, hmono]

/-! ## Products -/

/-- Zero is rounded to itself. -/
theorem rounded_zero : rounded 0 = 0 := by
  rw [rounded, zero_div, ← Int.cast_zero (R := Rat), nearestInt_intCast, Int.cast_zero, zero_mul]

/-- The sign of a zero aside, a rational is rounded alike with any sign. -/
theorem plain_roundSigned (negative : Bool) (q : Rat) :
    (roundSigned negative q).plain = (round q).plain := by
  rw [roundSigned]
  split
  · next h => rw [plain_zero, h, plain_round, rounded_zero, abs_zero, if_pos (two_zpow_pos _)]
  · rfl

/-- Up to the sign of a zero, a product of finite numbers is the rational product rounded. -/
theorem plain_mul_of_isFinite {x y : Binary64} (hx : x.isFinite = true) (hy : y.isFinite = true) :
    (x.mul y).plain = (round (x.rat * y.rat)).plain := by
  cases x <;> cases y <;> first | cases hx; done | cases hy; done | exact plain_roundSigned _ _

/-- Up to the sign of a zero, a quotient of finite numbers is the rational quotient rounded, if the
divisor is not zero. -/
theorem plain_div_of_isFinite {x y : Binary64} (hx : x.isFinite = true) (hy : y.isFinite = true)
    (hzero : y.isZero = false) : (x.div y).plain = (round (x.rat / y.rat)).plain := by
  have hdiv : x.div y = roundSigned (x.isNegative != y.isNegative) (x.rat / y.rat) := by
    cases x <;> cases y <;>
      first | cases hx; done | cases hy; done | (simp only [div, hzero]; rfl)
  rw [hdiv, plain_roundSigned]

/-- Which zeros the factors are makes a difference for the sign of a zero only. -/
theorem mul_plain (x y : Binary64) : (x.plain.mul y.plain).plain = (x.mul y).plain := by
  by_cases h : x.isFinite = true ∧ y.isFinite = true
  · rw [plain_mul_of_isFinite h.1 h.2, plain_mul_of_isFinite (by simp [h.1]) (by simp [h.2]),
      rat_plain, rat_plain]
  · cases x <;> cases y <;> first | rfl | exact absurd ⟨rfl, rfl⟩ h

/-- Where the divisor is not zero, the signs of zeros change a quotient only in the sign of a zero.
-/
theorem div_plain {x y : Binary64} (hzero : y.isZero = false) :
    (x.plain.div y.plain).plain = (x.div y).plain := by
  by_cases h : x.isFinite = true ∧ y.isFinite = true
  · rw [plain_div_of_isFinite h.1 h.2 hzero,
      plain_div_of_isFinite (by simp [h.1]) (by simp [h.2]) (by simp [hzero]), rat_plain, rat_plain]
  · cases x <;> cases y <;>
      first
      | rfl
      | exact absurd ⟨rfl, rfl⟩ h
      | exact (plain_zero _).trans (plain_zero _).symm
      | cases hzero

/-- What is beyond the range of numbers is not rounded into it. -/
theorem abs_lt_of_isFinite_round (h : (round q).isFinite = true) : |q| < 2 ^ (1024 : Int) := by
  obtain ⟨hpower, hnegative⟩ := rounded_two_zpow (e := 1024) (by decide)
  obtain ⟨hlow, hhigh⟩ := abs_lt.mp (isFinite_round_iff.mp h)
  refine abs_lt.mpr ⟨?_, ?_⟩
  · by_contra hle
    have hmono := rounded_mono (not_lt.mp hle)
    rw [hnegative] at hmono
    linarith
  · by_contra hle
    have hmono := rounded_mono (not_lt.mp hle)
    rw [hpower] at hmono
    linarith

/-! ## Numbers -/

/-- The rational is a double-precision number. -/
def IsNumber (q : Rat) : Prop := round q = finite q

instance (q : Rat) : Decidable (IsNumber q) := inferInstanceAs (Decidable (_ = _))

/-- Multiples of a power of two are numbers up to 53 digits, if the range of exponents has room for
all these digits. -/
theorem isNumber_of_onGrid {e : Int} (hgrid : OnGrid e q) (hlow : -1074 ≤ e) (hhigh : e ≤ 971)
    (hq : |q| < 2 ^ (e + 53)) : IsNumber q := by
  rw [IsNumber, round_eq, rounded_eq_self hgrid hlow hq,
    if_pos (hq.trans_le (two_zpow_le (by omega)))]
  split
  · next hzero => simp [hzero, zero]
  · rfl

/-- A sum is exact if it is a number of the format. -/
theorem add_exact {a : Rat} {x : Binary64} (hx : x.isFinite = true)
    (hsum : IsNumber (a + x.rat)) : (finite a).add x = finite (a + x.rat) := by
  cases x with
  | finite q => exact hsum
  | negZero => exact congrArg finite (add_zero a).symm
  | infinite negative => cases hx
  | nan => cases hx

/-- A sum is exact as long as its partial sums are numbers. -/
theorem foldl_add_exact {a : Rat} {xs : List Binary64} (hfinite : ∀ x ∈ xs, x.isFinite = true)
    (hsums : ∀ front, front <+: xs → IsNumber (a + (front.map rat).sum)) :
    xs.foldl add (finite a) = finite (a + (xs.map rat).sum) := by
  induction xs generalizing a with
  | nil => simp
  | cons x rest ih =>
    obtain ⟨hx, hrest⟩ := List.forall_mem_cons.mp hfinite
    -- the sum so far is a number, since every sum of a front of the list is one
    have hsum : IsNumber (a + x.rat) := by
      have hsum := hsums [x] (List.cons_prefix_cons.mpr ⟨rfl, List.nil_prefix⟩)
      rwa [List.map_singleton, List.sum_singleton] at hsum
    have hfront : ∀ front, front <+: rest → IsNumber (a + x.rat + (front.map rat).sum) := by
      intro front hinit
      have hsum := hsums (x :: front) (List.cons_prefix_cons.mpr ⟨rfl, hinit⟩)
      rwa [List.map_cons, List.sum_cons, ← add_assoc] at hsum
    rw [List.foldl_cons, add_exact hx hsum, ih hrest hfront, List.map_cons, List.sum_cons,
      add_assoc]

/-! ## Integers -/

/-- Integers of up to 53 bits are numbers of the format. -/
theorem ofInt_eq_finite {n : Int} (h : |n| < 2 ^ 53) : ofInt n = finite n := by
  have habs : |(n : Rat)| < 2 ^ (0 + 53 : Int) := by exact_mod_cast h
  exact isNumber_of_onGrid (onGrid_intCast n) (by decide) (by decide) habs

/-- An integer that is a number of the format is finite there. -/
theorem isFinite_ofInt {n : Int} (h : ofInt n = finite n) : (ofInt n).isFinite = true := by
  rw [h]
  rfl

/-- The product of two integers of the format is their product rounded. -/
theorem plain_mul_ofInt {m n : Int} (hm : ofInt m = finite m) (hn : ofInt n = finite n) :
    ((ofInt m).mul (ofInt n)).plain = (ofInt (m * n)).plain := by
  rw [hm, hn, plain_mul_of_isFinite rfl rfl, ofInt, Int.cast_mul]
  rfl

/-- The larger one of two integers, each rounded, is the larger integer rounded. -/
theorem plain_max_ofInt {m n : Int} (hm : (ofInt m).isFinite = true)
    (hn : (ofInt n).isFinite = true) :
    ((ofInt m).max (ofInt n)).plain = (ofInt (Max.max m n)).plain := by
  rw [ofInt, ofInt, plain_max_round hm hn, ofInt, Int.cast_max]

/-- The smaller one of two integers, each rounded, is the smaller integer rounded. -/
theorem plain_min_ofInt {m n : Int} (hm : (ofInt m).isFinite = true)
    (hn : (ofInt n).isFinite = true) :
    ((ofInt m).min (ofInt n)).plain = (ofInt (Min.min m n)).plain := by
  rw [ofInt, ofInt, plain_min_round hm hn, ofInt, Int.cast_min]

/-- A whole number of 32 bits is shown as it is. -/
theorem toWhole_ofInt {n : Int} (hlow : -2147483648 ≤ n) (hhigh : n ≤ 2147483647) :
    (ofInt n).toWhole = n := by
  have hwhole : (finite n).toWhole =
      Max.max (-2147483648) (Min.min 2147483647 (n : Rat).floor) := rfl
  rw [ofInt_eq_finite (abs_lt.mpr (by omega)), hwhole, Rat.floor_intCast]
  omega

/-- Integers that are rounded to finite numbers have at most 1024 bits. -/
theorem natAbs_lt_of_isFinite_ofInt {n : Int} (h : (ofInt n).isFinite = true) :
    n.natAbs < 2 ^ 1024 := by
  have habs : |(n : Rat)| < 2 ^ (1024 : Int) := abs_lt_of_isFinite_round h
  rw [← Int.cast_abs, Int.abs_eq_natAbs, Int.cast_natCast] at habs
  refine (Nat.cast_lt (α := Rat)).mp ?_
  rwa [Nat.cast_pow, Nat.cast_ofNat, ← zpow_natCast]

end CharacterSheet.Binary64
