import CharacterSheet.Proofs.Value.Classes
import CharacterSheet.Proofs.Value.IntegerTexts
import Mathlib.Algebra.BigOperators.Ring.Finset
import Mathlib.Data.List.Forall2

/-!
# Whole numbers

A sum of whole numbers comes out as the integers do, as long as it can be followed exactly: the last
override, or the sum if there is none, times all factors, raised to the largest lower bound and
lowered to the smallest upper bound. Bounds may be as large as numbers get.
-/

namespace CharacterSheet

/-! ## Integers with their directives -/

/-- Integers with the directives before them, in order. -/
abbrev Parts := List (Directive × Int)

namespace Parts

/-- The integers behind a directive. -/
def operands (parts : Parts) (d : Directive) : List Int :=
  parts.filterMap fun p => if p.1 = d then some p.2 else none

/-- The last override, or the sum if there is none. -/
def start (parts : Parts) : Int :=
  (parts.operands .override).getLast?.getD (parts.operands .plus).sum

/-- The start times all factors. -/
def scaled (parts : Parts) : Int := parts.start * (parts.operands .times).prod

/-- The scaled start, raised to the largest lower bound. -/
def raised (parts : Parts) : Int :=
  (parts.operands .atLeast).max?.elim parts.scaled (max parts.scaled)

/-- What the parts amount to: the raised number, lowered to the smallest upper bound. -/
def amount (parts : Parts) : Int :=
  (parts.operands .atMost).min?.elim parts.raised (min parts.raised)

/-- Every partial sum and every partial product has at most 53 binary digits, and the amount fits 32
bits. -/
structure IsModerate (parts : Parts) : Prop where
  sums : ∀ front, front <+: parts.operands .plus → |front.sum| < 2 ^ 53
  products : ∀ front, front <+: parts.operands .times → |parts.start * front.prod| < 2 ^ 53
  amount : -2147483648 ≤ parts.amount ∧ parts.amount ≤ 2147483647

variable {parts : Parts}

/-- The parts are moderate if no sum and no product on the way has more than 53 bits, and the amount
has 32. -/
theorem isModerate_of_inits (hsums : ∀ front ∈ (parts.operands .plus).inits, |front.sum| < 2 ^ 53)
    (hproducts : ∀ front ∈ (parts.operands .times).inits, |parts.start * front.prod| < 2 ^ 53)
    (hamount : -2147483648 ≤ parts.amount ∧ parts.amount ≤ 2147483647) : parts.IsModerate :=
  ⟨fun front h => hsums front ((List.mem_inits _ _).mpr h),
    fun front h => hproducts front ((List.mem_inits _ _).mpr h), hamount⟩

/-- The amount is at most each upper bound. -/
theorem amount_le {n : Int} (h : n ∈ parts.operands .atMost) : parts.amount ≤ n := by
  rw [amount]
  cases hleast : (parts.operands .atMost).min? with
  | none =>
    rw [List.min?_eq_none_iff.mp hleast] at h
    cases h
  | some least => exact (min_le_right _ _).trans ((List.min?_eq_some_iff.mp hleast).2 n h)

/-- The raised amount is at least each lower bound. -/
theorem le_raised {n : Int} (h : n ∈ parts.operands .atLeast) : n ≤ parts.raised := by
  rw [raised]
  cases hlargest : (parts.operands .atLeast).max? with
  | none =>
    rw [List.max?_eq_none_iff.mp hlargest] at h
    cases h
  | some largest =>
    exact ((List.max?_eq_some_iff.mp hlargest).2 n h).trans (le_max_right _ _)

/-- The amount is at least each lower bound that no upper bound undercuts. -/
theorem le_amount {n : Int} (h : n ∈ parts.operands .atLeast)
    (hle : ∀ m ∈ parts.operands .atMost, n ≤ m) : n ≤ parts.amount := by
  rw [amount]
  cases hleast : (parts.operands .atMost).min? with
  | none => exact le_raised h
  | some least => exact le_min (le_raised h) (hle least (List.min?_eq_some_iff.mp hleast).1)

end Parts

/-! ## Exact steps -/

namespace Binary64

/-- A sum of integers is exact as long as the partial sums have 53 digits. -/
theorem foldl_add_ofInt {xs : List Binary64} {ns : List Int}
    (hxs : xs.map plain = ns.map fun n : Int => finite n)
    (hsums : ∀ front, front <+: ns → |front.sum| < 2 ^ 53) :
    xs.foldl add 0 = ofInt ns.sum := by
  have hfinite : ∀ x ∈ xs, x.isFinite = true := by
    intro x hx
    obtain ⟨n, -, hn⟩ := List.mem_map.mp (hxs ▸ List.mem_map_of_mem hx)
    rw [← isFinite_plain, ← hn]
    rfl
  have hrats : xs.map rat = ns.map fun n : Int => (n : Rat) := by
    have hmap := congrArg (List.map rat) hxs
    rw [List.map_map, List.map_map] at hmap
    rw [← List.map_congr_left fun x _ => rat_plain x]
    exact hmap
  -- partial sums of the summands are whole numbers below `2 ^ 53`, so each of them is exact
  have hcast : ∀ front : List Int,
      (0 : Rat) + (front.map fun n : Int => (n : Rat)).sum = (front.sum : Int) := by
    intro front
    rw [zero_add, Int.cast_list_sum]
  have hexact := foldl_add_exact (a := 0) hfinite (by
    intro front hinit
    obtain ⟨k, rfl⟩ : ∃ k, front = xs.take k := ⟨_, List.prefix_iff_eq_take.mp hinit⟩
    rw [List.map_take, hrats, ← List.map_take, hcast]
    exact ofInt_eq_finite (hsums _ (List.take_prefix k ns)))
  rw [hrats, hcast] at hexact
  rw [ofInt_eq_finite (hsums ns List.prefix_rfl)]
  exact hexact

/-- A product is exact as long as its partial products are. A factor that is too large for that has
only zero before it. -/
theorem foldl_scale_ofInt {a : Int} {ns : List Int}
    (hfactors : ∀ n ∈ ns, (ofInt n).isFinite = true)
    (hproducts : ∀ front, front <+: ns → |a * front.prod| < 2 ^ 53) :
    ((ns.map fun n => Scaling.times (ofInt n)).foldl Tally.applyScaling (ofInt a)).plain =
      (ofInt (a * ns.prod)).plain := by
  induction ns generalizing a with
  | nil => simp
  | cons n rest ih =>
    obtain ⟨hn, hrest⟩ := List.forall_mem_cons.mp hfactors
    have ha : ofInt a = finite a := ofInt_eq_finite (by simpa using hproducts [] List.nil_prefix)
    have hstep : ((ofInt a).mul (ofInt n)).plain = (ofInt (a * n)).plain := by
      -- a product that is zero may have lost its sign, so the two are compared without it
      by_cases hzero : a = 0
      · subst hzero
        rw [plain_mul_of_isFinite (isFinite_ofInt ha) hn, ha]
        simp [rat, ofInt]
      · have hproduct : |a * n| < 2 ^ 53 := by
          simpa using hproducts [n] (List.cons_prefix_cons.mpr ⟨rfl, List.nil_prefix⟩)
        refine plain_mul_ofInt ha (ofInt_eq_finite (lt_of_le_of_lt ?_ hproduct))
        rw [abs_mul]
        exact le_mul_of_one_le_left (abs_nonneg n) (Int.one_le_abs hzero)
    have hfront : ∀ front, front <+: rest → |a * n * front.prod| < 2 ^ 53 := by
      intro front hinit
      have hproduct := hproducts (n :: front) (List.cons_prefix_cons.mpr ⟨rfl, hinit⟩)
      rwa [List.prod_cons, ← mul_assoc] at hproduct
    rw [List.map_cons, List.foldl_cons, Tally.applyScaling, List.prod_cons, ← mul_assoc,
      ← ih hrest hfront]
    exact Tally.plain_foldl_applyScaling_congr hstep rfl (List.forall_mem_map.mpr fun _ _ => rfl)

/-- An operation that takes the stricter one of two integers, and the strictest one of a list. -/
structure IsBound (stricter : Binary64 → Binary64 → Binary64) (stricter' : Int → Int → Int)
    (strictest? : List Int → Option Int) : Prop where
  plain : ∀ x y : Binary64, stricter x.plain y.plain = (stricter x y).plain
  ofInt : ∀ m n, (ofInt m).isFinite = true → (Binary64.ofInt n).isFinite = true →
    (stricter (Binary64.ofInt m) (Binary64.ofInt n)).plain = (Binary64.ofInt (stricter' m n)).plain
  choice : ∀ m n, stricter' m n = m ∨ stricter' m n = n
  nil : strictest? [] = none
  cons : ∀ x rest, strictest? (x :: rest) = some (rest.foldl stricter' x)

/-- Lower bounds come together as their maximum. -/
theorem isBound_max : IsBound max Max.max List.max? :=
  ⟨max_plain, fun _ _ => plain_max_ofInt, max_choice, rfl, fun _ _ => rfl⟩

/-- Upper bounds come together as their minimum. -/
theorem isBound_min : IsBound min Min.min List.min? :=
  ⟨min_plain, fun _ _ => plain_min_ofInt, min_choice, rfl, fun _ _ => rfl⟩

namespace IsBound

variable {stricter : Binary64 → Binary64 → Binary64} {stricter' : Int → Int → Int}
  {strictest? : List Int → Option Int} (h : IsBound stricter stricter' strictest?)

include h

/-- The stricter one of two finite bounds is finite. -/
theorem isFinite {m n : Int} (hm : (Binary64.ofInt m).isFinite = true)
    (hn : (Binary64.ofInt n).isFinite = true) :
    (Binary64.ofInt (stricter' m n)).isFinite = true := by
  rcases h.choice m n with heq | heq
  · rwa [heq]
  · rwa [heq]

/-- Several bounds come together as the strictest one. -/
theorem foldl_tighten {m : Int} {ns : List Int} (hm : (Binary64.ofInt m).isFinite = true)
    (hns : ∀ n ∈ ns, (Binary64.ofInt n).isFinite = true) :
    (ns.map fun n => (Binary64.ofInt n).plain).foldl (Tally.tighten stricter)
        (some (Binary64.ofInt m).plain) = some (Binary64.ofInt (ns.foldl stricter' m)).plain ∧
      (Binary64.ofInt (ns.foldl stricter' m)).isFinite = true := by
  induction ns generalizing m with
  | nil => exact ⟨rfl, hm⟩
  | cons n rest ih =>
    obtain ⟨hn, hrest⟩ := List.forall_mem_cons.mp hns
    have hstep : Tally.tighten stricter (some (Binary64.ofInt m).plain) (Binary64.ofInt n).plain =
        some (Binary64.ofInt (stricter' m n)).plain := by
      rw [Tally.tighten, Option.elim_some, h.plain, h.ofInt m n hm hn]
    rw [List.map_cons, List.foldl_cons, List.foldl_cons, hstep]
    exact ih (h.isFinite hm hn) hrest

/-- A number brought within bounds is the integer brought within the strictest one. -/
theorem elim_foldl_tighten {x : Binary64} {xs : List Binary64} {a : Int} {ns : List Int}
    (hx : x.plain = (Binary64.ofInt a).plain)
    (hxs : xs.map Binary64.plain = ns.map fun n => (Binary64.ofInt n).plain)
    (ha : (Binary64.ofInt a).isFinite = true)
    (hns : ∀ n ∈ ns, (Binary64.ofInt n).isFinite = true) :
    ((xs.foldl (Tally.tighten stricter) none).elim x (stricter x)).plain =
        (Binary64.ofInt ((strictest? ns).elim a (stricter' a))).plain ∧
      (Binary64.ofInt ((strictest? ns).elim a (stricter' a))).isFinite = true := by
  -- the strictest bound is found among the plain numbers, and then used on the number itself
  have hfold : (xs.foldl (Tally.tighten stricter) none).map Binary64.plain =
      (ns.map fun n => (Binary64.ofInt n).plain).foldl (Tally.tighten stricter) none := by
    rw [Tally.map_plain_foldl_tighten h.plain, hxs]
    rfl
  cases ns with
  | nil =>
    rw [Option.map_eq_none_iff.mp hfold, h.nil]
    exact ⟨hx, ha⟩
  | cons n rest =>
    obtain ⟨hn, hrest⟩ := List.forall_mem_cons.mp hns
    obtain ⟨hbest, hfinite⟩ := h.foldl_tighten hn hrest
    obtain ⟨y, hy, hplain⟩ := Option.map_eq_some_iff.mp (hfold.trans hbest)
    rw [hy, h.cons, Option.elim_some, Option.elim_some, ← h.plain, hx, hplain, h.plain,
      h.ofInt a _ ha hfinite]
    exact ⟨rfl, h.isFinite ha hfinite⟩

end IsBound

end Binary64

/-! ## The tokens -/

namespace Parts

/-- The tokens that take the integers as numbers. -/
def tokens (parts : Parts) : List Token := parts.map fun p => p.1.token (Binary64.ofInt p.2)

/-- The members of a class are those of its directive, up to the signs of zeros. -/
theorem filterMap_tokens {α : Type} (class? : Token → Option α) (form : α → α) (d : Directive)
    (member : Binary64 → α)
    (hform : ∀ token, class? (Token.plain token) = (class? token).map form)
    (hclass : ∀ d' x, d'.keepsWhole = true →
      class? (d'.token x) = if d' = d then some (member x) else none)
    {parts : Parts} (hparts : ∀ p ∈ parts, p.1.keepsWhole = true) {tokens : List Token}
    (htokens : tokens.map Token.plain = parts.tokens.map Token.plain) :
    (tokens.filterMap class?).map form =
      (parts.operands d).map fun n => form (member (Binary64.ofInt n)) := by
  have hplain : ∀ tokens : List Token, (tokens.filterMap class?).map form =
      (tokens.map Token.plain).filterMap class? := by
    intro tokens
    rw [List.map_filterMap, List.filterMap_map]
    exact List.filterMap_congr fun token _ => (hform token).symm
  -- by induction on the parts, without the tokens they were read from
  rw [hplain, htokens, ← hplain]
  clear htokens
  induction parts with
  | nil => rfl
  | cons p rest ih =>
    obtain ⟨hp, hrest⟩ := List.forall_mem_cons.mp hparts
    have hrest := ih hrest
    rw [Parts.tokens, List.map_cons, List.filterMap_cons, hclass _ _ hp, ← Parts.tokens, operands,
      List.filterMap_cons]
    rw [operands] at hrest
    by_cases hd : p.1 = d
    · simp [hd, hrest]
    · simp [hd, hrest]

variable {parts : Parts} {tokens : List Token}

/-- The operands of finite parts are finite. -/
theorem isFinite_of_mem_operands (hfinite : ∀ p ∈ parts, (Binary64.ofInt p.2).isFinite = true)
    {d : Directive} {n : Int} (h : n ∈ parts.operands d) : (Binary64.ofInt n).isFinite = true := by
  obtain ⟨p, hp, hn⟩ := List.mem_filterMap.mp h
  split at hn
  · cases hn
    exact hfinite p hp
  · cases hn

/-- Tokens that take the integers as numbers, up to the signs of zeros, amount to what the integers
do. -/
theorem plain_result_ofTokens (hparts : ∀ p ∈ parts, p.1.keepsWhole = true)
    (hfinite : ∀ p ∈ parts, (Binary64.ofInt p.2).isFinite = true) (hmoderate : parts.IsModerate)
    (hsummands : parts.operands .override = [] →
      ∀ n ∈ parts.operands .plus, Binary64.ofInt n = .finite n)
    (htokens : tokens.map Token.plain = parts.tokens.map Token.plain) :
    (Tally.ofTokens tokens).result.plain = (Binary64.ofInt parts.amount).plain := by
  have haddends := filterMap_tokens Token.addend? Binary64.plain .plus id
    (fun token => by cases token <;> rfl)
    (fun d _ h => by cases d <;> first | rfl | cases h) hparts htokens
  have hscalings := filterMap_tokens Token.scaling? Scaling.plain .times Scaling.times
    (fun token => by cases token <;> rfl)
    (fun d _ h => by cases d <;> first | rfl | cases h) hparts htokens
  have hoverrides := filterMap_tokens Token.override? Binary64.plain .override id
    (fun token => by cases token <;> rfl) (fun d _ _ => by cases d <;> rfl) hparts htokens
  have hatLeast := filterMap_tokens Token.atLeast? Binary64.plain .atLeast id
    (fun token => by cases token <;> rfl) (fun d _ _ => by cases d <;> rfl) hparts htokens
  have hatMost := filterMap_tokens Token.atMost? Binary64.plain .atMost id
    (fun token => by cases token <;> rfl) (fun d _ _ => by cases d <;> rfl) hparts htokens
  have hoperands : ∀ d, ∀ n ∈ parts.operands d, (Binary64.ofInt n).isFinite = true :=
    fun _ _ => isFinite_of_mem_operands hfinite
  -- the last override, or the sum if there is none
  have hstart : (Tally.ofTokens tokens).start.plain = (Binary64.ofInt parts.start).plain := by
    have hlast := congrArg List.getLast? hoverrides
    rw [List.getLast?_map, List.getLast?_map] at hlast
    rw [start, Tally.start, Tally.ofTokens]
    cases hnumber : (parts.operands .override).getLast? with
    | some n =>
      rw [hnumber] at hlast
      obtain ⟨x, hx, hplain⟩ := Option.map_eq_some_iff.mp hlast
      rw [hx]
      exact hplain
    | none =>
      rw [hnumber] at hlast
      rw [Option.map_eq_none_iff.mp hlast]
      have hexact : ∀ n ∈ parts.operands .plus, (Binary64.ofInt n).plain = .finite n := by
        intro n hn
        rw [hsummands (List.getLast?_eq_none_iff.mp hnumber) n hn, Binary64.plain_finite]
      exact congrArg Binary64.plain (Binary64.foldl_add_ofInt
        (haddends.trans (List.map_congr_left hexact)) hmoderate.sums)
  -- the factors, one after the other
  have hscaled : (Tally.ofTokens tokens).unbounded.plain = (Binary64.ofInt parts.scaled).plain := by
    refine Eq.trans ?_ (Binary64.foldl_scale_ofInt (hoperands .times) hmoderate.products)
    refine (Tally.plain_foldl_applyScaling_congr hstart.symm ?_ ?_).symm
    · rw [List.map_map]
      exact hscalings.symm
    · exact List.forall_mem_map.mpr fun _ _ => rfl
  have hfits : |parts.scaled| < 2 ^ 53 := hmoderate.products _ List.prefix_rfl
  obtain ⟨hraised, hfinite⟩ := Binary64.isBound_max.elim_foldl_tighten hscaled hatLeast
    (Binary64.isFinite_ofInt (Binary64.ofInt_eq_finite hfits)) (hoperands .atLeast)
  exact (Binary64.isBound_min.elim_foldl_tighten hraised hatMost hfinite (hoperands .atMost)).1

end Parts

/-! ## Values -/

namespace Value

variable (lookup : Lookup) {values : List Value} {parts : List (Option (Directive × Int))}

/-- No part of whole values asks for rounding. -/
theorem keepsWhole_of_isWhole (h : List.Forall₂ IsWhole values parts) :
    ∀ p ∈ parts.reduceOption, p.1.keepsWhole = true := by
  induction h with
  | nil => nofun
  | cons hv _ ih =>
    cases hv with
    | null => exact ih
    | number _ _ => exact List.forall_mem_cons.mpr ⟨rfl, ih⟩
    | text hd _ _ => exact List.forall_mem_cons.mpr ⟨hd, ih⟩

/-- Whole numbers have the tokens that take them as numbers, up to the signs of zeros. -/
theorem tokens_of_isWhole (h : List.Forall₂ IsWhole values parts)
    (hfinite : ∀ p ∈ parts.reduceOption, (Binary64.ofInt p.2).isFinite = true) :
    (∀ v ∈ values, v.IsRead lookup) ∧
      (tokens lookup values).map Token.plain =
        (Parts.tokens parts.reduceOption).map Token.plain := by
  induction h with
  | nil => exact ⟨nofun, rfl⟩
  | @cons v part values parts hv _ ih =>
    have hpart : ∀ p ∈ part, (Binary64.ofInt p.2).isFinite = true := by
      rintro p rfl
      exact hfinite p List.mem_cons_self
    have hrest : ∀ p ∈ parts.reduceOption, (Binary64.ofInt p.2).isFinite = true := by
      intro p hp
      cases part with
      | none => exact hfinite p hp
      | some first => exact hfinite p (List.mem_cons_of_mem _ hp)
    have hvalue := ofValue_of_isWhole lookup hv hpart
    obtain ⟨hread, htokens⟩ := ih hrest
    -- reading cannot fail here, since the part says what is read
    cases htoken : Token.ofValue lookup v with
    | error e =>
      rw [htoken] at hvalue
      cases hvalue
    | ok token =>
      rw [htoken] at hvalue
      have hplain : token.map Token.plain = part.map _ := Except.ok.inj hvalue
      refine ⟨List.forall_mem_cons.mpr ⟨?_, hread⟩, ?_⟩
      · rw [IsRead, error?, htoken]
      · rw [tokens, List.filterMap_cons, token?, htoken, ← tokens]
        cases token with
        | none =>
          cases part with
          | none => exact htokens
          | some p => cases hplain
        | some token =>
          cases part with
          | none => cases hplain
          | some p => exact List.cons_eq_cons.mpr ⟨Option.some.inj hplain, htokens⟩

/-- Whole numbers resolve to what they amount to as integers, given that partial sums and products
stay below 53 binary digits. What has to be a number itself are the summands, where they count; any
other integer only has to be in the range of numbers. So the result is not above any upper bound,
and not below a lower bound that no upper bound is below. -/
theorem resolveWhole_eq_amount (h : List.Forall₂ IsWhole values parts)
    (hmoderate : Parts.IsModerate parts.reduceOption)
    (hfinite : ∀ p ∈ parts.reduceOption, (Binary64.ofInt p.2).isFinite = true)
    (hsummands : Parts.operands parts.reduceOption .override = [] →
      ∀ n ∈ Parts.operands parts.reduceOption .plus, Binary64.ofInt n = .finite n) :
    resolveWhole lookup values = .ok (Parts.amount parts.reduceOption) ∧
    (∀ n ∈ Parts.operands parts.reduceOption .atMost, Parts.amount parts.reduceOption ≤ n) ∧
    ∀ n ∈ Parts.operands parts.reduceOption .atLeast,
      (∀ m ∈ Parts.operands parts.reduceOption .atMost, n ≤ m) →
        n ≤ Parts.amount parts.reduceOption := by
  refine ⟨?_, fun _ => Parts.amount_le, fun _ => Parts.le_amount⟩
  obtain ⟨hread, htokens⟩ := tokens_of_isWhole lookup h hfinite
  have hresult := Parts.plain_result_ofTokens (keepsWhole_of_isWhole h) hfinite hmoderate hsummands
    htokens
  rw [resolveWhole, resolve_of_isRead lookup hread]
  have hwhole : (Tally.ofTokens (tokens lookup values)).result.toWhole =
      Parts.amount parts.reduceOption := by
    rw [← Binary64.toWhole_plain, hresult, Binary64.toWhole_plain,
      Binary64.toWhole_ofInt hmoderate.amount.1 hmoderate.amount.2]
  exact congrArg Except.ok hwhole

/-- A lower bound behind a factor, and an upper bound that no number comes near. -/
theorem resolveWhole_eq_amount_raised :
    let values : List Value := [.number (.finite 4), .text " +3", .null, .text "* 2",
      .text "MIN 20", .text "max 9007199254740993"]
    let parts : List (Option (Directive × Int)) := [some (.plus, 4), some (.plus, 3), none,
      some (.times, 2), some (.atLeast, 20), some (.atMost, 9007199254740993)]
    List.Forall₂ IsWhole values parts ∧ Parts.IsModerate parts.reduceOption ∧
      resolveWhole noVariables values = .ok 20 := by
  intro values parts
  have h : List.Forall₂ IsWhole values parts := by
    have hplus : Decimal.integer? (Text.trimChars "+3".toList) = some 3 := by decide +kernel
    have htimes : Decimal.integer? (Text.trimChars " 2".toList) = some 2 := by decide +kernel
    have hmin : Decimal.integer? (Text.trimChars "20".toList) = some 20 := by decide +kernel
    have hmax : Decimal.integer? (Text.trimChars "9007199254740993".toList) =
        some 9007199254740993 := by decide +kernel
    exact .cons (.number rfl (by decide +kernel)) <| .cons (.text rfl (by decide +kernel) hplus) <|
      .cons .null <| .cons (.text rfl (by decide +kernel) htimes) <|
      .cons (.text rfl (by decide +kernel) hmin) <|
      .cons (.text rfl (by decide +kernel) hmax) .nil
  have hmoderate : Parts.IsModerate parts.reduceOption :=
    Parts.isModerate_of_inits (by decide +kernel) (by decide +kernel) (by decide +kernel)
  obtain ⟨hresolve, -⟩ := resolveWhole_eq_amount noVariables h hmoderate (by decide +kernel)
    fun _ => by decide +kernel
  exact ⟨h, hmoderate, hresolve⟩

/-- An upper bound beyond the range of numbers. -/
def farBound : String := Directive.atMost.written (String.ofList ('1' :: List.replicate 400 '0'))

/-- The far bound is written as a whole number. -/
theorem isWhole_farBound : IsWhole (.text farBound) (some (.atMost, 10 ^ 400)) := by
  have hlist : farBound.toList = 'm' :: 'a' :: 'x' :: ' ' :: '1' :: List.replicate 400 '0' := by
    rw [farBound, Directive.written, Directive.sign, String.toList_append, String.toList_ofList,
      String.toList_ofList]
    simp only [List.cons_append, List.nil_append]
  have hsmall : ∀ c ∈ farBound.toList, Text.IsSmall c := by
    have hall : ∀ c ∈ ['m', 'a', 'x', ' ', '1', '0'], Text.IsSmall c := by decide
    intro c hc
    refine hall c ?_
    rw [hlist] at hc
    simp only [List.mem_cons, List.mem_replicate] at hc
    rcases hc with rfl | rfl | rfl | rfl | rfl | ⟨-, rfl⟩ <;> decide
  have htrim : Text.trim farBound = farBound := by
    have hchars : Text.trimChars farBound.toList = farBound.toList := by
      rw [hlist]
      decide +kernel
    rw [Text.trim, hchars, String.ofList_toList]
  have hlower : Text.lower farBound = farBound := by
    have hchars : Text.lowerChars farBound.toList = farBound.toList :=
      Text.lowerFrom_of_isSmall hsmall
    rw [Text.lower, hchars, String.ofList_toList]
  have hdigits : Decimal.integer? (Text.trimChars
      (String.ofList ('1' :: List.replicate 400 '0')).toList) = some (10 ^ 400) := by
    rw [String.toList_ofList]
    decide +kernel
  refine .text rfl ?_ hdigits
  rw [htrim, hlower]
  rfl

/-- The far bound is refused. -/
theorem resolveWhole_farBound :
    resolveWhole noVariables [.text "5", .text farBound] =
      .error (.malformedDirective (Text.trim farBound)) := by
  have hfinite : ¬ (Binary64.ofInt (10 ^ 400)).isFinite = true := by decide +kernel
  have hfive : error? noVariables (.text "5") = none := by decide +kernel
  have herror : error? noVariables (.text farBound) =
      some (.malformedDirective (Text.trim farBound)) := by
    have hvalue := ofValue_text_of_isWhole noVariables isWhole_farBound
    rw [if_neg hfinite, Directive.refusal, if_neg (by decide)] at hvalue
    rw [error?_eq_some_iff]
    cases htoken : Token.ofValue noVariables (.text farBound) with
    | error e => rw [htoken] at hvalue; exact hvalue
    | ok token => rw [htoken] at hvalue; cases hvalue
  have hresolve : resolve noVariables [.text "5", .text farBound] =
      .error (.malformedDirective (Text.trim farBound)) := by
    rw [resolve_eq_error_iff, List.findSome?_eq_some_iff]
    exact ⟨[.text "5"], .text farBound, [], rfl, herror, List.forall_mem_singleton.mpr hfive⟩
  rw [resolveWhole, hresolve, Except.map]

/-- A summand of 54 digits is rounded even where all partial sums have fewer, and an upper bound
beyond the range of numbers is none at all. -/
theorem resolveWhole_ne_amount :
    let values : List Value := [.text "-9007199254740991", .text "18014398509481981",
      .text "-9007199254740990"]
    let parts : Parts := [(.plus, -9007199254740991), (.plus, 18014398509481981),
      (.plus, -9007199254740990)]
    let bounded : Parts := [(.plus, 5), (.atMost, 10 ^ 400)]
    (List.Forall₂ IsWhole values (parts.map some) ∧ parts.IsModerate ∧ parts.amount = 0 ∧
      resolveWhole noVariables values = .ok (-1)) ∧
    List.Forall₂ IsWhole [.text "5", .text farBound] (bounded.map some) ∧ bounded.IsModerate ∧
      bounded.amount = 5 ∧
      resolveWhole noVariables [.text "5", .text farBound] =
        .error (.malformedDirective (Text.trim farBound)) := by
  intro values parts bounded
  have hwhole : List.Forall₂ IsWhole values (parts.map some) := by
    have hfirst : Decimal.integer? (Text.trimChars "-9007199254740991".toList) =
        some (-9007199254740991) := by decide +kernel
    have hsecond : Decimal.integer? (Text.trimChars "18014398509481981".toList) =
        some 18014398509481981 := by decide +kernel
    have hthird : Decimal.integer? (Text.trimChars "-9007199254740990".toList) =
        some (-9007199254740990) := by decide +kernel
    exact .cons (.text rfl (by decide +kernel) hfirst) <|
      .cons (.text rfl (by decide +kernel) hsecond) <|
      .cons (.text rfl (by decide +kernel) hthird) .nil
  have hfive : IsWhole (.text "5") (some (.plus, 5)) := by
    have hdigits : Decimal.integer? (Text.trimChars "5".toList) = some 5 := by decide +kernel
    exact .text rfl (by decide +kernel) hdigits
  refine ⟨⟨hwhole, ?_, by decide +kernel, by decide +kernel⟩,
    .cons hfive (.cons isWhole_farBound .nil), ?_, by decide +kernel, resolveWhole_farBound⟩
  · exact Parts.isModerate_of_inits (by decide +kernel) (by decide +kernel) (by decide +kernel)
  · exact Parts.isModerate_of_inits (by decide +kernel) (by decide +kernel) (by decide +kernel)

end Value

end CharacterSheet
