import CharacterSheet.Derivation.Basic
import Mathlib.Data.List.Forall2
import Std.Data.String.ToInt

/-!
# A common change of all attack rolls

When the melee, ranged and finesse bonuses of a wielder change by the same number, so does every
strike, and nothing else of it: attack rolls depend on these bonuses through sums and a maximum, and
damage does not depend on them. A sum that wraps around is changed by the number all the same, up to
wrapping around; a maximum is only where neither of its sides does.
-/

namespace CharacterSheet

variable (d : Int)

/-- The attack bonuses with a number added to each that goes into a roll. -/
def Offense.shifted (o : Offense) : Offense :=
  { o with
    melee := word (o.melee + d), ranged := word (o.ranged + d), finesse := word (o.finesse + d) }

/-- The wielder with a number added to its attack rolls. -/
def Wielder.shifted (w : Wielder) : Wielder := { w with offense := w.offense.shifted d }

/-- There is room for a number in the two bonuses of which a wielder with Weapon Finesse takes the
better one: neither wraps around when the number is added. -/
def Wielder.HasRoom (w : Wielder) : Prop :=
  w.hasFinesse = true → IsWord (w.offense.melee + d) ∧ IsWord (w.offense.finesse + d)

instance (w : Wielder) : Decidable (w.HasRoom d) := inferInstanceAs (Decidable (_ → _))

/-- The strike with a number added to its attack roll. -/
def Strike.shifted (s : Strike) : Strike := { s with bonus := word (s.bonus + d) }

/-! ## Formulas -/

namespace Formula

/-- A positive number is written behind a plus. -/
theorem signed_of_pos {n : Int} (h : 0 < n) : signed n = "+" ++ n.repr := by
  rw [signed, if_neg (by omega), if_pos h]
  rfl

/-- A negative number brings its sign along. -/
theorem signed_of_neg {n : Int} (h : n < 0) : signed n = n.repr := by
  rw [signed, if_neg (by omega), if_neg (by omega)]
  rfl

/-- The first character tells the sign. -/
theorem head?_signed (n : Int) :
    (signed n).toList.head? = if n < 0 then some '-' else if n = 0 then none else some '+' := by
  split
  · next h =>
    rw [signed_of_neg h, Int.repr_eq_if, if_neg (by omega)]
    simp
  split
  · next h => rw [h]; rfl
  · rw [signed_of_pos (by omega)]
    simp

/-- The number can be read off the text. -/
theorem signed_injective {m n : Int} (h : signed m = signed n) : m = n := by
  have hhead := head?_signed m
  rw [h, head?_signed n] at hhead
  rcases Int.lt_trichotomy m 0 with hm | rfl | hm
  · have hn : n < 0 := by grind
    rw [signed_of_neg hm, signed_of_neg hn] at h
    exact Int.repr_injective h
  · grind
  · have hn : 0 < n := by grind
    rw [signed_of_pos hm, signed_of_pos hn] at h
    exact Int.repr_injective (by simpa using h)

/-- Formulas of different attack rolls are different texts. -/
theorem toHit_injective {m n : Int} (h : toHit m = toHit n) : m = n :=
  signed_injective (by simpa [toHit] using h)

end Formula

/-! ## Strikes -/

namespace Wielder

variable (w : Wielder) (rules : CombatRules)

/-- The attack bonuses of a shifted wielder are shifted. -/
@[simp] theorem offense_shifted : (w.shifted d).offense = w.offense.shifted d := rfl

/-- A shifted wielder has the same size. -/
@[simp] theorem size_shifted : (w.shifted d).size = w.size := rfl

/-- A shifted wielder has the same feats. -/
@[simp] theorem hasFinesse_shifted : (w.shifted d).hasFinesse = w.hasFinesse := rfl

/-- A shifted wielder holds weapons in the same way. -/
@[simp] theorem grip_shifted : (w.shifted d).grip = w.grip := rfl

/-- A shifted wielder is proficient with the same weapons. -/
@[simp] theorem isProficient_shifted : (w.shifted d).isProficient = w.isProficient := rfl

/-- A shifted wielder is focused on the same weapons. -/
@[simp] theorem isFocused_shifted : (w.shifted d).isFocused = w.isFocused := rfl

/-- A shifted wielder does the same damage. -/
@[simp] theorem damageBonus_shifted : (w.shifted d).damageBonus = w.damageBonus := rfl

/-- A shifted wielder has the same penalty for several attacks. -/
@[simp] theorem multiAttackPenalty_shifted :
    (w.shifted d).multiAttackPenalty rules = w.multiAttackPenalty rules := rfl

variable {d w} in
/-- The better one of two changed bonuses is the changed better one, if there is room. -/
theorem lightBonus_shifted (h : w.HasRoom d) :
    (w.shifted d).lightBonus = word (w.lightBonus + d) := by
  rw [lightBonus, lightBonus, hasFinesse_shifted, offense_shifted, Offense.shifted]
  dsimp only
  split
  · next hfinesse =>
    obtain ⟨hmelee, hfinesse⟩ := h hfinesse
    rw [hmelee.word_eq, hfinesse.word_eq]
    obtain ⟨⟨hmelee, hmelee'⟩, hfinesse, hfinesse'⟩ := And.intro hmelee hfinesse
    rw [IsWord.word_eq ⟨by omega, by omega⟩]
    omega
  · rfl

variable {d w} in
/-- The unarmed strike takes the number once, if there is room. -/
theorem unarmedStrike_shifted (h : w.HasRoom d) :
    (w.shifted d).unarmedStrike rules = (w.unarmedStrike rules).shifted d := by
  simp only [unarmedStrike, lightBonus_shifted h, Strike.shifted]
  rfl

variable {d w} in
/-- Each sum of an attack bonus takes the number once. -/
theorem weaponBonus_shifted (h : w.HasRoom d) (weapon : Weapon) (ranged : Bool) :
    (w.shifted d).weaponBonus rules weapon ranged =
      word (w.weaponBonus rules weapon ranged + d) := by
  rw [weaponBonus, weaponBonus, weaponSum, weaponSum, grip_shifted, isProficient_shifted,
    isFocused_shifted, offense_shifted, lightBonus_shifted h, Offense.shifted]
  dsimp only
  have hadd (base proficient focused : Int) : word (word (base + d) + proficient + focused) =
      word (word (base + proficient + focused) + d) := by
    rw [Int.add_assoc (word _), word_word_add, word_word_add]
    exact congrArg word (by omega)
  split
  · exact hadd ..
  · split <;> exact hadd ..

variable (name : String) (weapon : Weapon) (ranged : Bool) (toHit bonus : Int)

/-- A penalty is added to a changed bonus as to the bonus itself. -/
theorem word_penalty_add (penalty : Int) :
    word (word (toHit + d) + penalty) = word (word (toHit + penalty) + d) := by
  rw [word_word_add, word_word_add, Int.add_right_comm]

/-- The strike with a stun setting takes the number once. -/
theorem stunStrike_add (stun : Stun) :
    stunStrike rules name weapon ranged (word (toHit + d)) bonus stun =
      (stunStrike rules name weapon ranged toHit bonus stun).shifted d := by
  simp only [stunStrike, Strike.shifted, Strike.mk.injEq, true_and, and_true]
  split
  · exact word_penalty_add ..
  · rfl

/-- The strike with a firing mode takes the number once. -/
theorem rateStrike_add (rate : Rate) :
    rateStrike rules name weapon ranged (word (toHit + d)) bonus rate =
      (rateStrike rules name weapon ranged toHit bonus rate).shifted d := by
  simp only [rateStrike, Strike.shifted, Strike.mk.injEq, true_and, and_true]
  split
  · exact word_penalty_add ..
  · rfl

/-- The plain strike takes the number once. -/
theorem plainStrike_add :
    plainStrike rules name weapon ranged (word (toHit + d)) bonus =
      (plainStrike rules name weapon ranged toHit bonus).shifted d := by
  simp only [plainStrike, Strike.shifted, Strike.mk.injEq, true_and, and_true]
  split
  · exact word_penalty_add ..
  · rfl

/-- Each strike with a double weapon takes the number once. -/
theorem doubleStrikes_add (penalty : Int) (dice : List String) :
    doubleStrikes name ranged (word (toHit + d)) bonus penalty dice =
      (doubleStrikes name ranged toHit bonus penalty dice).map (·.shifted d) := by
  rw [doubleStrikes, doubleStrikes, List.map_cons]
  congr 1
  · simp only [Strike.shifted, Strike.mk.injEq, true_and, and_true]
    exact word_penalty_add ..
  · rw [List.mapIdx_eq_zipIdx_map, List.mapIdx_eq_zipIdx_map, List.map_map]
    rfl

variable {d w} (h : w.HasRoom d)

include h

/-- Each normal strike takes the number once. -/
theorem normalStrikes_shifted :
    (w.shifted d).normalStrikes rules name weapon =
      (w.normalStrikes rules name weapon).map (·.shifted d) := by
  simp only [normalStrikes, weaponBonus_shifted rules h, damageBonus_shifted,
    multiAttackPenalty_shifted, isProficient_shifted]
  split
  · simp [rateStrike_add]
  split
  · exact doubleStrikes_add ..
  · simp [plainStrike_add]

/-- Each strike with a weapon takes the number once. -/
theorem weaponStrikes_shifted :
    (w.shifted d).weaponStrikes rules name weapon =
      (w.weaponStrikes rules name weapon).map (·.shifted d) := by
  simp only [weaponStrikes, size_shifted, damageBonus_shifted, weaponBonus_shifted rules h,
    normalStrikes_shifted rules name weapon h]
  split
  · rfl
  split
  · rfl
  · rw [stunStrike_add, List.map_cons]
    split <;> rfl

/-- Each strike takes the number once. -/
theorem strikes_shifted (active : List Trait) :
    (w.shifted d).strikes rules active =
      (w.strikes rules active).map fun strike => (strike.1, strike.2.shifted d) := by
  -- the shift leaves sizes and grips alone, so every trait strikes as often as before
  have htrait : ∀ t, (w.shifted d).traitStrikes rules t =
      (w.traitStrikes rules t).map fun strike => (strike.1, strike.2.shifted d) := by
    intro t
    rw [traitStrikes, traitStrikes]
    cases t.weapon with
    | none => rfl
    | some weapon =>
      dsimp only
      rw [weaponStrikes_shifted rules t.name weapon h, List.map_map, List.map_map]
      rfl
  rw [strikes, strikes, unarmedStrike_shifted rules h, List.map_cons, List.map_flatMap,
    funext htrait]

end Wielder

/-! ## Attacks -/

namespace Attack

/-- What relates the strikes of two lists one by one, and their sources, relates the attacks. -/
theorem forall₂_listed {R : Strike → Strike → Prop} {S : Attack → Attack → Prop} (actor : String)
    (h : ∀ id source s s', R s s' → S (ofStrike actor id source s) (ofStrike actor id source s'))
    {strikes strikes' : List (Option TraitId × Strike)}
    (hstrikes : List.Forall₂ (fun strike strike' => strike.1 = strike'.1 ∧ R strike.2 strike'.2)
      strikes strikes') :
    List.Forall₂ S (listed actor strikes) (listed actor strikes') := by
  rw [List.forall₂_iff_get] at hstrikes ⊢
  refine ⟨by simpa [listed] using hstrikes.1, fun i hi hi' => ?_⟩
  obtain ⟨hsource, hstrike⟩ := hstrikes.2 i (by simpa [listed] using hi)
    (by simpa [listed] using hi')
  rw [List.get_eq_getElem, List.get_eq_getElem] at hsource hstrike
  simpa [listed, hsource] using h i _ _ _ hstrike

/-- The one attack is the other with a number added in the formula of its attack roll, where it may
wrap around. -/
def IsShifted (a a' : Attack) : Prop :=
  ∃! bonus, a.toHit = Formula.toHit bonus ∧
    a' = { a with toHit := Formula.toHit (word (bonus + d)) }

/-- A shifted strike makes a shifted attack. -/
theorem isShifted_ofStrike (actor : String) (id : Nat) (source : Option TraitId)
    (s : Strike) :
    IsShifted d (ofStrike actor id source s) (ofStrike actor id source (s.shifted d)) :=
  ⟨s.bonus, ⟨rfl, rfl⟩, fun _ h => Formula.toHit_injective h.1.symm⟩

/-- Shifted strikes make shifted attacks. -/
theorem isShifted_listed (actor : String) (strikes : List (Option TraitId × Strike)) :
    List.Forall₂ (IsShifted d) (listed actor strikes)
      (listed actor (strikes.map fun strike => (strike.1, strike.2.shifted d))) := by
  refine forall₂_listed (R := fun s s' => s' = s.shifted d) actor ?_ ?_
  · rintro id source s _ rfl
    exact isShifted_ofStrike d actor id source s
  · exact List.forall₂_map_right_iff.mpr (List.forall₂_same.mpr fun _ _ => ⟨rfl, rfl⟩)

end Attack

end CharacterSheet
