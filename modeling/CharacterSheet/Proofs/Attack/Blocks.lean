import CharacterSheet.Derivation.Basic
import CharacterSheet.Proofs.Character.NewTrait

/-!
# Blocks of attacks

The attacks of a character are its unarmed attack and then one block for each active weapon, all
numbered throughout. What a block holds depends on its own weapon only, so a weapon that is taken
away takes its block with it, and what stands behind moves up. A weapon that supplied another one
takes more with it, since the other one is an orphan then.
-/

namespace CharacterSheet

/-! ## Numbering -/

namespace Attack

/-- The attacks with the ids from `n` on, counted in 32 bits. -/
def numberedFrom (n : Nat) (attacks : List Attack) : List Attack :=
  attacks.mapIdx fun i a => { a with id := .ofNat (n + i) }

/-- The numbers of a second list go on behind those of the first one. -/
theorem numberedFrom_append (n : Nat) (as bs : List Attack) :
    numberedFrom n (as ++ bs) = numberedFrom n as ++ numberedFrom (n + as.length) bs := by
  simp [numberedFrom, List.mapIdx_append, Nat.add_left_comm, Nat.add_comm]

/-- A single attack has the first number. -/
@[simp] theorem numberedFrom_singleton (n : Nat) (a : Attack) :
    numberedFrom n [a] = [{ a with id := .ofNat n }] := by
  simp [numberedFrom]

/-- Numbering does not change how many attacks there are. -/
@[simp] theorem length_numberedFrom (n : Nat) (as : List Attack) :
    (numberedFrom n as).length = as.length :=
  List.length_mapIdx

/-- Only the last numbering matters. -/
@[simp] theorem numberedFrom_numberedFrom (m n : Nat) (as : List Attack) :
    numberedFrom n (numberedFrom m as) = numberedFrom n as := by
  simp [numberedFrom, Function.comp_def]

variable (actor : String)

/-- There is one attack for each strike. -/
@[simp] theorem length_listed (strikes : List (Option TraitId × Strike)) :
    (listed actor strikes).length = strikes.length :=
  List.length_mapIdx

/-- Strikes in two parts give the attacks of both, numbered throughout. -/
theorem listed_append (xs ys : List (Option TraitId × Strike)) :
    listed actor (xs ++ ys) = listed actor xs ++ numberedFrom xs.length (listed actor ys) := by
  simp [numberedFrom, listed, List.mapIdx_append, Function.comp_def, ofStrike, Nat.add_comm]

/-- Where all is numbered anew, it makes no difference whether strikes were listed together or
apart. -/
theorem numberedFrom_flatMap_listed (n : Nat) {α : Type} (items : List α)
    (strikes : α → List (Option TraitId × Strike)) :
    numberedFrom n (items.flatMap fun item => listed actor (strikes item)) =
      numberedFrom n (listed actor (items.flatMap strikes)) := by
  induction items generalizing n with
  | nil => rfl
  | cons item rest ih =>
    rw [List.flatMap_cons, List.flatMap_cons, listed_append, numberedFrom_append,
      numberedFrom_append, ih, numberedFrom_numberedFrom, length_listed]

/-- Each attack is made of the strike at its place, and the place is its number. -/
theorem getElem?_listed {strikes : List (Option TraitId × Strike)} {i : Nat} {a : Attack}
    (h : (listed actor strikes)[i]? = some a) :
    ∃ strike, strikes[i]? = some strike ∧ a = ofStrike actor i strike.1 strike.2 := by
  rw [listed, List.getElem?_mapIdx, Option.map_eq_some_iff] at h
  obtain ⟨strike, hstrike, rfl⟩ := h
  exact ⟨strike, hstrike, rfl⟩

/-- What is read of the attacks apart from their ids is read of the strikes. -/
theorem map_listed {β : Type} {f : Attack → β} {g : Strike → β}
    (h : ∀ id source s, f (ofStrike actor id source s) = g s)
    (strikes : List (Option TraitId × Strike)) :
    (listed actor strikes).map f = strikes.map fun strike => g strike.2 := by
  conv_rhs => rw [← List.zipIdx_map_fst 0 strikes, List.map_map]
  rw [listed, List.mapIdx_eq_zipIdx_map, List.map_map]
  exact List.map_congr_left fun _ _ => h _ _ _

end Attack

/-! ## Blocks -/

/-- The unarmed attack of a stat block. -/
def Stats.unarmedAttack (s : Stats) (actor : String) (rules : Rules) : Attack :=
  Attack.ofStrike actor 0 none (s.wielder.unarmedStrike rules.combat)

/-- The attacks with a trait, numbered from zero; none if it is no weapon. -/
def Trait.attackBlock (t : Trait) (actor : String) (s : Stats) (rules : Rules) : List Attack :=
  Attack.listed actor (s.wielder.traitStrikes rules.combat t)

namespace Weapon

/-- How many attacks a weapon has apart from stunning: one for each of several firing modes; one
with all ends of a double weapon and one with each, if no firing mode is listed; otherwise one. None
if the weapon can only stun. -/
def normalCount (w : Weapon) : Nat :=
  let dice := (Formula.splitDice w.damage).length
  if w.stun.any (·.exclusive) then 0
  else if 1 < w.rates.length then w.rates.length
  else if 1 < dice ∧ w.rates = [] then 1 + dice
  else 1

/-- A block as a weapon makes it in the hands of a wielder of some size. -/
structure HasBlock (w : Weapon) (size : Size) (source : TraitId) (block : List Attack) : Prop where
  nil_iff : block = [] ↔ 1 < w.size.stepsAbove size
  sourceWeapon : ∀ a ∈ block, a.sourceWeapon = some source
  stun : ¬ 1 < w.size.stepsAbove size → block.map (·.stun) =
    (w.stun.toList.map fun _ => true) ++ List.replicate w.normalCount false
  /-- With several firing modes, each of them has its attack. -/
  autofire : ¬ 1 < w.size.stepsAbove size → 1 < w.rates.length →
    w.stun.any (·.exclusive) = false → block.map (·.autofire) =
      (w.stun.toList.map fun _ => false) ++ w.rates.map fun rate => decide (rate = .autofire)

end Weapon

/-! ## The strikes with a weapon -/

namespace Wielder

variable (w : Wielder) (rules : CombatRules) (name : String) {weapon : Weapon}

/-- No strike with a double weapon stuns. -/
theorem map_stun_doubleStrikes (ranged : Bool) (toHit bonus penalty : Int) (dice : List String) :
    (doubleStrikes name ranged toHit bonus penalty dice).map (·.stun) =
      List.replicate (1 + dice.length) false := by
  have hends : (dice.mapIdx (endStrike name ranged toHit bonus)).map (·.stun) =
      List.replicate dice.length false := by
    rw [List.mapIdx_eq_zipIdx_map, List.map_map]
    simp [Function.comp_def, endStrike]
  rw [doubleStrikes, List.map_cons, hends, Nat.add_comm, List.replicate_succ]

/-- No strike apart from a stun strike stuns. -/
theorem map_stun_normalStrikes (h : weapon.stun.any (·.exclusive) = false) :
    (w.normalStrikes rules name weapon).map (·.stun) =
      List.replicate weapon.normalCount false := by
  rw [normalStrikes, Weapon.normalCount, h]
  by_cases hrates : 1 < weapon.rates.length
  · simp [hrates, Function.comp_def, rateStrike]
  by_cases hdouble : 1 < (Formula.splitDice weapon.damage).length ∧ weapon.rates = []
  · simp [hdouble, map_stun_doubleStrikes]
  · simp [hrates, hdouble, plainStrike]

/-- Of several firing modes each has one strike, which tells whether it is autofire. -/
theorem map_autofire_normalStrikes (h : 1 < weapon.rates.length) :
    (w.normalStrikes rules name weapon).map (·.autofire) =
      weapon.rates.map fun rate => decide (rate = .autofire) := by
  rw [normalStrikes, if_pos h, List.map_map]
  rfl

/-- Every weapon has a normal strike. -/
theorem normalStrikes_ne_nil : w.normalStrikes rules name weapon ≠ [] := by
  rw [normalStrikes]
  split
  · next h => exact fun hnil => by simp [List.map_eq_nil_iff.mp hnil] at h
  split <;> simp [doubleStrikes]

/-- Only an oversized weapon has no strikes. -/
theorem weaponStrikes_eq_nil_iff :
    w.weaponStrikes rules name weapon = [] ↔ 1 < weapon.size.stepsAbove w.size := by
  rw [weaponStrikes]
  split
  · next h => simp [h]
  · next h => split <;> simp [h, normalStrikes_ne_nil]

variable (hsize : ¬ 1 < weapon.size.stepsAbove w.size)

include hsize

/-- A stun setting comes first, and no other strike stuns. -/
theorem map_stun_weaponStrikes :
    (w.weaponStrikes rules name weapon).map (·.stun) =
      (weapon.stun.toList.map fun _ => true) ++ List.replicate weapon.normalCount false := by
  rw [weaponStrikes, if_neg hsize]
  cases hstun : weapon.stun with
  | none => exact map_stun_normalStrikes w rules name (by rw [hstun]; rfl)
  | some stun =>
    dsimp only
    split
    · next hexclusive => simp [Weapon.normalCount, hstun, hexclusive, stunStrike]
    · next hexclusive =>
      have hmay : weapon.stun.any (·.exclusive) = false := by simpa [hstun] using hexclusive
      rw [List.map_cons, map_stun_normalStrikes w rules name hmay]
      rfl

/-- The firing modes follow the stun setting, which is not autofire. -/
theorem map_autofire_weaponStrikes (hrates : 1 < weapon.rates.length)
    (h : weapon.stun.any (·.exclusive) = false) :
    (w.weaponStrikes rules name weapon).map (·.autofire) =
      (weapon.stun.toList.map fun _ => false) ++
        weapon.rates.map fun rate => decide (rate = .autofire) := by
  rw [weaponStrikes, if_neg hsize]
  cases hstun : weapon.stun with
  | none => exact map_autofire_normalStrikes w rules name hrates
  | some stun =>
    have hexclusive : stun.exclusive = false := by simpa [hstun] using h
    -- two or more rates are not autofire alone, so the stunning attack is not flagged either
    have honly : weapon.isAutofireOnly = false := by
      rw [Weapon.isAutofireOnly, decide_eq_false_iff_not]
      intro hsingle
      rw [hsingle] at hrates
      exact absurd hrates (by decide)
    simp [hexclusive, stunStrike, honly, map_autofire_normalStrikes w rules name hrates]

end Wielder

/-! ## The attacks of a character -/

namespace Trait

variable {t : Trait} {weapon : Weapon} (ht : t.weapon = some weapon) (actor : String) (s : Stats)
  (rules : Rules)

include ht

/-- The block of a weapon is made of its strikes. -/
theorem attackBlock_eq :
    t.attackBlock actor s rules = Attack.listed actor
      ((s.wielder.weaponStrikes rules.combat t.name weapon).map (some t.id, ·)) := by
  rw [attackBlock, Wielder.traitStrikes, ht]

/-- Each attack of a block is made of the strike at its place. -/
theorem getElem?_attackBlock {i : Nat} {a : Attack}
    (ha : (t.attackBlock actor s rules)[i]? = some a) :
    ∃ strike, (s.wielder.weaponStrikes rules.combat t.name weapon)[i]? = some strike ∧
      a = Attack.ofStrike actor i (some t.id) strike := by
  rw [attackBlock_eq ht] at ha
  obtain ⟨_, hstrike, rfl⟩ := Attack.getElem?_listed actor ha
  rw [List.getElem?_map, Option.map_eq_some_iff] at hstrike
  obtain ⟨strike, hstrike, rfl⟩ := hstrike
  exact ⟨strike, hstrike, rfl⟩

/-- What strikes and attacks share can be read off the strikes. -/
theorem map_attackBlock {β : Type} {f : Attack → β} {g : Strike → β}
    (h : ∀ id source strike, f (Attack.ofStrike actor id source strike) = g strike) :
    (t.attackBlock actor s rules).map f =
      (s.wielder.weaponStrikes rules.combat t.name weapon).map g := by
  rw [attackBlock_eq ht, Attack.map_listed actor h, List.map_map]
  rfl

/-- The attacks with a weapon are a block of that weapon. -/
theorem hasBlock_attackBlock :
    weapon.HasBlock s.profile.size t.id (t.attackBlock actor s rules) := by
  constructor
  case nil_iff =>
    rw [attackBlock_eq ht, ← List.length_eq_zero_iff, Attack.length_listed, List.length_map,
      List.length_eq_zero_iff]
    exact Wielder.weaponStrikes_eq_nil_iff ..
  case sourceWeapon =>
    intro a ha
    obtain ⟨i, hi⟩ := List.mem_iff_getElem?.mp ha
    obtain ⟨strike, -, rfl⟩ := getElem?_attackBlock ht actor s rules hi
    rfl
  case stun =>
    intro hsize
    rw [map_attackBlock ht actor s rules (g := (·.stun)) fun _ _ _ => rfl]
    exact Wielder.map_stun_weaponStrikes s.wielder rules.combat t.name hsize
  case autofire =>
    intro hsize hrates hexclusive
    rw [map_attackBlock ht actor s rules (g := (·.autofire)) fun _ _ _ => rfl]
    exact Wielder.map_autofire_weaponStrikes s.wielder rules.combat t.name hsize hrates hexclusive

end Trait

namespace Character

variable (c : Character) (s : Stats) (rules : Rules)

/-- The active traits that are weapons. -/
def activeWeapons : List Trait := c.activeTraits.filter (·.weapon.isSome)

/-- The blocks of a list of traits, one after the other. -/
def attackBlocks (traits : List Trait) : List Attack :=
  traits.flatMap (·.attackBlock c.id s rules)

/-- Only active weapons have strikes. -/
theorem flatMap_traitStrikes_activeWeapons :
    c.activeWeapons.flatMap (s.wielder.traitStrikes rules.combat) =
      c.activeTraits.flatMap (s.wielder.traitStrikes rules.combat) := by
  rw [activeWeapons]
  induction c.activeTraits with
  | nil => rfl
  | cons t rest ih =>
    rw [List.flatMap_cons, ← ih, List.filter_cons]
    split
    · rfl
    · next h =>
      have hnone : t.weapon = none := by simpa using h
      rw [Wielder.traitStrikes, hnone, List.nil_append]

/-- The attacks are the unarmed one and the blocks of the active weapons, numbered throughout. -/
theorem attacksWith_eq :
    c.attacksWith s rules = Attack.numberedFrom 0
      (s.unarmedAttack c.id rules :: c.attackBlocks s rules c.activeWeapons) := by
  -- the numbers of a block depend on its place alone, so the weapons may be listed one by one
  have hblocks : Attack.numberedFrom 1 (c.attackBlocks s rules c.activeWeapons) =
      Attack.numberedFrom 1
        (Attack.listed c.id (c.activeTraits.flatMap (s.wielder.traitStrikes rules.combat))) := by
    rw [← flatMap_traitStrikes_activeWeapons]
    exact Attack.numberedFrom_flatMap_listed c.id 1 _ _
  calc c.attacksWith s rules
    _ = Attack.listed c.id ([(none, s.wielder.unarmedStrike rules.combat)] ++
          c.activeTraits.flatMap (s.wielder.traitStrikes rules.combat)) := rfl
    _ = [s.unarmedAttack c.id rules] ++
          Attack.numberedFrom 1 (c.attackBlocks s rules c.activeWeapons) := by
      rw [Attack.listed_append, hblocks]
      rfl
    _ = Attack.numberedFrom 0
          ([s.unarmedAttack c.id rules] ++ c.attackBlocks s rules c.activeWeapons) := by
      have hunarmed : Attack.numberedFrom 0 [s.unarmedAttack c.id rules] =
          [s.unarmedAttack c.id rules] := by
        rw [Stats.unarmedAttack, Attack.numberedFrom_singleton, Attack.ofStrike]
      rw [Attack.numberedFrom_append, hunarmed, Nat.zero_add, List.length_singleton]

/-- The number of an attack is its place, and only the first one is without a weapon. -/
theorem getElem?_attacksWith {i : Nat} {a : Attack} (h : (c.attacksWith s rules)[i]? = some a) :
    a.id = .ofNat i ∧ a.actor = c.id ∧ (a.sourceWeapon = none ↔ i = 0) := by
  obtain ⟨strike, hstrike, rfl⟩ := Attack.getElem?_listed c.id h
  refine ⟨rfl, rfl, ?_⟩
  cases i with
  | zero =>
    cases hstrike
    simp [Attack.ofStrike]
  | succ i =>
    -- every strike behind the unarmed one has its trait as source
    obtain ⟨t, -, ht⟩ := List.mem_flatMap.mp (List.mem_of_getElem? hstrike)
    obtain ⟨weapon, hweapon⟩ : ∃ weapon, t.weapon = some weapon := by
      cases hweapon : t.weapon with
      | none => simp [Wielder.traitStrikes, hweapon] at ht
      | some weapon => exact ⟨weapon, rfl⟩
    rw [Wielder.traitStrikes, hweapon] at ht
    obtain ⟨s, -, rfl⟩ := List.mem_map.mp ht
    simp [Attack.ofStrike]

/-! ## Taking a trait away -/

/-- Without the trait between the two lists, the attacks are those with it but for its block, and
they are numbered anew. -/
def TakesOut (before : List Trait) (t : Trait) (behind : List Trait) : Prop :=
  ∃ front back,
    c.attacksWith s rules = Attack.numberedFrom 0
      (front ++ (if t ∈ c.activeTraits then t.attackBlock c.id s rules else []) ++ back) ∧
    { c with traits := before ++ behind }.attacksWith s rules =
      Attack.numberedFrom 0 (front ++ back)

/-- Whether a trait is an active weapon of the character. -/
def isActiveWeapon (t : Trait) : Bool := t.weapon.isSome && decide (t ∈ c.activeTraits)

variable {c}

/-- A trait is active if it is owned and contributes. -/
theorem mem_activeTraits_iff {t : Trait} :
    t ∈ c.activeTraits ↔ t ∈ c.ownedTraits ∧ t.contributes = true := by
  rw [activeTraits, List.mem_filter]

/-- The active weapons are found among all traits, in order. -/
theorem activeWeapons_eq : c.activeWeapons = c.traits.filter c.isActiveWeapon := by
  rw [activeWeapons, activeTraits, ownedTraits, List.filter_filter, List.filter_filter]
  refine List.filter_congr fun t ht => ?_
  rw [Bool.eq_iff_iff]
  simp [isActiveWeapon, mem_activeTraits_iff, mem_ownedTraits_iff, ht, and_comm, and_assoc]

/-- The blocks of two lists of weapons are those of each. -/
theorem attackBlocks_append (traits traits' : List Trait) :
    c.attackBlocks s rules (traits ++ traits') =
      c.attackBlocks s rules traits ++ c.attackBlocks s rules traits' :=
  List.flatMap_append

/-- A single trait has its block if it is active. -/
theorem attackBlocks_filter_singleton (t : Trait) :
    c.attackBlocks s rules ([t].filter c.isActiveWeapon) =
      if t ∈ c.activeTraits then t.attackBlock c.id s rules else [] := by
  rw [List.filter_singleton, isActiveWeapon]
  by_cases hactive : t ∈ c.activeTraits
  · cases hweapon : t.weapon with
    | none => simp [attackBlocks, Trait.attackBlock, Wielder.traitStrikes, hweapon, Attack.listed]
    | some weapon => simp [attackBlocks, hactive]
  · simp [attackBlocks, hactive]

/-- All that matters is that the other weapons are active or not as before. -/
theorem takesOut_of_forall {before behind : List Trait} {t : Trait}
    (htraits : c.traits = before ++ t :: behind)
    (h : ∀ other ∈ before ++ behind, other.weapon.isSome = true →
      (other ∈ activeTraits { c with traits := before ++ behind } ↔ other ∈ c.activeTraits)) :
    c.TakesOut s rules before t behind := by
  -- every other weapon is filtered as before, so only the block of `t` can come or go
  have hwith : c.activeWeapons = before.filter c.isActiveWeapon ++
      [t].filter c.isActiveWeapon ++ behind.filter c.isActiveWeapon := by
    rw [activeWeapons_eq, htraits, ← List.filter_append, ← List.filter_append, List.append_assoc]
    rfl
  have hwithout : activeWeapons { c with traits := before ++ behind } =
      before.filter c.isActiveWeapon ++ behind.filter c.isActiveWeapon := by
    rw [activeWeapons_eq, ← List.filter_append]
    refine List.filter_congr fun other hother => ?_
    rw [isActiveWeapon, isActiveWeapon]
    cases hweapon : other.weapon.isSome with
    | false => rfl
    | true => simp [h other hother hweapon]
  refine ⟨s.unarmedAttack c.id rules :: c.attackBlocks s rules (before.filter c.isActiveWeapon),
    c.attackBlocks s rules (behind.filter c.isActiveWeapon), ?_, ?_⟩
  · rw [attacksWith_eq, hwith, attackBlocks_append, attackBlocks_append,
      attackBlocks_filter_singleton]
    rfl
  · rw [attacksWith_eq, hwithout, attackBlocks_append]
    rfl

/-- A trait that shares its id with no other one and supplies none leaves the others as they are. -/
theorem takesOut_of_isNew {before behind : List Trait} {t : Trait}
    (htraits : c.traits = before ++ t :: behind)
    (h : IsNew { c with traits := before ++ behind } t) :
    c.TakesOut s rules before t behind := by
  refine takesOut_of_forall s rules htraits fun other hother _ => ?_
  -- taking `t` out and putting it back at its place gives the character again
  have hinsert : c = insertTrait { c with traits := before ++ behind } before.length t := by
    rw [insertTrait]
    simp [← htraits]
  have horphans := mem_orphanIds_insertTrait_iff h (n := before.length) hother
  rw [← hinsert] at horphans
  have hmem : other ∈ c.traits := by
    rw [htraits, List.mem_append, List.mem_cons]
    rw [List.mem_append] at hother
    exact hother.imp_right .inr
  rw [mem_activeTraits_iff, mem_activeTraits_iff, mem_ownedTraits_iff, mem_ownedTraits_iff,
    horphans, iff_true_intro hother, iff_true_intro hmem]

/-- The attacks of a character are the unarmed one and a block for each active weapon, which the
trait, the stat block and the rules determine. An attack's id is its place in the list, counted in
32 bits, and only the unarmed attack has no weapon. A weapon that is taken away takes its block with
it, and nothing else if the other weapons are active or not as before; they are if it shares its id
with no other trait and supplies none. -/
theorem attacksWith_eq_blocks (c : Character) (s : Stats) (rules : Rules) :
    (∀ i a, (c.attacksWith s rules)[i]? = some a →
      a.id = .ofNat i ∧ a.actor = c.id ∧ (a.sourceWeapon = none ↔ i = 0)) ∧
    c.attacksWith s rules = Attack.numberedFrom 0
      (s.unarmedAttack c.id rules ::
        (c.activeTraits.filter (·.weapon.isSome)).flatMap (·.attackBlock c.id s rules)) ∧
    (∀ (t : Trait) (weapon : Weapon), t.weapon = some weapon →
      weapon.HasBlock s.profile.size t.id (t.attackBlock c.id s rules)) ∧
    ∀ (before : List Trait) (t : Trait) (behind : List Trait), c.traits = before ++ t :: behind →
      (∀ other ∈ before ++ behind, other.weapon.isSome = true →
          (other ∈ activeTraits { c with traits := before ++ behind } ↔ other ∈ c.activeTraits)) ∨
        IsNew { c with traits := before ++ behind } t →
      c.TakesOut s rules before t behind := by
  refine ⟨fun _ _ => getElem?_attacksWith c s rules, attacksWith_eq c s rules,
    fun _ _ ht => Trait.hasBlock_attackBlock ht c.id s rules, ?_⟩
  rintro before t behind htraits (h | h)
  · exact takesOut_of_forall s rules htraits h
  · exact takesOut_of_isNew s rules htraits h

/-- A blaster that is held ready. -/
def blaster : Trait where
  id := "a"
  name := "Blaster"
  kind := .weapon
  equipped := true
  weapon := some ⟨"3d6", [], .medium, none, []⟩

/-- A bayonet that comes with the blaster. -/
def bayonet : Trait where
  id := "b"
  name := "Bayonet"
  kind := .weapon
  equipped := true
  supplier := some ⟨"a", "Blaster"⟩
  weapon := some ⟨"1d8", [], .medium, none, []⟩

/-- A character with a blaster and its bayonet. -/
def arsenal : Character where
  id := "hero"
  traits := [blaster, bayonet]

/-- Without its bayonet, the blaster is as before. -/
theorem attacksWith_eq_blocks_arsenal :
    (∃ a, (arsenal.attacksWith {} {})[2]? = some a ∧
        a.id = 2 ∧ a.actor = "hero" ∧ (a.sourceWeapon = none ↔ 2 = 0)) ∧
      Weapon.HasBlock ⟨"1d8", [], .medium, none, []⟩ .medium "b"
        (bayonet.attackBlock "hero" {} {}) ∧
      IsNew { arsenal with traits := [blaster] ++ [] } bayonet ∧
      arsenal.TakesOut {} {} [blaster] bayonet [] := by
  obtain ⟨hplaces, -, hblocks, htakes⟩ := attacksWith_eq_blocks arsenal {} {}
  -- the third attack is the one with the bayonet
  have hthird := List.getElem?_eq_getElem (l := arsenal.attacksWith {} {}) (i := 2)
    (by decide +kernel)
  have hnew : IsNew { arsenal with traits := [blaster] ++ [] } bayonet := by
    constructor
    · decide
    · simp [blaster]
  exact ⟨⟨_, hthird, hplaces 2 _ hthird⟩, hblocks bayonet _ rfl, hnew,
    htakes [blaster] bayonet [] rfl (.inr hnew)⟩

/-- Without the blaster, the bayonet is an orphan and its attack is gone too. -/
theorem not_takesOut_blaster :
    arsenal.traits = [] ++ blaster :: [bayonet] ∧ blaster.weapon.isSome = true ∧
      ¬ arsenal.TakesOut (arsenal.derive {} []).stats {} [] blaster [bayonet] := by
  refine ⟨rfl, rfl, ?_⟩
  rintro ⟨front, back, hwith, hwithout⟩
  -- three attacks with the blaster and the bayonet it supplies, one without: two blocks are gone
  have hthree : (arsenal.attacksWith (arsenal.derive {} []).stats {}).length = 3 := by
    decide +kernel
  have hone : (attacksWith { arsenal with traits := [] ++ [bayonet] }
      (arsenal.derive {} []).stats {}).length = 1 := by decide +kernel
  have hblock : (if blaster ∈ arsenal.activeTraits then
      blaster.attackBlock arsenal.id (arsenal.derive {} []).stats {} else []).length = 1 := by
    decide +kernel
  rw [hwith, Attack.length_numberedFrom, List.length_append, List.length_append, hblock] at hthree
  rw [hwithout, Attack.length_numberedFrom, List.length_append] at hone
  omega

end Character

end CharacterSheet
