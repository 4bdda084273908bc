import CharacterSheet.Reduction.Mode
import CharacterSheet.Trait.Filter
import CharacterSheet.Value.Resolve

/-!
# Reductions

A pool is an ordered set of traits together with the variables that their values may refer to. For
an attribute key it reduces the matching contributions, in trait order and then in the order of a
trait's own list, to one answer.
-/

namespace CharacterSheet

/-- A contribution with the trait it belongs to. -/
abbrev Sourced := Trait × Contribution

namespace Sourced

/-- The largest number among the values that are not null, if all of them resolve. -/
def largest? (lookup : Lookup) (best : Option Binary64) :
    List Sourced → Except ResolveError (Option Binary64)
  | [] => .ok best
  | (_, c) :: rest =>
    match c.value.resolveOne lookup with
    | .error e => .error e
    | .ok none => largest? lookup best rest
    | .ok (some x) => largest? lookup (some (best.elim x (·.max x))) rest

/-- The first value that is not null. -/
def first? (found : List Sourced) : Option Value :=
  (found.map (·.2.value)).find? (!·.isNull)

/-- The values that are not null, as shown and in lower case. -/
def lowerCaseValues (found : List Sourced) : List String :=
  (found.filter (!·.2.value.isNull)).map fun s => Text.lower s.2.value.display

/-- One contribution in words: the trait, the value, and the remark if there is one. -/
def describe (s : Sourced) : String :=
  match s.2.modifier with
  | some modifier => s.1.name ++ ": " ++ s.2.value.display ++ " (" ++ modifier ++ ")"
  | none => s.1.name ++ ": " ++ s.2.value.display

/-- The contributions that are not null, in words. -/
def summary (found : List Sourced) : String :=
  String.intercalate ", " ((found.filter (!·.2.value.isNull)).map describe)

/-- A contribution as an entry of a mapped reduction. -/
def entry (s : Sourced) : SourcedValue :=
  ⟨s.1.name, s.1.id, s.2.value, s.2.modifier, s.2.situational⟩

/-- Brings contributions together in one mode. Only sums and maxima can fail. -/
def reduce (lookup : Lookup) (found : List Sourced) : Mode → Except ResolveError Reduced
  | .sum => (Value.resolveWhole lookup (found.map (·.2.value))).map .number
  | .max => (largest? lookup none found).map fun best => .number (best.elim 0 Binary64.toWhole)
  | .or => .ok (.flag (found.any (·.2.value.isTruthy)))
  | .first => .ok (.value (first? found))
  | .values => .ok (.values (found.map (·.2.value)))
  | .lowerCaseValues => .ok (.texts (lowerCaseValues found))
  | .numericValues => .ok (.values ((found.map (·.2.value)).filter (·.number?.isSome)))
  | .mapped => .ok (.mapped (found.map entry))
  | .summary => .ok (.summary (summary found))

end Sourced

/-- An ordered set of traits and the variables that their values may refer to. -/
structure Pool where
  traits : List Trait
  lookup : Lookup

/-- The answers to several modes at once. -/
abbrev Aggregation := Std.ExtTreeMap Mode Reduced

namespace Aggregation

/-- The number of a numeric mode that was asked for. -/
def number? (a : Aggregation) (mode : Mode) : Option Int := a[mode]?.bind Reduced.number?

/-- The summary, if it was asked for. -/
def summary? (a : Aggregation) : Option String := a[Mode.summary]?.bind Reduced.summary?

end Aggregation

namespace Pool

/-- The contributions under a key that pass a filter. -/
def matching (pool : Pool) (key : String) (filter : Filter) : List Sourced :=
  (pool.traits.filter filter.acceptsTrait).flatMap fun t =>
    (t.contributions.filter fun c => c.key = key && filter.acceptsContribution c).map (t, ·)

/-- Reduces the contributions under a key. -/
def reduce (pool : Pool) (key : String) (mode : Mode) (filter : Filter) :
    Except ResolveError Reduced :=
  Sourced.reduce pool.lookup (pool.matching key filter) mode

/-- Adds the answers to further modes. -/
def aggregateOnto (pool : Pool) (found : List Sourced) (results : Aggregation) :
    List Mode → Except ResolveError Aggregation
  | [] => .ok results
  | mode :: rest =>
    match Sourced.reduce pool.lookup found mode with
    | .error e => .error e
    | .ok reduced => aggregateOnto pool found (results.insert mode reduced) rest

/-- Reduces the contributions under a key in several modes. The first mode that fails makes the
whole fail. -/
def aggregate (pool : Pool) (key : String) (modes : List Mode) (filter : Filter) :
    Except ResolveError Aggregation :=
  aggregateOnto pool (pool.matching key filter) ∅ modes

/-- The sum of the contributions under a key. -/
def sum (pool : Pool) (key : String) (filter : Filter) : Except ResolveError Int :=
  (pool.reduce key .sum filter).map fun r => r.number?.getD 0

/-- The largest of the contributions under a key. -/
def max (pool : Pool) (key : String) (filter : Filter) : Except ResolveError Int :=
  (pool.reduce key .max filter).map fun r => r.number?.getD 0

/-- Whether some contribution under a key switches it on. -/
def any (pool : Pool) (key : String) (filter : Filter) : Bool :=
  (pool.matching key filter).any (·.2.value.isTruthy)

/-- The first contribution under a key that is not null. -/
def first? (pool : Pool) (key : String) (filter : Filter) : Option Value :=
  Sourced.first? (pool.matching key filter)

/-- The contributions under a key that are not null, in lower case. -/
def lowerCaseValues (pool : Pool) (key : String) (filter : Filter) : List String :=
  Sourced.lowerCaseValues (pool.matching key filter)

/-- The contributions under a key in words. -/
def summary (pool : Pool) (key : String) (filter : Filter) : String :=
  Sourced.summary (pool.matching key filter)

end Pool

end CharacterSheet
