import Std.Data.ExtTreeMap
import Std.Data.ExtTreeSet
import CharacterSheet.Binary64.Basic

/-!
# Data

What a character, a rule set or an answer looks like outside the library: the common shape of JSON
and TOML documents. Whole numbers are kept apart from other numbers, since a field that holds a
whole number takes nothing else.

The readers turn data into values of the library and answer nothing when the data has another
shape. A record may also be given as a list of its fields' values in order. In two details the
formats differ in what they let pass, which is why some readers are told the `Data.Format`.
-/

namespace CharacterSheet

/-- A document. The fields of a record have different names. -/
inductive Data where
  | null
  | bool (b : Bool)
  | int (n : Int)
  | float (x : Binary64)
  | text (s : String)
  | list (items : List Data)
  | record (fields : List (String × Data))

namespace Data

/-- The format that a document was written in. -/
inductive Format where
  | json
  | toml
deriving DecidableEq, Repr

namespace Format

/-- Whether a list that stands for a record may go on behind the value of the last field. -/
def allowsMore : Format → Bool
  | json => false
  | toml => true

/-- Whether data says no more than the name before it. JSON has null for that, and TOML, which knows
no null, an empty list or record. -/
def isVoid : Format → Data → Bool
  | json, .null | toml, .list [] | toml, .record [] => true
  | _, _ => false

end Format

/-- A truth value. -/
def bool? : Data → Option Bool
  | bool b => some b
  | _ => none

/-- A text. -/
def text? : Data → Option String
  | text s => some s
  | _ => none

/-- A whole number from `low` to `high`. -/
def whole? (low high : Int) : Data → Option Int
  | int n => if low ≤ n ∧ n ≤ high then some n else none
  | _ => none

/-- A whole number that fits 32 bits with a sign. -/
def int32? : Data → Option Int := whole? (-2147483648) 2147483647

/-- A natural number up to a bound. -/
def natUpTo? (high : Nat) (d : Data) : Option Nat := (whole? 0 high d).map Int.toNat

/-- Any number, whole or not. -/
def number? : Data → Option Binary64
  | int n => some (Binary64.ofInt n)
  | float x => some x
  | _ => none

/-- A list whose items `read` takes. -/
def list? {α : Type} (read : Data → Option α) : Data → Option (List α)
  | list items => items.mapM read
  | _ => none

/-- A set of texts. -/
def textSet? (d : Data) : Option (Std.ExtTreeSet String) :=
  (list? text? d).map fun items => .ofList items

/-- A record used as a table: `key` reads the field names and `read` the values. -/
def table? {κ α : Type} [Ord κ] [Std.TransOrd κ] (key : String → Option κ)
    (read : Data → Option α) : Data → Option (Std.ExtTreeMap κ α)
  | record fields =>
    (fields.mapM fun (name, value) => do return (← key name, ← read value)).map fun entries =>
      .ofList entries
  | _ => none

/-- What `read` takes, or null. -/
def nullable? {α : Type} (read : Data → Option α) : Data → Option (Option α)
  | null => some none
  | d => (read d).map some

/-- A name: a text, or a record with the name as its one field and nothing to say in it. -/
def nameIn? (format : Format) : Data → Option String
  | text s => some s
  | record [(s, d)] => if format.isVoid d then some s else none
  | _ => none

/-- One of a fixed list of values, given by its name in a format. -/
def namedIn? {α : Type} (format : Format) (all : List α) (name : α → String) (d : Data) :
    Option α :=
  (d.nameIn? format).bind fun s => all.find? fun a => name a == s

/-- One of a fixed list of values, given by its name in JSON. -/
def named? {α : Type} (all : List α) (name : α → String) : Data → Option α :=
  namedIn? .json all name

/-- The fields of a record by name. -/
abbrev Fields := List (String × Data)

/-- The fields of a record. -/
def record? : Data → Option Fields
  | record fields => some fields
  | _ => none

/-- The fields of a record, or of a list that gives the values of the fields `names` in order; such
a list may end early, and in some formats it may go on. -/
def fieldsIn? (format : Format) (names : List String) : Data → Option Fields
  | record fields => some fields
  | list items =>
    if format.allowsMore || items.length ≤ names.length then some (names.zip items) else none
  | _ => none

/-- The fields of a record that is given in JSON. -/
def fields? (names : List String) : Data → Option Fields := fieldsIn? .json names

namespace Fields

variable {α : Type}

/-- A field that has to be there. -/
def required (fields : Fields) (name : String) (read : Data → Option α) : Option α :=
  (fields.lookup name).bind read

/-- A field that has a default when it is absent. -/
def orElse (fields : Fields) (name : String) (read : Data → Option α) (default : α) : Option α :=
  match fields.lookup name with
  | some d => read d
  | none => some default

/-- A field that may be absent or null. -/
def optional (fields : Fields) (name : String) (read : Data → Option α) : Option (Option α) :=
  fields.orElse name (nullable? read) none

end Fields

/-- Null, or the data of a value. -/
def ofOption {α : Type} (write : α → Data) : Option α → Data
  | some a => write a
  | none => null

/-- The data of a set of texts, in order. -/
def ofTextSet (s : Std.ExtTreeSet String) : Data := list (s.toList.map text)

/-- The data of a table: one field for each entry, in order. -/
def ofTable {κ α : Type} [Ord κ] [Std.TransOrd κ] (key : κ → String) (write : α → Data)
    (table : Std.ExtTreeMap κ α) : Data :=
  record (table.toList.map fun (k, a) => (key k, write a))

end Data

end CharacterSheet
