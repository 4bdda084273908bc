import CharacterSheet.Data.Basic

/-!
# Building a TOML document

A document is built entry by entry: a header opens a table, and a key puts a value into the open
one. Which entries may meet is decided here. A table can be opened once; a table that only arose on
the way to another one can still be opened; a table that arose from a key with dots can be extended
by such keys only; and a value is never extended.
-/

namespace CharacterSheet.Toml

/-- How a table came to be. -/
inductive Origin where
  /-- By a header of its own. -/
  | header
  /-- On the way to a table with a header. -/
  | path
  /-- On the way of a key with dots. -/
  | dotted
deriving DecidableEq

/-- An entry of a document. -/
inductive Node where
  | value (d : Data)
  | table (origin : Origin) (entries : List (String × Node))
  /-- Tables with the same header in double brackets; the last one is open. -/
  | tables (elements : List (List (String × Node)))

/-- The entries of a table by name. -/
abbrev Entries := List (String × Node)

/-- Replaces the entry of a name that is there. -/
def Entries.replace (entries : Entries) (name : String) (node : Node) : Entries :=
  entries.map fun entry => if entry.1 = name then (name, node) else entry

/-- Adds an entry of a name that is not there. -/
def Entries.add (entries : Entries) (name : String) (node : Node) : Entries :=
  entries ++ [(name, node)]

/-- Changes the table at the end of a path, which is made on the way where it is missing. `dotted`
tells whether the path belongs to a key with dots, and `here` whether the present table arose from
one; `change` is told the same of the table at the end. -/
def changeAt (dotted : Bool) (change : Bool → Entries → Option Entries) :
    Bool → List String → Entries → Option Entries
  | here, [], entries => change here entries
  | _, name :: path, entries =>
    match entries.lookup name with
    | none => do
      let inner ← changeAt dotted change dotted path []
      return entries.add name (.table (if dotted then .dotted else .path) inner)
    | some (.value _) => none
    | some (.tables elements) => do
      let inner ← changeAt dotted change false path (← elements.getLast?)
      return entries.replace name (.tables (elements.dropLast ++ [inner]))
    | some (.table origin inner) =>
      if dotted && origin = .header then none
      else do
        let inner ← changeAt dotted change (origin = .dotted) path inner
        return entries.replace name (.table origin inner)

/-- Opens the table with a header. -/
def openTable (name : String) (entries : Entries) : Option Entries :=
  match entries.lookup name with
  | none => some (entries.add name (.table .header []))
  | some (.table .path inner) => some (entries.replace name (.table .header inner))
  | some _ => none

/-- Opens one more table with a header in double brackets. -/
def openElement (name : String) (entries : Entries) : Option Entries :=
  match entries.lookup name with
  | none => some (entries.add name (.tables [[]]))
  | some (.tables elements) => some (entries.replace name (.tables (elements ++ [[]])))
  | some _ => none

/-- Puts a value into a table. A table that arose from a key with dots takes only what such a key
puts there, and no other table does. -/
def putValue (name : String) (d : Data) (dotted here : Bool) (entries : Entries) :
    Option Entries :=
  if here ≠ dotted ∨ (entries.lookup name).isSome then none
  else some (entries.add name (.value d))

/-- Splits the last part off a path. -/
def splitPath? (path : List String) : Option (List String × String) :=
  path.getLast?.map fun name => (path.dropLast, name)

/-- Puts a value under a key into a table. -/
def putKey (key : List String) (d : Data) (entries : Entries) : Option Entries := do
  let (path, name) ← splitPath? key
  changeAt true (putValue name d (!path.isEmpty)) false path entries

mutual

/-- The data of an entry. -/
def Node.toData : Node → Data
  | .value d => d
  | .table _ entries => .record (entriesToData entries)
  | .tables elements => .list (elementsToData elements)

/-- The fields of a table. -/
def entriesToData : List (String × Node) → List (String × Data)
  | [] => []
  | (name, node) :: rest => (name, node.toData) :: entriesToData rest

/-- The items of a list of tables. -/
def elementsToData : List (List (String × Node)) → List Data
  | [] => []
  | entries :: rest => .record (entriesToData entries) :: elementsToData rest

end

end CharacterSheet.Toml
