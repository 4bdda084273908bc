import CharacterSheet.Toml.Scalar
import CharacterSheet.Toml.Tree

/-!
# Reading TOML

`Toml.read?` reads a TOML document. Lists and inline tables may be nested 79 deep, and a key
may have 79 parts. A date is read as a record with one field `datetime`.
-/

namespace CharacterSheet.Toml

mutual

/-- Reads a value. `fuel` bounds the recursion and `depth` counts how many lists and inline tables
may still be opened. -/
def readValue? : Nat → Nat → List Char → Option (Data × List Char)
  | 0, _, _ => none
  | fuel + 1, depth, s =>
    match s with
    | '[' :: rest =>
      match depth with
      | 0 => none
      | depth + 1 => readItems? fuel depth (skipLines (rest.length + 1) rest)
    | '{' :: rest =>
      match depth with
      | 0 => none
      | depth + 1 =>
        match skipBlanks rest with
        | '}' :: rest => some (.record [], rest)
        | rest => readInline? fuel depth [] rest
    | c :: rest =>
      if c = '"' ∨ c = '\'' then
        (string? (c :: rest)).map fun (text, rest) => (.text (String.ofList text), rest)
      else scalarValue? (c :: rest)
    | [] => none

/-- Reads the items of a list up to and with its closing bracket. A comma may stand behind the last
one. -/
def readItems? : Nat → Nat → List Char → Option (Data × List Char)
  | 0, _, _ => none
  | _ + 1, _, ']' :: rest => some (.list [], rest)
  | fuel + 1, depth, s => do
    let (item, rest) ← readValue? fuel depth s
    match skipLines (rest.length + 1) rest with
    | ']' :: rest => return (.list [item], rest)
    | ',' :: rest =>
      match ← readItems? fuel depth (skipLines (rest.length + 1) rest) with
      | (.list items, rest) => return (.list (item :: items), rest)
      | _ => none
    | _ => none

/-- Reads the entries of an inline table up to and with its closing brace; `entries` were read
before. -/
def readInline? : Nat → Nat → Entries → List Char → Option (Data × List Char)
  | 0, _, _, _ => none
  | fuel + 1, depth, entries, s => do
    let (key, rest) ← key? s
    match rest with
    | '=' :: rest =>
      let (value, rest) ← readValue? fuel depth (skipBlanks rest)
      let entries ← putKey key value entries
      match skipBlanks rest with
      | '}' :: rest => return (.record (entriesToData entries), rest)
      | ',' :: rest => readInline? fuel depth entries rest
      | _ => none
    | _ => none

end

/-- The document read so far, and the path of the open table. -/
structure Draft where
  root : Entries
  path : List String

/-- Reads one entry: a header, or a key with its value. -/
def readEntry? (draft : Draft) (s : List Char) : Option (Draft × List Char) := do
  match s with
  | '[' :: '[' :: rest =>
    let (key, rest) ← key? rest
    match rest with
    | ']' :: ']' :: rest =>
      let (path, name) ← splitPath? key
      let root ← changeAt false (fun _ => openElement name) false path draft.root
      return (⟨root, key⟩, rest)
    | _ => none
  | '[' :: rest =>
    let (key, rest) ← key? rest
    match rest with
    | ']' :: rest =>
      let (path, name) ← splitPath? key
      let root ← changeAt false (fun _ => openTable name) false path draft.root
      return (⟨root, key⟩, rest)
    | _ => none
  | s =>
    let (key, rest) ← key? s
    match rest with
    | '=' :: rest =>
      let (value, rest) ← readValue? (2 * rest.length + 2) 79 (skipBlanks rest)
      let root ← changeAt false (fun _ => putKey key value) false draft.path draft.root
      return (⟨root, draft.path⟩, rest)
    | _ => none

/-- Reads the remaining lines of a document; `fuel` bounds their number. A line holds one entry at
most and a comment at most. -/
def readLines? : Nat → Draft → List Char → Option Draft
  | 0, _, _ => none
  | fuel + 1, draft, s => do
    let s := skipBlanks s
    let (draft, rest) ←
      match s with
      | [] => some (draft, [])
      | c :: _ => if c = '#' ∨ (newline? s).isSome then some (draft, s) else readEntry? draft s
    match skipComment (skipBlanks rest) with
    | [] => return draft
    | rest => readLines? fuel draft (← newline? rest)

/-- Reads a document. A byte order mark before it is passed over. -/
def read? (s : String) : Option Data := do
  let chars := match s.toList with
    | '\uFEFF' :: rest => rest
    | chars => chars
  let draft ← readLines? (chars.length + 1) ⟨[], []⟩ chars
  return .record (entriesToData draft.root)

end CharacterSheet.Toml
