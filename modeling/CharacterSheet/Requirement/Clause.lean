import CharacterSheet.Requirement.Basic
import CharacterSheet.Text.Number

/-!
# Clauses

Prerequisites are written as clauses in free text. A clause is brought into normal form and then
tried against the known forms in a fixed order; what fits none of them is taken for the name of
something that the character has to possess.

Each form is a function on the characters of a normal form, which has no blanks at its ends. The
two forms with alternatives, `(…) or (…)` and `… or …`, read their parts as clauses again.
-/

namespace CharacterSheet.Clause

open Text

/-! ## Normal form -/

/-- Words that may stand behind the name of something to possess. -/
def qualifiers : List (List Char) :=
  ["species trait".toList, "force power".toList, "feat".toList, "talent".toList]

/-- The text before a qualifier that a plain space sets off, without blanks at its end. -/
def withoutQualifier? (s qualifier : List Char) : Option (List Char) :=
  match qualifier.isSuffixOf? s with
  | some front => if front.getLast? = some ' ' then some (trimEndChars front) else none
  | none => none

/-- The text without the first qualifier in the list that it ends with. -/
def stripQualifier (s : List Char) : List Char :=
  (qualifiers.findSome? (withoutQualifier? s)).getD s

/-- The text without the full stops at its end, and the blanks before and between them. -/
def stripStops (s : List Char) : List Char :=
  (s.reverse.dropWhile fun c => c == '.' || isBlank c).reverse

/-- The normal form of a clause: trimmed, in lower case, without full stops at its end and without
a qualifier. -/
def normalForm (s : List Char) : List Char :=
  stripQualifier (stripStops (lowerChars (trimChars s)))

/-- The normal form of a clause. -/
def normalize (s : String) : String := String.ofList (normalForm s.toList)

/-! ## Narrative clauses -/

/-- Phrases that leave a clause to the game master. -/
def narrativePhrases : List (List Char) :=
  let authorities := ["gm", "gamemaster", "game master"]
  let possessives := ["", "'s"]
  let grants := [" approval", " permission"]
  (authorities.flatMap fun a => possessives.flatMap fun p => grants.map fun g =>
    (a ++ p ++ g).toList) ++ ["dark side score".toList, "possess an implant".toList]

/-- Whether a narrative phrase occurs in the text. -/
def isNarrative (s : List Char) : Bool := narrativePhrases.any fun p => containsChars p s

/-! ## Alternatives in parentheses -/

/-- One or more blanks at the beginning are passed over. -/
def blanks? : List Char → Option (List Char)
  | [] => none
  | c :: rest => if isBlank c then some (trimStartChars rest) else none

/-- What stands behind `) or (` up to a closing parenthesis at the end, on one line. -/
def secondGroup? (s : List Char) : Option (List Char) := do
  let s ← [')'].isPrefixOf? s
  let s ← blanks? s
  let s ← "or".toList.isPrefixOf? s
  let s ← blanks? s
  let s ← ['('].isPrefixOf? s
  let inner ← [')'].isSuffixOf? s
  if inner.isEmpty || inner.contains '\n' then none else some inner

/-- Divides the rest of a text at the last `) or (` that leaves one line before it. -/
def divide? : List Char → Option (List Char × List Char)
  | [] => none
  | c :: rest =>
    match if c = '\n' then none else divide? rest with
    | some (first, second) => some (c :: first, second)
    | none => (secondGroup? (c :: rest)).map fun second => ([], second)

/-- The two groups of `(…) or (…)`. Neither is empty, and the first one reaches as far as it can. -/
def groups? : List Char → Option (List Char × List Char)
  | '(' :: c :: rest =>
    if c = '\n' then none
    else (divide? rest).map fun (first, second) => (c :: first, second)
  | _ => none

/-! ## Trained skills -/

/-- The skills of a list, divided by a word and by commas; blank items are dropped. -/
def skillList (word s : List Char) : List Requirement :=
  let items := (splitChars word s).flatMap fun part => (splitWhere (· == ',') part).map trimChars
  (items.filter (!·.isEmpty)).map fun item => .trainedSkill (String.ofList item)

/-- What `trained in` asks for: any Knowledge skill, one of several skills, all of several, or
one. -/
def training (s : List Char) : Requirement :=
  let s := trimChars s
  if containsChars "at least one knowledge skill".toList s then .anyKnowledgeSkill
  else if containsChars " or ".toList s then .anyOf (skillList " or ".toList s)
  else if containsChars " and ".toList s || s.contains ',' then .allOf (skillList " and ".toList s)
  else .trainedSkill (String.ofList s)

/-- What stands behind a beginning, on the rest of the line. -/
def restOfLine? (beginning s : List Char) : Option (List Char) := do
  let rest ← beginning.isPrefixOf? s
  if rest.isEmpty || rest.contains '\n' then none else some rest

/-- `trained in …` -/
def trained? (s : List Char) : Option Requirement :=
  (restOfLine? "trained in ".toList s).map training

/-! ## Appendages and sizes -/

/-- The number words. -/
def numberWords : List (List Char × Nat) :=
  [("one".toList, 1), ("two".toList, 2), ("three".toList, 3), ("four".toList, 4),
    ("five".toList, 5), ("six".toList, 6)]

/-- The count that a number word or digits give, up to 32 bits. -/
def count? (word : List Char) : Option UInt32 :=
  ((numberWords.lookup word) <|> natUpTo? 4294967295 word).map UInt32.ofNat

/-- Whether a word can say of which kind an appendage is: small Latin letters, and hyphens behind
the first one. -/
def isKind : List Char → Bool
  | [] => false
  | c :: rest => isLetter c && rest.all fun c => isLetter c || c == '-'
where
  /-- A small Latin letter. -/
  isLetter (c : Char) : Bool := 'a' ≤ c && c ≤ 'z'

/-- Whether a word means locomotion (`true`) or appendages (`false`). -/
def limb? (word : List Char) : Option Bool :=
  if word = "locomotion".toList then some true
  else if word = "appendage".toList ∨ word = "appendages".toList then some false
  else none

/-- An optional count, an optional kind, and `appendages` or `locomotion`. -/
def appendage? (s : List Char) : Option Requirement :=
  match wordsBetween isBlank s with
  | [limb] => (limb? limb).map (.appendage 1 none ·)
  | [word, limb] => do
    let locomotion ← limb? limb
    match count? word with
    | some count => return .appendage count none locomotion
    | none =>
      if isKind word then return .appendage 1 (some (String.ofList word)) locomotion else none
  | [count, kind, limb] => do
    let locomotion ← limb? limb
    let count ← count? count
    if isKind kind then return .appendage count (some (String.ofList kind)) locomotion else none
  | _ => none

/-- A size and `or larger`. -/
def sizeOrLarger? (s : List Char) : Option Requirement :=
  (Size.all.find? fun size => (size.name ++ " or larger").toList = s).map .sizeOrLarger

/-! ## Free alternatives -/

/-- Whether a text goes on with `or` between blanks and, behind them, the rest of a line. -/
def continuesWithOr (s : List Char) : Bool :=
  match (blanks? s).bind ("or".toList.isPrefixOf? ·) with
  | some rest =>
    match blanks? rest with
    | some tail => !tail.isEmpty && !tail.contains '\n'
    | none => false
  | none => false

/-- Whether `or` stands between blanks somewhere behind the first character, with one line before
and one behind it. -/
def hasFreeOr : List Char → Bool
  | [] => false
  | c :: rest => c ≠ '\n' && (continuesWithOr rest || hasFreeOr rest)

/-! ## Numbers -/

/-- The number of 32 bits that digits write. -/
def number? (digits : List Char) : Option Int32 := (natUpTo? 2147483647 digits).map Int32.ofNat

/-- An ability and the least score, behind which a plus sign may stand. -/
def ability? (s : List Char) : Option Requirement :=
  Ability.all.findSome? fun a =>
    [a.name, a.abbreviation].findSome? fun name => do
      let rest ← blanks? (← name.toList.isPrefixOf? s)
      return .abilityAtLeast a (← number? ((['+'].isSuffixOf? rest).getD rest))

/-- `base attack bonus` and the least bonus, before which a plus sign may stand. -/
def baseAttackBonus? (s : List Char) : Option Requirement := do
  let rest := trimStartChars (← "base attack bonus".toList.isPrefixOf? s)
  return .baseAttackBonus (← number? ((['+'].isPrefixOf? rest).getD rest))

/-- The endings of ordinal numbers. -/
def ordinalEndings : List (List Char) := ["st".toList, "nd".toList, "rd".toList, "th".toList]

/-- An ordinal number and `character level`. -/
def characterLevel? (s : List Char) : Option Requirement := do
  let limit ← number? (s.takeWhile Decimal.isDigit)
  let rest ← ordinalEndings.findSome? (·.isPrefixOf? (s.dropWhile Decimal.isDigit))
  if blanks? rest = some "character level".toList then return .characterLevel limit else none

/-! ## Proficiencies and droids -/

/-- `proficient with …` -/
def proficient? (s : List Char) : Option Requirement :=
  (restOfLine? "proficient with ".toList s).map fun rest =>
    .proficient (String.ofList (trimChars rest))

/-- Whether a text asks for a droid. -/
def isDroid (s : List Char) : Bool :=
  s = "droid".toList || s = "must be a droid".toList || s = "must be an droid".toList

/-- Beginnings that rule a droid out, each with a character that may follow. -/
def negations : List (List Char × Char) :=
  [("cannot be a".toList, 'n'), ("can't be a".toList, 'n'), ("not a".toList, 'n'),
    ("non".toList, '-')]

/-- Whether a text rules a droid out. -/
def isNoDroid (s : List Char) : Bool :=
  negations.any fun (beginning, optional) =>
    match beginning.isPrefixOf? s with
    | some rest => trimStartChars (([optional].isPrefixOf? rest).getD rest) = "droid".toList
    | none => false

/-- A text about droids. -/
def droid? (s : List Char) : Option Requirement :=
  if isDroid s then some (.droid true)
  else if isNoDroid s then some (.droid false)
  else none

/-! ## Parsing -/

/-- The forms that are tried before free alternatives. -/
def beforeOr? (s : List Char) : Option Requirement :=
  trained? s <|> appendage? s <|> sizeOrLarger? s

/-- The forms that are tried after free alternatives. -/
def afterOr? (s : List Char) : Option Requirement :=
  ability? s <|> baseAttackBonus? s <|> characterLevel? s <|> proficient? s <|> droid? s

/-- Reads a normal form, given how its parts are read. Alternatives are read only if all of their
parts are. -/
def readWith (part : List Char → Option Requirement) (s : List Char) : Option Requirement :=
  if isNarrative s then some (.narrative (String.ofList s))
  else
    match groups? s with
    | some (first, second) => ([first, second].mapM part).map .anyOf
    | none =>
      match beforeOr? s with
      | some requirement => some requirement
      | none =>
        if hasFreeOr s then ((splitChars " or ".toList s).mapM part).map .anyOf
        else some ((afterOr? s).getD (.possession (String.ofList s)))

/-- Reads a normal form. A part of it is read in the same way, in normal form, if that is shorter.
It is not where blanks other than plain spaces stand around an `or`: the only part is then the text
itself, and reading comes to no end. -/
def ofNormalForm (s : List Char) : Option Requirement :=
  readWith (fun piece =>
    if _h : (normalForm piece).length < s.length then ofNormalForm (normalForm piece)
    else none) s
termination_by s.length

/-- The requirement that a clause states, if reading it comes to an end. -/
def parse (s : String) : Option Requirement := ofNormalForm (normalForm s.toList)

end CharacterSheet.Clause
