import CharacterSheet.Text.Case

/-!
# Text

Trimming, folding, splitting and searching. Names on a sheet are typed by people, so most of them
are compared in *folded* form: blanks trimmed off both ends and every letter lower-cased. The
functions on `List Char` do the work and those on `String` wrap them.
-/

namespace CharacterSheet.Text

/-- Drops leading blanks. -/
def trimStartChars (s : List Char) : List Char := s.dropWhile isBlank

/-- Drops trailing blanks. -/
def trimEndChars (s : List Char) : List Char := (s.reverse.dropWhile isBlank).reverse

/-- Drops blanks at both ends. -/
def trimChars (s : List Char) : List Char := trimEndChars (trimStartChars s)

/-- Whether `needle` occurs in the text as a run of consecutive characters. -/
def containsChars (needle : List Char) : List Char → Bool
  | [] => needle.isEmpty
  | c :: rest => needle.isPrefixOf (c :: rest) || containsChars needle rest

/-- The pieces of a text between the occurrences of a separator, found from left to right without
overlap; `skip` characters of an occurrence already found are still to be passed. -/
def splitFrom (separator : List Char) : Nat → List Char → List (List Char)
  | _, [] => [[]]
  | skip + 1, _ :: rest => splitFrom separator skip rest
  | 0, c :: rest =>
    if separator.isPrefixOf (c :: rest) then [] :: splitFrom separator (separator.length - 1) rest
    else (splitFrom separator 0 rest).modifyHead (c :: ·)

/-- The pieces of a text between the occurrences of a non-empty separator. -/
def splitChars (separator s : List Char) : List (List Char) := splitFrom separator 0 s

/-- The pieces of a text between the characters that satisfy `p`. -/
def splitWhere (p : Char → Bool) : List Char → List (List Char)
  | [] => [[]]
  | c :: rest =>
    if p c then [] :: splitWhere p rest else (splitWhere p rest).modifyHead (c :: ·)

/-- The words of a text: its maximal runs of characters that are no `gap`. -/
def wordsBetween (gap : Char → Bool) (s : List Char) : List (List Char) :=
  (splitWhere gap s).filter (!·.isEmpty)

/-- Drops blanks at both ends. -/
def trim (s : String) : String := String.ofList (trimChars s.toList)

/-- Full lower-casing. -/
def lower (s : String) : String := String.ofList (lowerChars s.toList)

/-- The form in which names are compared: trimmed, then lower-cased. -/
def fold (s : String) : String := lower (trim s)

/-- Equality up to the case of the 26 Latin letters. -/
def sameLatin (s t : String) : Bool := s.toList.map asciiLower == t.toList.map asciiLower

/-- The rest of a text behind a given beginning. -/
def after? (beginning s : String) : Option String :=
  (beginning.toList.isPrefixOf? s.toList).map String.ofList

/-- The part of a text before a given ending. -/
def before? (ending s : String) : Option String :=
  (ending.toList.isSuffixOf? s.toList).map String.ofList

/-- Whether a text begins with `beginning`. -/
def startsWith (beginning s : String) : Bool := beginning.toList.isPrefixOf s.toList

/-- The parts of a text before and after the last occurrence of a character. -/
def splitLast? (separator : Char) (s : String) : Option (String × String) :=
  let backwards := s.toList.reverse
  match backwards.dropWhile (· != separator) with
  | [] => none
  | _ :: front =>
    some (String.ofList front.reverse,
      String.ofList (backwards.takeWhile (· != separator)).reverse)

end CharacterSheet.Text
