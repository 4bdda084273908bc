import CharacterSheet.Json.Reader
import CharacterSheet.Json.Writer
import Mathlib.Data.List.Nodup

/-!
# Reading what was written

A document without fractions that is not nested too deep is read back from its JSON text as it was.
A value in the text ends where a comma, a bracket or the text itself ends it, so each reader is
shown to stop there and to answer what stands behind.
-/

namespace CharacterSheet.Json

/-! ## Quoted texts -/

/-- The number of a control character is read back from its hexadecimal digits. -/
theorem hex4?_hexDigit {n : Nat} (h : n < 0x20) :
    hex4? '0' '0' (hexDigit (n / 16)) (hexDigit n) = some n := by
  have hall : ∀ n ∈ List.range 0x20,
      hex4? '0' '0' (hexDigit (n / 16)) (hexDigit n) = some n := by decide
  exact hall n (List.mem_range.mpr h)

/-- A character that is not escaped is read as it stands. -/
theorem readText?_cons {c : Char} (hquote : c ≠ '"') (hslash : c ≠ '\\') (hcontrol : 0x20 ≤ c.toNat)
    (rest : List Char) :
    readText? (c :: rest) = (readText? rest).map fun (text, rest) => (c :: text, rest) := by
  rw [readText?]
  · rw [if_neg (by simp only [hslash, or_false]; omega)]
  · simpa using hquote
  · rintro a b d e rest rfl
    exact absurd rfl hslash
  · rintro d rest rfl
    exact absurd rfl hslash

/-- A character is read back from how it is escaped. -/
theorem readText?_escape (c : Char) (rest : List Char) :
    readText? (escape c ++ rest) =
      (readText? rest).map fun (text, rest) => (c :: text, rest) := by
  unfold escape
  split
  case h_8 hquote hslash _ _ _ _ _ =>
    split
    · next hcontrol =>
      rw [List.cons_append, List.cons_append, List.cons_append, List.cons_append, List.cons_append,
        List.cons_append, List.nil_append, readText?, hex4?_hexDigit hcontrol]
      dsimp only
      -- no control character is a surrogate
      rw [if_neg (by omega), if_neg (by omega), Char.ofNat_toNat]
    · next hcontrol => exact readText?_cons hquote hslash (by omega) rest
  all_goals simp [readText?, escape?]

/-- An escaped text is read up to the quotation mark behind it. -/
theorem readText?_quoted (s rest : List Char) :
    readText? (s.flatMap escape ++ '"' :: rest) = some (s, rest) := by
  induction s with
  | nil => rw [List.flatMap_nil, List.nil_append, readText?]
  | cons c s ih => rw [List.flatMap_cons, List.append_assoc, readText?_escape, ih]; rfl

/-- A quoted text is its escaped characters between quotation marks. -/
theorem toList_quote (s : String) :
    (quote s).toList = '"' :: (s.toList.flatMap escape ++ ['"']) := by
  rw [quote, String.toList_ofList, List.cons_append]

/-! ## Whole numbers -/

/-- The text behind a value: nothing, or what ends the value. -/
def EndsValue (rest : List Char) : Prop := ∀ c ∈ rest.head?, c ∈ [',', ']', '}']

/-- A value may end the whole text. -/
theorem endsValue_nil : EndsValue [] := by simp [EndsValue]

/-- A value may end before a comma or a closing bracket. -/
theorem endsValue_cons {c : Char} (h : c ∈ [',', ']', '}']) (rest : List Char) :
    EndsValue (c :: rest) := by
  simpa [EndsValue] using h

/-- If anything follows a value, it is a comma or a closing bracket. -/
theorem EndsValue.head {c : Char} {rest : List Char} (h : EndsValue (c :: rest)) :
    c = ',' ∨ c = ']' ∨ c = '}' := by
  simpa [EndsValue] using h

/-- Digits are digits. -/
theorem isDigit_of_mem_toDigits {n : Nat} {c : Char} (h : c ∈ Nat.toDigits 10 n) :
    Decimal.isDigit c = true := by
  have hdigit := Nat.isDigit_of_mem_toDigits (by decide) (by decide) h
  simp only [Char.isDigit, Bool.and_eq_true, decide_eq_true_eq] at hdigit
  simp only [Decimal.isDigit, Bool.and_eq_true, decide_eq_true_eq]
  exact hdigit

/-- A number that is not zero does not begin with the digit zero. -/
theorem head?_toDigits {n : Nat} (h : 0 < n) : (Nat.toDigits 10 n).head? ≠ some '0' := by
  induction n using Nat.strongRecOn with
  | ind n ih =>
    by_cases hsmall : n < 10
    · rw [Nat.toDigits_of_lt_base hsmall]
      simp
      omega
    · rw [Nat.toDigits_of_base_le (by decide) (by omega), List.head?_append_of_ne_nil _ (by simp)]
      exact ih (n / 10) (by omega) (by omega)

/-- The digits of a number are found before what ends it. -/
theorem takeWhile_toDigits (n : Nat) {rest : List Char} (hrest : EndsValue rest) :
    (Nat.toDigits 10 n ++ rest).takeWhile Decimal.isDigit = Nat.toDigits 10 n ∧
      (Nat.toDigits 10 n ++ rest).dropWhile Decimal.isDigit = rest := by
  have hdigits : ∀ c ∈ Nat.toDigits 10 n, Decimal.isDigit c = true :=
    fun _ => isDigit_of_mem_toDigits
  -- what follows a value is a comma, a bracket or nothing, and no digit
  have hend : rest.takeWhile Decimal.isDigit = [] ∧ rest.dropWhile Decimal.isDigit = rest := by
    cases rest with
    | nil => exact ⟨rfl, rfl⟩
    | cons c rest =>
      have hc : Decimal.isDigit c = false := by
        rcases hrest.head with rfl | rfl | rfl <;> rfl
      simp [hc]
  rw [List.takeWhile_append_of_pos hdigits, List.dropWhile_append_of_pos hdigits, hend.1, hend.2,
    List.append_nil]
  exact ⟨rfl, rfl⟩

/-- A number is read back from its digits. -/
theorem ofDigits_toDigits (n : Nat) : Decimal.ofDigits (Nat.toDigits 10 n) = n :=
  Nat.ofDigitChars_ten_toDigits

/-- Only the number zero begins with the digit zero. -/
theorem length_toDigits {n : Nat} (h : (Nat.toDigits 10 n).head? = some '0') :
    (Nat.toDigits 10 n).length = 1 := by
  rcases Nat.eq_zero_or_pos n with rfl | hpos
  · rfl
  · exact absurd h (head?_toDigits hpos)

/-- A number of 64 bits is read back from its sign and digits. -/
theorem readNumber?_digits {negative : Bool} {n : Nat} (hn : n < 0x10000000000000000)
    (hneg : negative = true → 0 < n ∧ n ≤ 0x8000000000000000) {rest : List Char}
    (hrest : EndsValue rest) :
    readNumber? ((if negative then ['-'] else []) ++ (Nat.toDigits 10 n ++ rest)) =
      some (.int (if negative then -(n : Int) else n), rest) := by
  obtain ⟨htake, hdrop⟩ := takeWhile_toDigits n hrest
  have hnumber : number? negative (Nat.toDigits 10 n) none none =
      some (.int (if negative then -(n : Int) else n)) := by
    rw [number?, ofDigits_toDigits]
    cases negative with
    | false => simp [hn]
    | true => simp [hn, hneg rfl]
  have hexponent : readExponent? rest = some (none, rest) := by
    cases rest with
    | nil => rfl
    | cons c rest =>
      have hc : ¬ (c = 'e' ∨ c = 'E') := by
        rcases hrest.head with rfl | rfl | rfl <;> decide
      rw [readExponent?, if_neg hc]
  have hpoint : ∀ behind, rest ≠ '.' :: behind := by
    rintro behind rfl
    exact absurd hrest.head (by decide)
  cases negative with
  | true =>
    have hwhole := length_toDigits (n := n)
    simpa [readNumber?, htake, hdrop, hexponent, hnumber] using hwhole
  | false =>
    -- a minus sign is no digit
    obtain ⟨c, digits, hdigits⟩ :=
      List.exists_cons_of_ne_nil (Nat.toDigits_ne_nil (n := n) (b := 10))
    have hc : c ≠ '-' := by
      rintro rfl
      have hmem : '-' ∈ Nat.toDigits 10 n := by simp [hdigits]
      exact absurd (isDigit_of_mem_toDigits hmem) (by decide)
    have hwhole : c = '0' → digits = [] := by simpa [hdigits] using length_toDigits (n := n)
    rw [hdigits, List.cons_append] at htake hdrop
    rw [hdigits] at hnumber
    simpa [readNumber?, hdigits, hc, htake, hdrop, hexponent, hnumber] using hwhole

/-- The text of a whole number: its digits, behind a minus sign if it is negative. -/
theorem toList_write_int (n : Int) :
    (write (.int n)).toList =
      (if n < 0 then ['-'] else []) ++ Nat.toDigits 10 n.natAbs := by
  rw [write]
  rcases n with n | n
  · have hpos : ¬ Int.ofNat n < 0 := by simp
    rw [if_neg hpos]
    simp [toString, Int.repr, Nat.toList_repr]
  · rw [if_pos (Int.negSucc_lt_zero n)]
    simp [toString, Int.repr, Nat.toList_repr]

/-! ## Documents -/

/-- The documents that are read back from their text: no fractions, whole numbers of 64 bits, no two
fields of one name in a record, and at most `depth` lists and records around any value. -/
inductive IsWritable : Nat → Data → Prop
  | null (depth) : IsWritable depth .null
  | bool (depth b) : IsWritable depth (.bool b)
  | int (depth) {n : Int} : -0x8000000000000000 ≤ n → n < 0x10000000000000000 →
      IsWritable depth (.int n)
  | text (depth s) : IsWritable depth (.text s)
  | list {depth items} : (∀ d ∈ items, IsWritable depth d) → IsWritable (depth + 1) (.list items)
  | record {depth fields} : (fields.map Prod.fst).Nodup →
      (∀ field ∈ fields, IsWritable depth field.2) → IsWritable (depth + 1) (.record fields)

/-- What may stand in few lists and records may stand in more. -/
theorem IsWritable.mono {depth more : Nat} {d : Data} (h : IsWritable depth d)
    (hle : depth ≤ more) : IsWritable more d := by
  induction h generalizing more with
  | null => exact .null more
  | bool _ b => exact .bool more b
  | int _ hlow hhigh => exact .int more hlow hhigh
  | text _ s => exact .text more s
  | list _ ih =>
    obtain ⟨fewer, rfl⟩ : ∃ fewer, more = fewer + 1 := ⟨more - 1, by omega⟩
    exact .list fun d hd => ih d hd (by omega)
  | record hnames _ ih =>
    obtain ⟨fewer, rfl⟩ : ∃ fewer, more = fewer + 1 := ⟨more - 1, by omega⟩
    exact .record hnames fun field hfield => ih field hfield (by omega)

/-- A digit differs from whatever is none. -/
theorem ne_of_isDigit {c d : Char} (hc : Decimal.isDigit c = true)
    (hd : Decimal.isDigit d = false) : c ≠ d := by
  rintro rfl
  exact absurd hc (by rw [hd]; decide)

/-- A digit is not a space. -/
theorem isSpace_of_isDigit {c : Char} (h : Decimal.isDigit c = true) : isSpace c = false := by
  rw [Bool.eq_false_iff]
  intro hspace
  simp only [isSpace, Bool.or_eq_true, beq_iff_eq] at hspace
  rcases hspace with ((rfl | rfl) | rfl) | rfl <;> exact absurd h (by decide)

/-- The text of a whole number begins with a minus sign or a digit. -/
theorem head_write_int (n : Int) :
    ∃ c rest, (write (.int n)).toList = c :: rest ∧ (c = '-' ∨ Decimal.isDigit c = true) := by
  rw [toList_write_int]
  split
  · exact ⟨'-', _, rfl, .inl rfl⟩
  · obtain ⟨c, digits, hdigits⟩ :=
      List.exists_cons_of_ne_nil (Nat.toDigits_ne_nil (n := n.natAbs) (b := 10))
    have hmem : c ∈ Nat.toDigits 10 n.natAbs := by simp [hdigits]
    exact ⟨c, digits, hdigits, .inr (isDigit_of_mem_toDigits hmem)⟩

/-- The text of a value begins with no white space and with no closing bracket. -/
theorem head_write (d : Data) (h : ∀ x, d ≠ .float x) :
    ∃ c rest, (write d).toList = c :: rest ∧ isSpace c = false ∧ c ≠ ']' := by
  cases d with
  | null => exact ⟨'n', _, rfl, by decide, by decide⟩
  | bool b => cases b with
    | true => exact ⟨'t', _, rfl, by decide, by decide⟩
    | false => exact ⟨'f', _, rfl, by decide, by decide⟩
  | int n =>
    obtain ⟨c, rest, htext, rfl | hdigit⟩ := head_write_int n
    · exact ⟨'-', rest, htext, by decide, by decide⟩
    · exact ⟨c, rest, htext, isSpace_of_isDigit hdigit, ne_of_isDigit hdigit (by decide)⟩
  | float x => exact absurd rfl (h x)
  | text s =>
    rw [write, toList_quote]
    exact ⟨'"', _, rfl, by decide, by decide⟩
  | list items =>
    rw [write, String.toList_append, String.toList_append]
    exact ⟨'[', _, rfl, by decide, by decide⟩
  | record fields =>
    rw [write, String.toList_append, String.toList_append]
    exact ⟨'{', _, rfl, by decide, by decide⟩

/-- Nothing is skipped before what is not a space. -/
theorem skipSpace_cons {c : Char} (h : isSpace c = false) (rest : List Char) :
    skipSpace (c :: rest) = c :: rest := by
  rw [skipSpace, List.dropWhile_cons_of_neg (by rw [h]; decide)]

/-- A value that is read back from its text, whatever ends it. -/
def ReadsBack (depth : Nat) (d : Data) : Prop :=
  ∀ fuel rest, 2 * (write d).toList.length ≤ fuel → EndsValue rest →
    readValue? fuel depth ((write d).toList ++ rest) = some (d, rest)

/-- The items of a list are written one by one, with commas between them. -/
theorem toList_writeItems_cons (d next : Data) (items : List Data) :
    (writeItems (d :: next :: items)).toList =
      (write d).toList ++ ',' :: (writeItems (next :: items)).toList := by
  rw [writeItems, String.toList_append, String.toList_append, List.append_assoc]
  · rfl
  · simp

/-- The items of a list are read back if each of them is. -/
theorem readItems?_write {depth : Nat} {items : List Data} (hne : items ≠ [])
    (h : ∀ d ∈ items, ReadsBack depth d) {fuel : Nat}
    (hfuel : 2 * (writeItems items).toList.length + 1 ≤ fuel) (rest : List Char) :
    readItems? fuel depth ((writeItems items).toList ++ ']' :: rest) =
      some (.list items, rest) := by
  induction items generalizing fuel with
  | nil => exact absurd rfl hne
  | cons d items ih =>
    -- one unit of fuel for each item and its comma, which the length of the text pays for
    obtain ⟨fuel, rfl⟩ : ∃ smaller, fuel = smaller + 1 := ⟨fuel - 1, by omega⟩
    have hd := h d (by simp)
    cases items with
    | nil =>
      rw [writeItems] at hfuel ⊢
      rw [readItems?, hd fuel _ (by omega) (endsValue_cons (by decide) rest)]
      simp only [skipSpace_cons (show isSpace ']' = false by decide)]
    | cons next items =>
      rw [toList_writeItems_cons, List.length_append, List.length_cons] at hfuel
      have hitems : readItems? fuel depth ((writeItems (next :: items)).toList ++ ']' :: rest) =
          some (.list (next :: items), rest) :=
        ih (by simp) (fun d hd => h d (by simp [hd])) (by omega)
      rw [toList_writeItems_cons, List.append_assoc, List.cons_append, readItems?,
        hd fuel _ (by omega) (endsValue_cons (by decide) _)]
      simp only [skipSpace_cons (show isSpace ',' = false by decide), hitems]

/-- A field with a new name is the last one. -/
theorem putField_of_notMem {name : String} (value : Data) {fields : List (String × Data)}
    (h : name ∉ fields.map Prod.fst) : putField name value fields = fields ++ [(name, value)] := by
  induction fields with
  | nil => rfl
  | cons field fields ih =>
    simp only [List.map_cons, List.mem_cons, not_or] at h
    rw [putField, if_neg (Ne.symm h.1), ih h.2, List.cons_append]

/-- The text of a field: its quoted name, a colon and its value. -/
def fieldText (field : String × Data) : List Char :=
  '"' :: (field.1.toList.flatMap escape ++ '"' :: ':' :: (write field.2).toList)

/-- A single field is written without a comma. -/
theorem toList_writeFields_singleton (field : String × Data) :
    (writeFields [field]).toList = fieldText field := by
  simp [writeFields, fieldText, toList_quote]

/-- The fields of a record are written one by one, with commas between them. -/
theorem toList_writeFields_cons (field next : String × Data) (fields : List (String × Data)) :
    (writeFields (field :: next :: fields)).toList =
      fieldText field ++ ',' :: (writeFields (next :: fields)).toList := by
  simp [writeFields, fieldText, toList_quote]

/-- Ends a record behind one of its fields or goes on to the next field. -/
def readBehind? (fuel depth : Nat) (fields : Data.Fields) :
    List Char → Option (Data × List Char)
  | '}' :: rest => some (.record fields, rest)
  | ',' :: rest => readFields? fuel depth fields rest
  | _ => none

/-- A field whose name is new is put behind the fields that were read before. -/
theorem readFields?_field {fuel depth : Nat} {before : List (String × Data)}
    {field : String × Data} (hnew : field.1 ∉ before.map Prod.fst)
    (h : ReadsBack depth field.2) (hfuel : 2 * (fieldText field).length ≤ fuel)
    {behind : List Char} (hends : EndsValue behind) :
    readFields? (fuel + 1) depth before (fieldText field ++ behind) =
      readBehind? fuel depth (before ++ [field]) (skipSpace behind) := by
  have hvalue : readValue? fuel depth ((write field.2).toList ++ behind) =
      some (field.2, behind) := by
    refine h fuel behind ?_ hends
    simp only [fieldText, List.length_cons, List.length_append] at hfuel
    omega
  have hput : putField field.1 field.2 before = before ++ [field] := putField_of_notMem _ hnew
  rw [fieldText, List.cons_append, List.append_assoc, List.cons_append, List.cons_append,
    readFields?]
  simp only [skipSpace_cons (show isSpace '"' = false by decide), readText?_quoted,
    skipSpace_cons (show isSpace ':' = false by decide), hvalue, String.ofList_toList, hput]
  rfl

/-- The fields of a record are read back if each of their values is, as long as no name is repeated.
-/
theorem readFields?_write {depth : Nat} {fields before : List (String × Data)} (hne : fields ≠ [])
    (hnames : ((before ++ fields).map Prod.fst).Nodup)
    (h : ∀ field ∈ fields, ReadsBack depth field.2) {fuel : Nat}
    (hfuel : 2 * (writeFields fields).toList.length + 1 ≤ fuel) (rest : List Char) :
    readFields? fuel depth before ((writeFields fields).toList ++ '}' :: rest) =
      some (.record (before ++ fields), rest) := by
  induction fields generalizing fuel before with
  | nil => exact absurd rfl hne
  | cons field fields ih =>
    -- as for items: the text of the field pays for its fuel
    obtain ⟨fuel, rfl⟩ : ∃ smaller, fuel = smaller + 1 := ⟨fuel - 1, by omega⟩
    have hnew : field.1 ∉ before.map Prod.fst := by
      rw [List.map_append, List.map_cons] at hnames
      exact fun hmem => List.disjoint_of_nodup_append hnames hmem (by simp)
    have hfield := h field (by simp)
    cases fields with
    | nil =>
      rw [toList_writeFields_singleton] at hfuel ⊢
      rw [readFields?_field hnew hfield (by omega) (endsValue_cons (by decide) rest),
        skipSpace_cons (by decide), readBehind?]
    | cons next fields =>
      rw [toList_writeFields_cons, List.length_append, List.length_cons] at hfuel
      have hfields : readFields? fuel depth (before ++ [field])
          ((writeFields (next :: fields)).toList ++ '}' :: rest) =
            some (.record (before ++ [field] ++ next :: fields), rest) :=
        ih (by simp) (by rwa [List.append_assoc]) (fun field hmem => h field (by simp [hmem]))
          (by omega)
      rw [toList_writeFields_cons, List.append_assoc, List.cons_append,
        readFields?_field hnew hfield (by omega) (endsValue_cons (by decide) _),
        skipSpace_cons (by decide), readBehind?, hfields, List.append_assoc, List.cons_append,
        List.nil_append]

/-- A number is read as such: none of the other values begins as it does. -/
theorem readValue?_number {c : Char} (h : c = '-' ∨ Decimal.isDigit c = true) (fuel depth : Nat)
    (rest : List Char) :
    readValue? (fuel + 1) depth (c :: rest) = readNumber? (c :: rest) := by
  -- the first character is none of those that open another kind of value
  have hne : ∀ d, d ≠ '-' → Decimal.isDigit d = false → c ≠ d := by
    rintro d hminus hdigit rfl
    rcases h with h | h
    · exact hminus h
    · exact absurd h (by rw [hdigit]; decide)
  have hspace : isSpace c = false := h.elim (fun h => h ▸ rfl) isSpace_of_isDigit
  rw [readValue?, skipSpace_cons hspace]
  split
  case h_7 => rfl
  all_goals
    next hcons => exact absurd (List.cons.inj hcons).1 (hne _ (by decide) (by decide))

/-- Integers of 64 bits are read back. -/
theorem readsBack_int {n : Int} (hlow : -0x8000000000000000 ≤ n) (hhigh : n < 0x10000000000000000)
    (depth : Nat) : ReadsBack depth (.int n) := by
  intro fuel rest hfuel hends
  obtain ⟨c, text, htext, hhead⟩ := head_write_int n
  obtain ⟨fuel, rfl⟩ : ∃ smaller, fuel = smaller + 1 :=
    ⟨fuel - 1, by rw [htext, List.length_cons] at hfuel; omega⟩
  rw [htext, List.cons_append, readValue?_number hhead, ← List.cons_append, ← htext,
    toList_write_int, List.append_assoc]
  have hsign : (if decide (n < 0) = true then -(n.natAbs : Int) else n.natAbs) = n := by
    by_cases hlt : n < 0
    · rw [if_pos (decide_eq_true hlt)]
      omega
    · rw [if_neg (by rw [decide_eq_true_eq]; exact hlt)]
      omega
  have hneg : decide (n < 0) = true → 0 < n.natAbs ∧ n.natAbs ≤ 0x8000000000000000 := by
    rw [decide_eq_true_eq]
    omega
  have hread := readNumber?_digits (by omega) hneg hends
  rw [hsign] at hread
  simpa only [decide_eq_true_eq] using hread

/-- Texts are read back. -/
theorem readsBack_text (depth : Nat) (s : String) : ReadsBack depth (.text s) := by
  intro fuel rest hfuel _
  rw [write, toList_quote] at hfuel ⊢
  obtain ⟨fuel, rfl⟩ : ∃ smaller, fuel = smaller + 1 :=
    ⟨fuel - 1, by rw [List.length_cons] at hfuel; omega⟩
  rw [List.cons_append, readValue?, skipSpace_cons (by decide)]
  simp [readText?_quoted]

/-- A list is read back if its items are. -/
theorem readsBack_list {depth : Nat} {items : List Data} (h : ∀ d ∈ items, ReadsBack depth d)
    (hwhole : ∀ d ∈ items, ∀ x, d ≠ .float x) : ReadsBack (depth + 1) (.list items) := by
  intro fuel rest hfuel _
  have htext : (write (.list items)).toList ++ rest =
      '[' :: ((writeItems items).toList ++ ']' :: rest) := by
    simp [write]
  have hlength : (write (.list items)).toList.length = (writeItems items).toList.length + 2 := by
    simp [write]
  obtain ⟨fuel, rfl⟩ : ∃ smaller, fuel = smaller + 1 := ⟨fuel - 1, by omega⟩
  rw [htext, readValue?, skipSpace_cons (by decide)]
  cases items with
  | nil =>
    rw [writeItems, String.toList_empty, List.nil_append]
    simp only [skipSpace_cons (show isSpace ']' = false by decide)]
  | cons d items =>
    have hread : readItems? fuel depth ((writeItems (d :: items)).toList ++ ']' :: rest) =
        some (.list (d :: items), rest) :=
      readItems?_write (List.cons_ne_nil d items) h (by omega) rest
    -- the text of the first item tells that the list is not empty
    obtain ⟨c, text, hitem, hspace, hbracket⟩ := head_write d (hwhole d (by simp))
    obtain ⟨text', htext'⟩ : ∃ text', (writeItems (d :: items)).toList = c :: text' := by
      cases items with
      | nil => exact ⟨text, by rw [writeItems, hitem]⟩
      | cons next items => exact ⟨_, by rw [toList_writeItems_cons, hitem, List.cons_append]⟩
    rw [htext', List.cons_append] at hread ⊢
    simp only [skipSpace_cons hspace]
    split
    · next hdepth => exact absurd hdepth (Nat.succ_ne_zero depth)
    · next hcons => exact absurd (List.cons.inj hcons).1 hbracket
    · next hdepth _ =>
      cases hdepth
      exact hread

/-- A record is read back if the values of its fields are. -/
theorem readsBack_record {depth : Nat} {fields : List (String × Data)}
    (hnames : (fields.map Prod.fst).Nodup) (h : ∀ field ∈ fields, ReadsBack depth field.2) :
    ReadsBack (depth + 1) (.record fields) := by
  intro fuel rest hfuel _
  have htext : (write (.record fields)).toList ++ rest =
      '{' :: ((writeFields fields).toList ++ '}' :: rest) := by
    simp [write]
  have hlength :
      (write (.record fields)).toList.length = (writeFields fields).toList.length + 2 := by
    simp [write]
  obtain ⟨fuel, rfl⟩ : ∃ smaller, fuel = smaller + 1 := ⟨fuel - 1, by omega⟩
  rw [htext, readValue?, skipSpace_cons (by decide)]
  cases fields with
  | nil =>
    rw [writeFields, String.toList_empty, List.nil_append]
    simp only [skipSpace_cons (show isSpace '}' = false by decide)]
  | cons field fields =>
    have hread : readFields? fuel depth [] ((writeFields (field :: fields)).toList ++ '}' :: rest) =
        some (.record (field :: fields), rest) :=
      readFields?_write (List.cons_ne_nil field fields) hnames h (by omega) rest
    -- a record that is not empty goes on with the quotation mark of its first name
    obtain ⟨text, htext⟩ : ∃ text, (writeFields (field :: fields)).toList = '"' :: text := by
      cases fields with
      | nil => exact ⟨_, by rw [toList_writeFields_singleton, fieldText]⟩
      | cons next fields =>
        exact ⟨_, by rw [toList_writeFields_cons, fieldText, List.cons_append]⟩
    rw [htext, List.cons_append] at hread ⊢
    simp only [skipSpace_cons (show isSpace '"' = false by decide)]
    exact hread

/-- The null value is read back. -/
theorem readsBack_null (depth : Nat) : ReadsBack depth .null := by
  intro fuel rest hfuel _
  have hpos : 0 < fuel := Nat.lt_of_lt_of_le (by decide) hfuel
  obtain ⟨fuel, rfl⟩ : ∃ smaller, fuel = smaller + 1 := ⟨fuel - 1, by omega⟩
  rfl

/-- Truth values are read back. -/
theorem readsBack_bool (depth : Nat) (b : Bool) : ReadsBack depth (.bool b) := by
  intro fuel rest hfuel _
  have hpos : 0 < fuel := Nat.lt_of_lt_of_le (by cases b <;> decide) hfuel
  obtain ⟨fuel, rfl⟩ : ∃ smaller, fuel = smaller + 1 := ⟨fuel - 1, by omega⟩
  cases b <;> rfl

/-- Every writable document is read back from its text, whatever ends it. -/
theorem readsBack {depth : Nat} {d : Data} (h : IsWritable depth d) : ReadsBack depth d := by
  induction h with
  | null depth => exact readsBack_null depth
  | bool depth b => exact readsBack_bool depth b
  | int depth hlow hhigh => exact readsBack_int hlow hhigh depth
  | text depth s => exact readsBack_text depth s
  | list hitems ih =>
    refine readsBack_list ih ?_
    rintro d hd x rfl
    nomatch hitems _ hd
  | record hnames _ ih => exact readsBack_record hnames ih

/-- A writable document is read back from its JSON text as it was. -/
theorem read?_write {d : Data} (h : IsWritable 127 d) : read? (write d) = some d := by
  have hread := readsBack h (2 * (write d).toList.length + 2) [] (by omega) endsValue_nil
  rw [List.append_nil] at hread
  rw [read?]
  simp only [hread]
  rfl

end CharacterSheet.Json
