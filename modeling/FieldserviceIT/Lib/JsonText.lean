import Mathlib.Data.Rat.Encodable
import Mathlib.Tactic.SplitIfs
import FieldserviceIT.Lib.Json

/-!
JSON values as text. What `JSON.stringify` writes of a value, `JSON.parse` reads as this value. How
numbers are written is a parameter: their text is made of the characters of numerals, and is read
as the number it was written for.
-/

namespace FieldserviceIT.Lib.JsonText

section Strings

def escapeLetter (c : Char) : Option Char :=
  if c = '"' then some '"'
  else if c = '\\' then some '\\'
  else if c = '\n' then some 'n'
  else if c = '\r' then some 'r'
  else if c = '\t' then some 't'
  else if c.toNat = 8 then some 'b'
  else if c.toNat = 12 then some 'f'
  else none

def hexDigit (n : Nat) : Char :=
  Char.ofNat (if n < 10 then 48 + n else 87 + n)

def hexValue (c : Char) : Option Nat :=
  let n := c.toNat
  if 48 ≤ n ∧ n ≤ 57 then some (n - 48)
  else if 97 ≤ n ∧ n ≤ 102 then some (n - 87)
  else if 65 ≤ n ∧ n ≤ 70 then some (n - 55)
  else none

def escape (c : Char) : List Char :=
  match escapeLetter c with
  | some letter => ['\\', letter]
  | none =>
    if c.toNat < 32 then
      ['\\', 'u', '0', '0', hexDigit (c.toNat / 16), hexDigit (c.toNat % 16)]
    else [c]

def quote (text : List Char) : List Char :=
  '"' :: (text.flatMap escape ++ ['"'])

def unescapeLetter (letter : Char) : Option Char :=
  if letter = '"' then some '"'
  else if letter = '\\' then some '\\'
  else if letter = '/' then some '/'
  else if letter = 'n' then some '\n'
  else if letter = 'r' then some '\r'
  else if letter = 't' then some '\t'
  else if letter = 'b' then some (Char.ofNat 8)
  else if letter = 'f' then some (Char.ofNat 12)
  else none

/-- Where in a text the reader is: in a code it has some digits to go. -/
inductive Reading where
  | plain
  | escaped
  | code (left value : Nat)

/-- The text up to the closing quote, and what is behind it. A half of a surrogate pair is no
character. -/
def unquote : Reading → List Char → Option (List Char × List Char)
  | _, [] => none
  | .plain, c :: rest =>
    if c = '"' then some ([], rest)
    else if c = '\\' then unquote .escaped rest
    else if c.toNat < 32 then none
    else (unquote .plain rest).map fun read => (c :: read.1, read.2)
  | .escaped, c :: rest =>
    if c = 'u' then unquote (.code 3 0) rest
    else
      match unescapeLetter c with
      | some letter => (unquote .plain rest).map fun read => (letter :: read.1, read.2)
      | none => none
  | .code left value, c :: rest =>
    match hexValue c with
    | none => none
    | some digit =>
      let value := 16 * value + digit
      match left with
      | left + 1 => unquote (.code left value) rest
      | 0 =>
        if value.isValidChar then
          (unquote .plain rest).map fun read => (Char.ofNat value :: read.1, read.2)
        else none

theorem hexValue_hexDigit {n : Nat} (h : n < 16) : hexValue (hexDigit n) = some n := by
  have hall : ∀ n : Fin 16, hexValue (hexDigit n) = some n.val := by decide
  exact hall ⟨n, h⟩

theorem unescapeLetter_of_escapeLetter {c letter : Char} (h : escapeLetter c = some letter) :
    letter ≠ 'u' ∧ unescapeLetter letter = some c := by
  have hcode : ∀ n : Nat, c.toNat = n → c = Char.ofNat n := by
    rintro n rfl
    exact (Char.ofNat_toNat c).symm
  rw [escapeLetter] at h
  split_ifs at h with hquote hslash hn hr ht hb hf
  all_goals obtain rfl := Option.some.inj h
  · rw [hquote]; decide
  · rw [hslash]; decide
  · rw [hn]; decide
  · rw [hr]; decide
  · rw [ht]; decide
  · rw [hcode 8 hb]; decide
  · rw [hcode 12 hf]; decide

theorem unquote_escape (c : Char) (rest : List Char) :
    unquote .plain (escape c ++ rest) =
      (unquote .plain rest).map fun read => (c :: read.1, read.2) := by
  rw [escape]
  cases hletter : escapeLetter c with
  | some letter =>
    obtain ⟨hu, hback⟩ := unescapeLetter_of_escapeLetter hletter
    simp [unquote, hu, hback]
  | none =>
    dsimp only
    split
    next hcontrol =>
      have hvalid : (c.toNat).isValidChar := c.valid
      have hhigh := hexValue_hexDigit (n := c.toNat / 16) (by omega)
      have hlow := hexValue_hexDigit (n := c.toNat % 16) (by omega)
      have hzero : hexValue '0' = some 0 := by decide
      have hcode : 16 * (c.toNat / 16) + c.toNat % 16 = c.toNat := by omega
      simp [unquote, hzero, hhigh, hlow, hcode, hvalid]
    next hcontrol =>
      have hquote : c ≠ '"' := by
        rintro rfl
        cases hletter
      have hslash : c ≠ '\\' := by
        rintro rfl
        cases hletter
      simp [unquote, hquote, hslash, hcontrol]

theorem unquote_quoted (text rest : List Char) :
    unquote .plain (text.flatMap escape ++ '"' :: rest) = some (text, rest) := by
  induction text with
  | nil => rfl
  | cons c text ih =>
    rw [List.flatMap_cons, List.append_assoc, unquote_escape, ih]
    rfl

end Strings

section Values

def isNumeral (c : Char) : Bool :=
  c.isDigit || c = '-' || c = '+' || c = '.' || c = 'e' || c = 'E'

def isSpace (c : Char) : Bool :=
  c = ' ' || c = '\t' || c = '\n' || c = '\r'

/-- How numbers are written and read. -/
structure Numerals where
  write : Rat → List Char
  read : List Char → Option Rat
  write_ne_nil : ∀ n, write n ≠ []
  isNumeral_write : ∀ n, ∀ c ∈ write n, isNumeral c = true
  read_write : ∀ n, read (write n) = some n

variable (numerals : Numerals)

mutual

def write : Json → List Char
  | .null => ['n', 'u', 'l', 'l']
  | .bool true => ['t', 'r', 'u', 'e']
  | .bool false => ['f', 'a', 'l', 's', 'e']
  | .number value => numerals.write value
  | .text value => quote value.toList
  | .array [] => ['[', ']']
  | .array (item :: items) => '[' :: (write item ++ writeItems items)
  | .object [] => ['\x7b', '\x7d']
  | .object ((name, value) :: fields) =>
    '\x7b' :: (quote name.toList ++ ':' :: (write value ++ writeFields fields))

def writeItems : List Json → List Char
  | [] => [']']
  | item :: items => ',' :: (write item ++ writeItems items)

def writeFields : List (String × Json) → List Char
  | [] => ['\x7d']
  | (name, value) :: fields =>
    ',' :: (quote name.toList ++ ':' :: (write value ++ writeFields fields))

end

def skip (text : List Char) : List Char :=
  text.dropWhile isSpace

def readWord (text : List Char) : Option (Json × List Char) :=
  if ['n', 'u', 'l', 'l'].isPrefixOf text then some (.null, text.drop 4)
  else if ['t', 'r', 'u', 'e'].isPrefixOf text then some (.bool true, text.drop 4)
  else if ['f', 'a', 'l', 's', 'e'].isPrefixOf text then some (.bool false, text.drop 5)
  else none

def readNumber (text : List Char) : Option (Json × List Char) :=
  (numerals.read (text.takeWhile isNumeral)).map fun value =>
    (.number value, text.dropWhile isNumeral)

def readName (text : List Char) : Option (String × List Char) :=
  match skip text with
  | '"' :: text =>
    (unquote .plain text).bind fun name =>
      match skip name.2 with
      | ':' :: text => some (String.ofList name.1, text)
      | _ => none
  | _ => none

mutual

def readValue : Nat → List Char → Option (Json × List Char)
  | 0, _ => none
  | fuel + 1, text =>
    match skip text with
    | [] => none
    | c :: rest =>
      if c = '"' then
        (unquote .plain rest).map fun read => (.text (String.ofList read.1), read.2)
      else if c = '[' then
        if (skip rest).head? = some ']' then some (.array [], (skip rest).tail)
        else
          (readValue fuel rest).bind fun item =>
            (readItems fuel item.2).map fun items => (.array (item.1 :: items.1), items.2)
      else if c = '\x7b' then
        if (skip rest).head? = some '\x7d' then some (.object [], (skip rest).tail)
        else
          (readField fuel rest).bind fun field =>
            (readFields fuel field.2).map fun fields =>
              (.object (field.1 :: fields.1), fields.2)
      else if isNumeral c then readNumber numerals (c :: rest)
      else readWord (c :: rest)

def readItems : Nat → List Char → Option (List Json × List Char)
  | 0, _ => none
  | fuel + 1, text =>
    match skip text with
    | ']' :: rest => some ([], rest)
    | ',' :: rest =>
      (readValue fuel rest).bind fun item =>
        (readItems fuel item.2).map fun items => (item.1 :: items.1, items.2)
    | _ => none

def readField : Nat → List Char → Option ((String × Json) × List Char)
  | 0, _ => none
  | fuel + 1, text =>
    (readName text).bind fun name =>
      (readValue fuel name.2).map fun value => ((name.1, value.1), value.2)

def readFields : Nat → List Char → Option (List (String × Json) × List Char)
  | 0, _ => none
  | fuel + 1, text =>
    match skip text with
    | '\x7d' :: rest => some ([], rest)
    | ',' :: rest =>
      (readField fuel rest).bind fun field =>
        (readFields fuel field.2).map fun fields => (field.1 :: fields.1, fields.2)
    | _ => none

end

/-- `JSON.stringify` -/
def stringify (value : Json) : String :=
  String.ofList (write numerals value)

/-- `JSON.parse`, which keeps the entries of an object as they are written. -/
def parse (text : String) : Option Json :=
  (readValue numerals (text.toList.length + 1) text.toList).bind fun read =>
    if skip read.2 = [] then some read.1 else none

def Ends (text : List Char) : Prop :=
  ∀ c ∈ text.head?, isNumeral c = false

variable {numerals}

theorem skip_cons {c : Char} (h : isSpace c = false) (text : List Char) :
    skip (c :: text) = c :: text := by
  rw [skip, List.dropWhile_cons, if_neg (by rw [h]; decide)]

theorem not_isSpace_of_isNumeral {c : Char} (h : isNumeral c = true) :
    isSpace c = false ∧ c ≠ '"' ∧ c ≠ '[' ∧ c ≠ '\x7b' ∧ c ≠ ']' := by
  refine ⟨?_, ?_, ?_, ?_, ?_⟩
  · rw [Bool.eq_false_iff]
    intro hspace
    simp only [isSpace, Bool.or_eq_true, decide_eq_true_eq] at hspace
    obtain ((rfl | rfl) | rfl) | rfl := hspace <;> exact absurd h (by decide)
  all_goals
    rintro rfl
    exact absurd h (by decide)

theorem write_head (numerals : Numerals) (value : Json) :
    ∃ c text, write numerals value = c :: text ∧ isSpace c = false ∧ c ≠ ']' := by
  cases value with
  | null => exact ⟨_, _, rfl, by decide⟩
  | bool value => cases value <;> exact ⟨_, _, rfl, by decide⟩
  | number value =>
    cases hwrite : numerals.write value with
    | nil => exact absurd hwrite (numerals.write_ne_nil value)
    | cons c text =>
      have hnumeral := numerals.isNumeral_write value c (hwrite ▸ List.mem_cons_self)
      obtain ⟨hspace, -, -, -, hclose⟩ := not_isSpace_of_isNumeral hnumeral
      exact ⟨c, text, hwrite, hspace, hclose⟩
  | text value => exact ⟨_, _, rfl, by decide⟩
  | array items => cases items <;> exact ⟨_, _, rfl, by decide⟩
  | object fields => cases fields <;> exact ⟨_, _, rfl, by decide⟩

theorem readNumber_write (numerals : Numerals) (value : Rat) {rest : List Char} (h : Ends rest) :
    readNumber numerals (numerals.write value ++ rest) = some (.number value, rest) := by
  have hall : ∀ c ∈ numerals.write value, isNumeral c = true := numerals.isNumeral_write value
  have htake : (numerals.write value ++ rest).takeWhile isNumeral = numerals.write value := by
    rw [List.takeWhile_append_of_pos hall]
    cases rest with
    | nil => exact List.append_nil _
    | cons c rest =>
      rw [List.takeWhile_cons, h c rfl, if_neg Bool.false_ne_true, List.append_nil]
  have hdrop : (numerals.write value ++ rest).dropWhile isNumeral = rest := by
    rw [List.dropWhile_append_of_pos hall]
    cases rest with
    | nil => rfl
    | cons c rest => rw [List.dropWhile_cons, h c rfl, if_neg Bool.false_ne_true]
  rw [readNumber, htake, hdrop, numerals.read_write]
  rfl

theorem readName_quote (name : String) (rest : List Char) :
    readName (quote name.toList ++ ':' :: rest) = some (name, rest) := by
  have hquote : quote name.toList ++ ':' :: rest =
      '"' :: (name.toList.flatMap escape ++ '"' :: ':' :: rest) := by
    simp [quote]
  rw [hquote, readName, skip_cons (by decide)]
  simp [unquote_quoted, skip_cons (c := ':') (by decide)]

theorem ends_writeItems (items : List Json) (rest : List Char) :
    Ends (writeItems numerals items ++ rest) := by
  intro c hc
  cases items <;> obtain rfl := Option.some.inj hc <;> decide

theorem ends_writeFields (fields : List (String × Json)) (rest : List Char) :
    Ends (writeFields numerals fields ++ rest) := by
  intro c hc
  cases fields <;> obtain rfl := Option.some.inj hc <;> decide

theorem readField_write {fuel : Nat} (name : String) {value : Json} {text rest : List Char}
    (h : readValue numerals fuel text = some (value, rest)) :
    readField numerals (fuel + 1) (quote name.toList ++ ':' :: text) =
      some ((name, value), rest) := by
  rw [readField, readName_quote, Option.bind_some, h]
  rfl

mutual

theorem readValue_write : ∀ (value : Json) (fuel : Nat) (rest : List Char),
    (write numerals value).length ≤ fuel → Ends rest →
      readValue numerals fuel (write numerals value ++ rest) = some (value, rest)
  | value, 0, rest, hfuel, _ => by
      obtain ⟨c, text, hwrite, -⟩ := write_head numerals value
      rw [hwrite] at hfuel
      cases hfuel
  | .null, fuel + 1, rest, _, _ => by
      simp [write, readValue, skip_cons (c := 'n') (by decide), isNumeral, readWord]
  | .bool true, fuel + 1, rest, _, _ => by
      simp [write, readValue, skip_cons (c := 't') (by decide), isNumeral, readWord]
  | .bool false, fuel + 1, rest, _, _ => by
      simp [write, readValue, skip_cons (c := 'f') (by decide), isNumeral, readWord]
  | .number value, fuel + 1, rest, _, hrest => by
      have hread := readNumber_write numerals value hrest
      rw [write, readValue]
      cases hwrite : numerals.write value with
      | nil => exact absurd hwrite (numerals.write_ne_nil value)
      | cons c text =>
        have hnumeral := numerals.isNumeral_write value c (hwrite ▸ List.mem_cons_self)
        obtain ⟨hspace, hquote, hopen, hbrace, -⟩ := not_isSpace_of_isNumeral hnumeral
        rw [hwrite] at hread
        rw [List.cons_append, skip_cons hspace]
        simpa [hquote, hopen, hbrace, hnumeral] using hread
  | .text value, fuel + 1, rest, _, _ => by
      simp [write, quote, readValue, skip_cons (c := '"') (by decide), unquote_quoted]
  | .array [], fuel + 1, rest, _, _ => by
      simp [write, readValue, skip_cons (c := '[') (by decide), skip_cons (c := ']') (by decide)]
  | .array (item :: items), fuel + 1, rest, hfuel, _ => by
      rw [write, List.length_cons, List.length_append] at hfuel
      have hitem := readValue_write item fuel (writeItems numerals items ++ rest) (by omega)
        (ends_writeItems items rest)
      have hitems := readItems_write items fuel rest (by omega)
      obtain ⟨c, text, hwrite, hspace, hclose⟩ := write_head numerals item
      have hopen : (skip (write numerals item ++ (writeItems numerals items ++ rest))).head? ≠
          some ']' := by
        rw [hwrite, List.cons_append, skip_cons hspace]
        simpa using hclose
      rw [write, readValue, List.cons_append, skip_cons (by decide), List.append_assoc]
      simp [hopen, hitem, hitems]
  | .object [], fuel + 1, rest, _, _ => by
      simp [write, readValue, skip_cons (c := '\x7b') (by decide),
        skip_cons (c := '\x7d') (by decide)]
  | .object ((name, value) :: fields), fuel + 1, rest, hfuel, _ => by
      rw [write, List.length_cons, List.length_append, List.length_cons, List.length_append] at hfuel
      have hquote : (quote name.toList).length ≠ 0 := by simp [quote]
      obtain ⟨fuel, rfl⟩ : ∃ left, fuel = left + 1 := ⟨fuel - 1, by omega⟩
      have hvalue := readValue_write value fuel (writeFields numerals fields ++ rest) (by omega)
        (ends_writeFields fields rest)
      have hfield := readField_write name hvalue
      have hfields := readFields_write fields (fuel + 1) rest (by omega)
      have hopen : (skip (quote name.toList ++ ':' :: (write numerals value ++
          (writeFields numerals fields ++ rest)))).head? ≠ some '\x7d' := by
        rw [quote, List.cons_append, skip_cons (by decide)]
        simp
      rw [write, readValue, List.cons_append, skip_cons (by decide), List.append_assoc,
        List.cons_append, List.append_assoc]
      simp [hopen, hfield, hfields]

theorem readItems_write : ∀ (items : List Json) (fuel : Nat) (rest : List Char),
    (writeItems numerals items).length ≤ fuel →
      readItems numerals fuel (writeItems numerals items ++ rest) = some (items, rest)
  | items, 0, rest, hfuel => by cases items <;> cases hfuel
  | [], fuel + 1, rest, _ => by
      simp [writeItems, readItems, skip_cons (c := ']') (by decide)]
  | item :: items, fuel + 1, rest, hfuel => by
      rw [writeItems, List.length_cons, List.length_append] at hfuel
      have hitem := readValue_write item fuel (writeItems numerals items ++ rest) (by omega)
        (ends_writeItems items rest)
      have hitems := readItems_write items fuel rest (by omega)
      rw [writeItems, readItems, List.cons_append, skip_cons (by decide), List.append_assoc]
      simp [hitem, hitems]

theorem readFields_write : ∀ (fields : List (String × Json)) (fuel : Nat) (rest : List Char),
    (writeFields numerals fields).length ≤ fuel →
      readFields numerals fuel (writeFields numerals fields ++ rest) = some (fields, rest)
  | fields, 0, rest, hfuel => by cases fields <;> cases hfuel
  | [], fuel + 1, rest, _ => by
      simp [writeFields, readFields, skip_cons (c := '\x7d') (by decide)]
  | (name, value) :: fields, fuel + 1, rest, hfuel => by
      rw [writeFields, List.length_cons, List.length_append, List.length_cons,
        List.length_append] at hfuel
      have hquote : (quote name.toList).length ≠ 0 := by simp [quote]
      obtain ⟨fuel, rfl⟩ : ∃ left, fuel = left + 1 := ⟨fuel - 1, by omega⟩
      have hvalue := readValue_write value fuel (writeFields numerals fields ++ rest) (by omega)
        (ends_writeFields fields rest)
      have hfield := readField_write name hvalue
      have hfields := readFields_write fields (fuel + 1) rest (by omega)
      rw [writeFields, readFields, List.cons_append, skip_cons (by decide), List.append_assoc,
        List.cons_append, List.append_assoc]
      simp [hfield, hfields]

end

theorem parse_stringify (value : Json) : parse numerals (stringify numerals value) = some value := by
  have hread := @readValue_write numerals value ((write numerals value).length + 1) []
    (by omega) (fun c hc => by cases hc)
  rw [List.append_nil] at hread
  rw [parse, stringify, String.toList_ofList, hread]
  rfl

end Values

section Counting

def countedDigits (n : Rat) : List Char :=
  Nat.toDigits 10 (Encodable.encode n)

theorem isNumeral_countedDigits (n : Rat) (c : Char) (hc : c ∈ countedDigits n) :
    isNumeral c = true := by
  have hdigit : c.isDigit = true := Nat.isDigit_of_mem_toDigits (by omega) (by omega) hc
  simp [isNumeral, hdigit]

theorem decode_countedDigits (n : Rat) :
    Encodable.decode (Nat.ofDigitChars 10 (countedDigits n) 0) = some n := by
  rw [countedDigits, Nat.ofDigitChars_ten_toDigits, Encodable.encodek]

theorem countedDigits_ne_nil (n : Rat) : countedDigits n ≠ [] :=
  Nat.toDigits_ne_nil

def countedNumerals : Numerals :=
  ⟨countedDigits, fun text => Encodable.decode (Nat.ofDigitChars 10 text 0), countedDigits_ne_nil,
    isNumeral_countedDigits, decode_countedDigits⟩

end Counting

end FieldserviceIT.Lib.JsonText
