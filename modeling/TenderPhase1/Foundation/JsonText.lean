import Mathlib.Data.List.Nodup
import Mathlib.Algebra.Ring.Nat
import Mathlib.Algebra.Ring.Int.Defs
import TenderPhase1.Foundation.PyNumber

/-!
# JSON texts

What Python's `json` module writes and reads, with `ensure_ascii=False` and with the texts of numbers that `repr`
gives. A value whose dictionaries repeat no key is read back from the text that is written for it.
-/

namespace TenderPhase1.JsonText

open PyText

/-! ## Strings -/

/-- A character of a string as `encode_basestring` writes it. -/
def escaped (c : Char) : List Char :=
  if c = '"' then ['\\', '"']
  else if c = '\\' then ['\\', '\\']
  else if c = '\n' then ['\\', 'n']
  else if c = '\r' then ['\\', 'r']
  else if c = '\t' then ['\\', 't']
  else if c.toNat = 0x0C then ['\\', 'f']
  else if c.toNat = 0x08 then ['\\', 'b']
  else if c.toNat < 0x20 then ['\\', 'u', '0', '0', Nat.digitChar (c.toNat / 16), Nat.digitChar (c.toNat % 16)]
  else [c]

def writeString (chars : List Char) : List Char := '"' :: (chars.flatMap escaped ++ ['"'])

def simpleEscape (c : Char) : Option Char :=
  if c = '"' then some '"'
  else if c = '\\' then some '\\'
  else if c = '/' then some '/'
  else if c = 'b' then some (Char.ofNat 0x08)
  else if c = 'f' then some (Char.ofNat 0x0C)
  else if c = 'n' then some '\n'
  else if c = 'r' then some '\r'
  else if c = 't' then some '\t'
  else none

def hexValue (c : Char) : Option ℕ :=
  if '0' ≤ c ∧ c ≤ '9' then some (c.toNat - '0'.toNat)
  else if 'a' ≤ c ∧ c ≤ 'f' then some (c.toNat - 'a'.toNat + 10)
  else if 'A' ≤ c ∧ c ≤ 'F' then some (c.toNat - 'A'.toNat + 10)
  else none

def readHex : List Char → Option (ℕ × List Char)
  | a :: b :: c :: d :: rest => do
    let first ← hexValue a
    let second ← hexValue b
    let third ← hexValue c
    let fourth ← hexValue d
    some (((first * 16 + second) * 16 + third) * 16 + fourth, rest)
  | _ => none

/-- What follows the letter of a \u; half of a surrogate pair is no character, and is refused here. -/
def readUnicode (text : List Char) : Option (Char × List Char) := do
  let (code, rest) ← readHex text
  if code.isValidChar then some (Char.ofNat code, rest)
  else
    match rest with
    | '\\' :: 'u' :: low => do
      let (second, rest) ← readHex low
      if code < 0xDC00 ∧ 0xDC00 ≤ second ∧ second ≤ 0xDFFF then
        some (Char.ofNat (0x10000 + (code - 0xD800) * 0x400 + (second - 0xDC00)), rest)
      else none
    | _ => none

def readEscape : List Char → Option (Char × List Char)
  | [] => none
  | c :: rest => if c = 'u' then readUnicode rest else (simpleEscape c).map (·, rest)

/-- `py_scanstring` after the opening quote -/
def scanString : ℕ → List Char → Option (List Char × List Char)
  | 0, _ => none
  | _ + 1, [] => none
  | fuel + 1, c :: rest =>
    if c = '"' then some ([], rest)
    else if c = '\\' then do
      let (decoded, rest) ← readEscape rest
      let (chars, rest) ← scanString fuel rest
      some (decoded :: chars, rest)
    else if c.toNat < 0x20 then none
    else do
      let (chars, rest) ← scanString fuel rest
      some (c :: chars, rest)

section Strings

variable {c : Char} {chars rest : List Char} {fuel : ℕ}

theorem hexValue_digitChar : ∀ digit < 16, hexValue (Nat.digitChar digit) = some digit := by decide

/-- An escape stands for its character. -/
theorem readEscape_of_control (h : c.toNat < 0x20) :
    readEscape ('u' :: '0' :: '0' :: Nat.digitChar (c.toNat / 16) :: Nat.digitChar (c.toNat % 16) :: rest) =
      some (c, rest) := by
  have hzero : hexValue '0' = some 0 := rfl
  have hhigh : hexValue (Nat.digitChar (c.toNat / 16)) = some (c.toNat / 16) := hexValue_digitChar _ (by omega)
  have hlow : hexValue (Nat.digitChar (c.toNat % 16)) = some (c.toNat % 16) := hexValue_digitChar _ (by omega)
  have hcode : ((0 * 16 + 0) * 16 + c.toNat / 16) * 16 + c.toNat % 16 = c.toNat := by omega
  have hvalid : c.toNat.isValidChar := c.valid
  rw [readEscape, if_pos rfl, readUnicode, readHex, hzero, hhigh, hlow]
  simp only [Option.bind_eq_bind, Option.bind_some, hcode, if_pos hvalid, Char.ofNat_toNat]

/-- The first character of what is written for a character, and what is read from there. -/
theorem scanString_escaped (c : Char) :
    scanString (fuel + 1) (escaped c ++ rest) = (scanString fuel rest).map fun read ↦ (c :: read.1, read.2) := by
  have hbind (first : Char) : (do
      let (chars, rest) ← scanString fuel rest
      some (first :: chars, rest)) = (scanString fuel rest).map fun read ↦ (first :: read.1, read.2) := by
    cases scanString fuel rest <;> rfl
  have hescape (after : List Char) (first : Char) (hread : readEscape (after ++ rest) = some (first, rest)) :
      scanString (fuel + 1) ('\\' :: (after ++ rest)) =
        (scanString fuel rest).map fun read ↦ (first :: read.1, read.2) := by
    rw [scanString, if_neg (by decide), if_pos rfl, hread]
    exact hbind first
  have hchar {code : ℕ} (h : c.toNat = code) : c = Char.ofNat code := h ▸ (Char.ofNat_toNat c).symm
  unfold escaped
  split_ifs with hquote hbackslash hnewline hreturn htab hfeed hback hcontrol
  · exact hquote ▸ hescape ['"'] '"' rfl
  · exact hbackslash ▸ hescape ['\\'] '\\' rfl
  · exact hnewline ▸ hescape ['n'] '\n' rfl
  · exact hreturn ▸ hescape ['r'] '\r' rfl
  · exact htab ▸ hescape ['t'] '\t' rfl
  · exact hchar hfeed ▸ hescape ['f'] (Char.ofNat 0x0C) rfl
  · exact hchar hback ▸ hescape ['b'] (Char.ofNat 0x08) rfl
  · exact hescape _ c (readEscape_of_control hcontrol)
  · rw [List.singleton_append, scanString, if_neg hquote, if_neg hbackslash, if_neg hcontrol]
    exact hbind c

/-- A string ends at the quote that was written after it. -/
theorem scanString_flatMap (h : chars.length < fuel) :
    scanString fuel (chars.flatMap escaped ++ '"' :: rest) = some (chars, rest) := by
  induction chars generalizing fuel with
  | nil =>
    obtain ⟨fuel, rfl⟩ := Nat.exists_eq_add_of_lt h
    rfl
  | cons c chars ih =>
    cases fuel with
    | zero => exact absurd h (Nat.not_lt_zero _)
    | succ fuel =>
      rw [List.flatMap_cons, List.append_assoc, scanString_escaped, ih (Nat.lt_of_succ_lt_succ h)]
      rfl

/-- Written strings have no control characters. -/
theorem le_toNat_of_mem_escaped {d : Char} (h : d ∈ escaped c) : 0x20 ≤ d.toNat := by
  have hdigit : ∀ digit < 16, 0x20 ≤ (Nat.digitChar digit).toNat := by decide
  unfold escaped at h
  split_ifs at h with hquote hbackslash hnewline hreturn htab hfeed hback hcontrol
  all_goals simp only [List.mem_cons, List.not_mem_nil, or_false] at h
  · rcases h with rfl | rfl <;> decide
  · rcases h with rfl | rfl <;> decide
  · rcases h with rfl | rfl <;> decide
  · rcases h with rfl | rfl <;> decide
  · rcases h with rfl | rfl <;> decide
  · rcases h with rfl | rfl <;> decide
  · rcases h with rfl | rfl <;> decide
  · rcases h with rfl | rfl | rfl | rfl | rfl | rfl
    · decide
    · decide
    · decide
    · decide
    · exact hdigit _ (by omega)
    · exact hdigit _ (by omega)
  · rw [h]
    omega

theorem le_toNat_of_mem_writeString {d : Char} (h : d ∈ writeString chars) : 0x20 ≤ d.toNat := by
  have hquote : 0x20 ≤ '"'.toNat := by decide
  rcases List.mem_cons.mp h with rfl | h
  · exact hquote
  · rcases List.mem_append.mp h with h | h
    · obtain ⟨c, -, hc⟩ := List.mem_flatMap.mp h
      exact le_toNat_of_mem_escaped hc
    · exact List.mem_singleton.mp h ▸ hquote

theorem length_le_length_flatMap (chars : List Char) : chars.length ≤ (chars.flatMap escaped).length := by
  induction chars with
  | nil => exact Nat.zero_le 0
  | cons c chars ih =>
    have hpos : 1 ≤ (escaped c).length := by
      unfold escaped
      split_ifs <;> simp
    rw [List.flatMap_cons, List.length_append, List.length_cons]
    omega

end Strings

/-! ## Numbers -/

/-- `0|[1-9]\d*` -/
def scanInteger : List Char → Option (List Char × List Char)
  | [] => none
  | c :: rest =>
    if c = '0' then some (['0'], rest)
    else if c.isDigit then some (c :: rest.takeWhile Char.isDigit, rest.dropWhile Char.isDigit)
    else none

/-- `(\.\d+)?` -/
def scanFraction : List Char → List Char × List Char
  | [] => ([], [])
  | c :: rest =>
    if c = '.' ∧ rest.takeWhile Char.isDigit ≠ [] then
      (c :: rest.takeWhile Char.isDigit, rest.dropWhile Char.isDigit)
    else ([], c :: rest)

def isExponentSign (c : Char) : Bool := c = '+' || c = '-'

/-- `[-+]?\d+` -/
def scanPower (text : List Char) : List Char × List Char :=
  let digits := text.drop (text.head?.any isExponentSign).toNat
  if digits.takeWhile Char.isDigit = [] then ([], text)
  else (text.take (text.head?.any isExponentSign).toNat ++ digits.takeWhile Char.isDigit, digits.dropWhile Char.isDigit)

/-- `([eE][-+]?\d+)?` -/
def scanExponent : List Char → List Char × List Char
  | [] => ([], [])
  | c :: rest =>
    if (c = 'e' ∨ c = 'E') ∧ (scanPower rest).1 ≠ [] then (c :: (scanPower rest).1, (scanPower rest).2)
    else ([], c :: rest)

/-- The groups of a match of `NUMBER_RE` and the text after it. -/
structure ScannedNumber where
  integer : List Char
  fraction : List Char
  exponent : List Char
  rest : List Char

def scanNumber (text : List Char) : Option ScannedNumber := do
  let sign := if text.head? = some '-' then ['-'] else []
  let (integer, rest) ← scanInteger (text.drop sign.length)
  some {
    integer := sign ++ integer
    fraction := (scanFraction rest).1
    exponent := (scanExponent (scanFraction rest).2).1
    rest := (scanExponent (scanFraction rest).2).2 }

def IsInteger (text : List Char) : Prop :=
  text = ['0'] ∨ ∃ c digits, text = c :: digits ∧ c ≠ '0' ∧ c.isDigit ∧ ∀ d ∈ digits, d.isDigit

def IsFraction (text : List Char) : Prop :=
  text = [] ∨ ∃ digits, text = '.' :: digits ∧ digits ≠ [] ∧ ∀ d ∈ digits, d.isDigit

def IsExponent (text : List Char) : Prop :=
  text = [] ∨ ∃ e sign digits, text = e :: (sign ++ digits) ∧ (e = 'e' ∨ e = 'E') ∧
    (sign = [] ∨ sign = ['+'] ∨ sign = ['-']) ∧ digits ≠ [] ∧ ∀ d ∈ digits, d.isDigit

def EndsNumber (rest : List Char) : Prop := ∀ c ∈ rest.head?, c.isDigit = false ∧ c ≠ '.' ∧ c ≠ 'e' ∧ c ≠ 'E'

section Numbers

variable {sign integer fraction exponent digits rest : List Char}

theorem takeWhile_digits (hdigits : ∀ d ∈ digits, d.isDigit) (hrest : ∀ c ∈ rest.head?, c.isDigit = false) :
    (digits ++ rest).takeWhile Char.isDigit = digits ∧ (digits ++ rest).dropWhile Char.isDigit = rest := by
  rw [List.takeWhile_append_of_pos hdigits, List.dropWhile_append_of_pos hdigits]
  cases rest with
  | nil => exact ⟨List.append_nil digits, rfl⟩
  | cons c rest =>
    have hc : ¬ c.isDigit := by simp [hrest c rfl]
    rw [List.takeWhile_cons_of_neg hc, List.dropWhile_cons_of_neg hc, List.append_nil]
    exact ⟨rfl, rfl⟩

theorem scanInteger_append (hinteger : IsInteger integer) (hrest : ∀ c ∈ rest.head?, c.isDigit = false) :
    scanInteger (integer ++ rest) = some (integer, rest) := by
  rcases hinteger with rfl | ⟨c, digits, rfl, hzero, hdigit, hdigits⟩
  · rfl
  · obtain ⟨htake, hdrop⟩ := takeWhile_digits hdigits hrest
    rw [List.cons_append, scanInteger, if_neg hzero, if_pos hdigit, htake, hdrop]

theorem scanFraction_append (hfraction : IsFraction fraction)
    (hrest : ∀ c ∈ rest.head?, c.isDigit = false ∧ c ≠ '.') : scanFraction (fraction ++ rest) = (fraction, rest) := by
  rcases hfraction with rfl | ⟨digits, rfl, hne, hdigits⟩
  · cases rest with
    | nil => rfl
    | cons c rest => exact if_neg fun h ↦ (hrest c rfl).2 h.1
  · obtain ⟨htake, hdrop⟩ := takeWhile_digits hdigits fun c hc ↦ (hrest c hc).1
    rw [List.cons_append, scanFraction, htake, hdrop, if_pos ⟨rfl, hne⟩]

/-- An exponent is scanned up to the character after it. -/
theorem scanPower_append (hsign : sign = [] ∨ sign = ['+'] ∨ sign = ['-']) (hne : digits ≠ [])
    (hdigits : ∀ d ∈ digits, d.isDigit) (hrest : ∀ c ∈ rest.head?, c.isDigit = false) :
    scanPower (sign ++ digits ++ rest) = (sign ++ digits, rest) := by
  obtain ⟨htake, hdrop⟩ := takeWhile_digits hdigits hrest
  have hfront : ((sign ++ digits ++ rest).head?.any isExponentSign).toNat = sign.length := by
    rcases hsign with rfl | rfl | rfl
    · obtain ⟨c, others, rfl⟩ := List.exists_cons_of_ne_nil hne
      have hc : isExponentSign c = false := by
        have hdigit := hdigits c List.mem_cons_self
        rw [isExponentSign, Bool.or_eq_false_iff]
        constructor
        · exact decide_eq_false fun h ↦ absurd (h ▸ hdigit) (by decide)
        · exact decide_eq_false fun h ↦ absurd (h ▸ hdigit) (by decide)
      simp [hc]
    · rfl
    · rfl
  unfold scanPower
  dsimp only
  rw [hfront, List.append_assoc, List.drop_left, List.take_left, htake, hdrop, if_neg hne]

theorem scanExponent_append (hexponent : IsExponent exponent)
    (hrest : ∀ c ∈ rest.head?, c.isDigit = false ∧ c ≠ 'e' ∧ c ≠ 'E') :
    scanExponent (exponent ++ rest) = (exponent, rest) := by
  rcases hexponent with rfl | ⟨e, sign, digits, rfl, he, hsign, hne, hdigits⟩
  · cases rest with
    | nil => rfl
    | cons c rest => exact if_neg fun h ↦ h.1.elim (hrest c rfl).2.1 (hrest c rfl).2.2
  · have hpower : scanPower (sign ++ digits ++ rest) = (sign ++ digits, rest) :=
      scanPower_append hsign hne hdigits fun c hc ↦ (hrest c hc).1
    rw [List.cons_append, scanExponent, hpower, if_pos ⟨he, List.append_ne_nil_of_right_ne_nil sign hne⟩]

/-- The parts of a written number are scanned as they were put together. -/
theorem scanNumber_append (hsign : sign = [] ∨ sign = ['-']) (hinteger : IsInteger integer)
    (hfraction : IsFraction fraction) (hexponent : IsExponent exponent) (hrest : EndsNumber rest) :
    scanNumber (sign ++ integer ++ (fraction ++ (exponent ++ rest))) =
      some ⟨sign ++ integer, fraction, exponent, rest⟩ := by
  have hafterExponent : ∀ c ∈ (exponent ++ rest).head?, c.isDigit = false ∧ c ≠ '.' := by
    rcases hexponent with rfl | ⟨e, power, digits, rfl, he, -⟩
    · exact fun c hc ↦ ⟨(hrest c hc).1, (hrest c hc).2.1⟩
    · intro c hc
      obtain rfl := Option.some.inj hc
      rcases he with rfl | rfl <;> decide
  have hafterInteger : ∀ c ∈ (fraction ++ (exponent ++ rest)).head?, c.isDigit = false := by
    rcases hfraction with rfl | ⟨digits, rfl, -⟩
    · exact fun c hc ↦ (hafterExponent c hc).1
    · intro c hc
      obtain rfl := Option.some.inj hc
      decide
  have hsigned : (if (sign ++ integer ++ (fraction ++ (exponent ++ rest))).head? = some '-' then ['-'] else []) = sign := by
    rcases hsign with rfl | rfl
    · rcases hinteger with rfl | ⟨c, digits, rfl, -, hdigit, -⟩
      · rfl
      · exact if_neg fun h ↦ absurd (Option.some.inj h ▸ hdigit) (by decide)
    · rfl
  unfold scanNumber
  dsimp only
  rw [hsigned, List.append_assoc sign, List.drop_left, scanInteger_append hinteger hafterInteger]
  simp only [Option.bind_eq_bind, Option.bind_some, scanFraction_append hfraction hafterExponent,
    scanExponent_append hexponent fun c hc ↦ ⟨(hrest c hc).1, (hrest c hc).2.2⟩]

end Numbers

/-! ## Floats -/

/-- The names for what is no number, or is not finite. -/
def constants : List (List Char) := ["NaN".toList, "Infinity".toList, "-Infinity".toList]

/-- How JSON texts show that a number is a float: a fraction, an exponent or a name. -/
inductive FloatLiteral : List Char → Prop where
  | constant {text : List Char} (hmem : text ∈ constants) : FloatLiteral text
  | number {sign integer fraction exponent : List Char} (hsign : sign = [] ∨ sign = ['-'])
      (hinteger : IsInteger integer) (hfraction : IsFraction fraction) (hexponent : IsExponent exponent)
      (hne : ¬ (fraction = [] ∧ exponent = [])) : FloatLiteral (sign ++ integer ++ (fraction ++ exponent))

/-- The floats, the texts they are written as and the way back. -/
structure FloatFormat (Float : Type) where
  repr : Float → List Char
  parse : List Char → Float
  literal : ∀ x, FloatLiteral (repr x)
  parse_repr : ∀ x, parse (repr x) = x

/-! ## Values -/

inductive Value (Float : Type) where
  | null
  | bool (value : Bool)
  | int (value : ℤ)
  | float (value : Float)
  | str (text : String)
  | list (items : List (Value Float))
  | dict (entries : List (String × Value Float))

def isJsonSpace (c : Char) : Bool := c = ' ' || c = '\t' || c = '\n' || c = '\r'

def skipSpace (text : List Char) : List Char := text.dropWhile isJsonSpace

/-- The blanks after the two separators -/
structure Style where
  afterItem : List Char
  afterKey : List Char
  afterItem_space : ∀ c ∈ afterItem, c = ' '
  afterKey_space : ∀ c ∈ afterKey, c = ' '

/-- The default separators -/
def spaced : Style := ⟨[' '], [' '], by decide, by decide⟩

/-- `separators=(",", ":")` -/
def compact : Style := ⟨[], [], by decide, by decide⟩

section Texts

variable {Float : Type} (floats : FloatFormat Float) (style : Style)

mutual

/-- `json.dumps`, which fails for an integer of too many digits. -/
def write : Value Float → Option (List Char)
  | .null => some "null".toList
  | .bool value => some (if value then "true".toList else "false".toList)
  | .int value => (writeInt value).map String.toList
  | .float value => some (floats.repr value)
  | .str text => some (writeString text.toList)
  | .list [] => some ['[', ']']
  | .list (item :: items) => do
    let first ← write item
    let others ← writeItems items
    some ('[' :: (first ++ others))
  | .dict [] => some ['{', '}']
  | .dict ((key, value) :: entries) => do
    let first ← write value
    let others ← writeEntries entries
    some ('{' :: (writeString key.toList ++ ':' :: (style.afterKey ++ (first ++ others))))

def writeItems : List (Value Float) → Option (List Char)
  | [] => some [']']
  | item :: items => do
    let first ← write item
    let others ← writeItems items
    some (',' :: (style.afterItem ++ (first ++ others)))

def writeEntries : List (String × Value Float) → Option (List Char)
  | [] => some ['}']
  | (key, value) :: entries => do
    let first ← write value
    let others ← writeEntries entries
    some (',' :: (style.afterItem ++ (writeString key.toList ++ ':' :: (style.afterKey ++ (first ++ others)))))

end

/-! ## Reading -/

/-- `pairs[key] = value` -/
def putEntry (entries : List (String × Value Float)) (entry : String × Value Float) : List (String × Value Float) :=
  if entries.any (·.1 = entry.1) then entries.map fun old ↦ if old.1 = entry.1 then entry else old
  else entries ++ [entry]

def dictOfPairs (pairs : List (String × Value Float)) : List (String × Value Float) := pairs.foldl putEntry []

def keyword (word : List Char) (value : Value Float) (text : List Char) : Option (Value Float × List Char) :=
  if word.isPrefixOf text then some (value, text.drop word.length) else none

def readNumber (text : List Char) : Option (Value Float × List Char) := do
  let scanned ← scanNumber text
  if scanned.fraction = [] ∧ scanned.exponent = [] then
    let value ← readInt (String.ofList scanned.integer)
    some (.int value, scanned.rest)
  else
    some (.float (floats.parse (scanned.integer ++ (scanned.fraction ++ scanned.exponent))), scanned.rest)

def readAtom (text : List Char) : Option (Value Float × List Char) :=
  keyword "null".toList .null text <|> keyword "true".toList (.bool true) text <|>
    keyword "false".toList (.bool false) text <|> readNumber floats text <|>
    constants.firstM fun word ↦ keyword word (.float (floats.parse word)) text

def readString : List Char → Option (String × List Char)
  | [] => none
  | c :: rest =>
    if c = '"' then (scanString (rest.length + 1) rest).map fun read ↦ (String.ofList read.1, read.2) else none

mutual

/-- `scan_once` -/
def readValue : ℕ → List Char → Option (Value Float × List Char)
  | 0, _ => none
  | _ + 1, [] => none
  | fuel + 1, c :: rest =>
    if c = '"' then (readString (c :: rest)).map fun read ↦ (.str read.1, read.2)
    else if c = '[' then
      match skipSpace rest with
      | ']' :: rest => some (.list [], rest)
      | items => (readItems fuel items).map fun read ↦ (.list read.1, read.2)
    else if c = '{' then
      match skipSpace rest with
      | '}' :: rest => some (.dict [], rest)
      | entries => (readEntries fuel entries).map fun read ↦ (.dict (dictOfPairs read.1), read.2)
    else readAtom floats (c :: rest)

/-- The loop of `JSONArray` -/
def readItems : ℕ → List Char → Option (List (Value Float) × List Char)
  | 0, _ => none
  | fuel + 1, text => do
    let (item, rest) ← readValue fuel text
    match skipSpace rest with
    | ']' :: rest => some ([item], rest)
    | ',' :: rest => do
      let (items, rest) ← readItems fuel (skipSpace rest)
      some (item :: items, rest)
    | _ => none

/-- The loop of `JSONObject` -/
def readEntries : ℕ → List Char → Option (List (String × Value Float) × List Char)
  | 0, _ => none
  | fuel + 1, text => do
    let (key, rest) ← readString text
    match skipSpace rest with
    | ':' :: rest => do
      let (value, rest) ← readValue fuel (skipSpace rest)
      match skipSpace rest with
      | '}' :: rest => some ([(key, value)], rest)
      | ',' :: rest => do
        let (entries, rest) ← readEntries fuel (skipSpace rest)
        some ((key, value) :: entries, rest)
      | _ => none
    | _ => none

end

def loads (text : List Char) : Option (Value Float) :=
  if text.head? = some (Char.ofNat 0xFEFF) then none
  else
    match readValue floats (2 * text.length) (skipSpace text) with
    | some (value, rest) => if skipSpace rest = [] then some value else none
    | none => none

end Texts

mutual

/-- No dictionary repeats a key, as in Python. -/
def Value.Distinct {Float : Type} : Value Float → Prop
  | .list items => DistinctItems items
  | .dict entries => (entries.map Prod.fst).Nodup ∧ DistinctEntries entries
  | _ => True

def DistinctItems {Float : Type} : List (Value Float) → Prop
  | [] => True
  | item :: items => item.Distinct ∧ DistinctItems items

def DistinctEntries {Float : Type} : List (String × Value Float) → Prop
  | [] => True
  | (_, value) :: entries => value.Distinct ∧ DistinctEntries entries

end

section Distinct

variable {Float : Type} {entries : List (String × Value Float)} {key : String} {value : Value Float}

theorem distinctEntries_iff : DistinctEntries entries ↔ ∀ entry ∈ entries, entry.2.Distinct := by
  induction entries with
  | nil => simp [DistinctEntries]
  | cons entry entries ih =>
    obtain ⟨key, value⟩ := entry
    rw [DistinctEntries, ih, List.forall_mem_cons]

/-- In a dictionary a key stands for the value that was written beside it. -/
theorem lookup_eq_some_iff (hkeys : (entries.map Prod.fst).Nodup) :
    entries.lookup key = some value ↔ (key, value) ∈ entries := by
  induction entries with
  | nil => simp
  | cons entry entries ih =>
    obtain ⟨first, firstValue⟩ := entry
    obtain ⟨hfirst, hrest⟩ := List.nodup_cons.mp hkeys
    rw [List.lookup_cons, List.mem_cons]
    by_cases hkey : key = first
    · subst hkey
      have hmissing : (key, value) ∉ entries := fun hmem ↦ hfirst (List.mem_map.mpr ⟨_, hmem, rfl⟩)
      simp [hmissing, eq_comm]
    · rw [beq_false_of_ne hkey]
      dsimp only
      rw [ih hrest]
      simp [hkey]

end Distinct

/-! ## What a text starts and ends with -/

/-- Text after which a value has ended. -/
def EndsValue (rest : List Char) : Prop := ∀ c ∈ rest.head?, c = ',' ∨ c = ']' ∨ c = '}' ∨ isJsonSpace c

def StartsValue (text : List Char) : Prop :=
  ∃ c rest, text = c :: rest ∧ isJsonSpace c = false ∧ c ≠ ']' ∧ c ≠ '}' ∧ c ≠ Char.ofNat 0xFEFF

section Ends

variable {Float : Type} {floats : FloatFormat Float} {style : Style} {text rest blanks : List Char} {value : Value Float}

theorem EndsValue.endsNumber (h : EndsValue rest) : EndsNumber rest := by
  intro c hc
  rcases h c hc with rfl | rfl | rfl | hspace
  · decide
  · decide
  · decide
  · simp only [isJsonSpace, Bool.or_eq_true, decide_eq_true_eq] at hspace
    rcases hspace with ((rfl | rfl) | rfl) | rfl <;> decide

theorem StartsValue.skipSpace (h : StartsValue text) (hblanks : ∀ c ∈ blanks, c = ' ') (rest : List Char) :
    skipSpace (blanks ++ (text ++ rest)) = text ++ rest := by
  obtain ⟨c, tail, rfl, hspace, -⟩ := h
  have hall : ∀ d ∈ blanks, isJsonSpace d := fun d hd ↦ by rw [hblanks d hd]; rfl
  unfold JsonText.skipSpace
  rw [List.dropWhile_append_of_pos hall, List.cons_append, List.dropWhile_cons_of_neg (by simp [hspace])]

theorem skipSpace_cons {c : Char} (h : isJsonSpace c = false) : skipSpace (c :: rest) = c :: rest :=
  List.dropWhile_cons_of_neg (by simp [h])

theorem skipSpace_comma (rest : List Char) : skipSpace (',' :: rest) = ',' :: rest := skipSpace_cons (by decide)

/-- The digits of a positive number start with another one than zero. -/
theorem toDigits_of_pos {n : ℕ} (h : 0 < n) :
    ∃ c digits, Nat.toDigits 10 n = c :: digits ∧ c ≠ '0' ∧ c.isDigit ∧ ∀ d ∈ digits, d.isDigit := by
  have hsmall : ∀ digit < 10, digit ≠ 0 → Nat.digitChar digit ≠ '0' := by decide
  have hdigit (d : Char) (hd : d ∈ Nat.toDigits 10 n) : d.isDigit :=
    Nat.isDigit_of_mem_toDigits (by decide) (by decide) hd
  obtain ⟨c, digits, hdigits⟩ := List.exists_cons_of_ne_nil (Nat.toDigits_ne_nil (n := n) (b := 10))
  have hall := hdigit
  rw [hdigits] at hall
  refine ⟨c, digits, hdigits, ?_, hall c List.mem_cons_self, fun d hd ↦ hall d (List.mem_cons_of_mem c hd)⟩
  clear hall hdigit
  induction n using Nat.strong_induction_on generalizing digits with
  | _ n ih =>
    by_cases hn : n < 10
    · rw [Nat.toDigits_of_lt_base hn] at hdigits
      exact (List.cons.inj hdigits).1 ▸ hsmall n hn (Nat.pos_iff_ne_zero.mp h)
    · obtain ⟨first, others, hfirst⟩ := List.exists_cons_of_ne_nil (Nat.toDigits_ne_nil (n := n / 10) (b := 10))
      rw [Nat.toDigits_of_base_le (by decide) (not_lt.mp hn), hfirst, List.cons_append] at hdigits
      obtain ⟨rfl, -⟩ := List.cons.inj hdigits
      exact ih (n / 10) (by omega) (by omega) others hfirst

theorem isInteger_toDigits (n : ℕ) : IsInteger (Nat.toDigits 10 n) := by
  cases n with
  | zero => exact Or.inl rfl
  | succ n => exact Or.inr (toDigits_of_pos (Nat.succ_pos n))

theorem exists_cons_of_isInteger {integer : List Char} (h : IsInteger integer) :
    ∃ c digits, integer = c :: digits ∧ c.isDigit ∧ ∀ d ∈ digits, d.isDigit := by
  rcases h with rfl | ⟨c, digits, rfl, -, hdigit, hdigits⟩
  · exact ⟨'0', [], rfl, rfl, by simp⟩
  · exact ⟨c, digits, rfl, hdigit, hdigits⟩

/-- The first characters of numbers and of the names of floats. -/
def StartsNumber (text : List Char) : Prop :=
  ∃ c rest, text = c :: rest ∧ (c.isDigit ∨ c = '-' ∨ c = 'N' ∨ c = 'I')

theorem startsNumber_signed {sign integer : List Char} (hsign : sign = [] ∨ sign = ['-']) (hinteger : IsInteger integer)
    (rest : List Char) : StartsNumber (sign ++ integer ++ rest) := by
  rcases hsign with rfl | rfl
  · obtain ⟨c, digits, rfl, hdigit, -⟩ := exists_cons_of_isInteger hinteger
    exact ⟨c, digits ++ rest, rfl, Or.inl hdigit⟩
  · exact ⟨'-', integer ++ rest, rfl, Or.inr (Or.inl rfl)⟩

theorem FloatLiteral.startsNumber (h : FloatLiteral text) : StartsNumber text := by
  cases h with
  | constant hmem =>
    simp only [constants, List.mem_cons, List.not_mem_nil, or_false] at hmem
    rcases hmem with rfl | rfl | rfl
    · exact ⟨'N', _, rfl, by decide⟩
    · exact ⟨'I', _, rfl, by decide⟩
    · exact ⟨'-', _, rfl, by decide⟩
  | number hsign hinteger => exact startsNumber_signed hsign hinteger _

theorem startsNumber_textOfInt (value : ℤ) : StartsNumber (textOfInt value).toList := by
  rw [toList_textOfInt]
  have hsign : (if value < 0 then ['-'] else []) = [] ∨ (if value < 0 then ['-'] else []) = ['-'] := by
    split <;> simp
  exact List.append_nil (_ ++ Nat.toDigits 10 value.natAbs) ▸
    startsNumber_signed hsign (isInteger_toDigits value.natAbs) []

theorem head_ne {c : Char} (d : Char) (hc : c.isDigit ∨ c = '-' ∨ c = 'N' ∨ c = 'I')
    (hd : d.isDigit = false ∧ d ≠ '-' ∧ d ≠ 'N' ∧ d ≠ 'I') : c ≠ d := by
  rintro rfl
  rcases hc with hdigit | rfl | rfl | rfl
  · exact absurd hdigit (by simp [hd.1])
  · exact hd.2.1 rfl
  · exact hd.2.2.1 rfl
  · exact hd.2.2.2 rfl

theorem StartsNumber.startsValue (h : StartsNumber text) : StartsValue text := by
  obtain ⟨c, rest, rfl, hc⟩ := h
  refine ⟨c, rest, rfl, ?_, head_ne _ hc (by decide), head_ne _ hc (by decide), head_ne _ hc (by decide)⟩
  simp [isJsonSpace, head_ne ' ' hc (by decide), head_ne '\t' hc (by decide), head_ne '\n' hc (by decide),
    head_ne '\r' hc (by decide)]

end Ends

/-! ## Reading what was written -/

section RoundTrip

variable {Float : Type} {floats : FloatFormat Float} {style : Style} {text rest : List Char} {value : Value Float}

theorem keyword_self (word : List Char) : keyword word value (word ++ rest) = some (value, rest) := by
  rw [keyword, if_pos (by simp), List.drop_left]

theorem keyword_of_head_ne {c d : Char} {word : List Char} (h : c ≠ d) :
    keyword (d :: word) value (c :: rest) = none := by
  have hprefix : (d :: word).isPrefixOf (c :: rest) = false := by
    rw [List.isPrefixOf_cons_cons, Bool.and_eq_false_iff]
    exact Or.inl (beq_false_of_ne h.symm)
  rw [keyword, hprefix]
  rfl

/-- A number is none of the three words. -/
theorem readAtom_of_startsNumber (h : StartsNumber text) : readAtom floats text =
    (readNumber floats text <|> constants.firstM fun word ↦ keyword word (.float (floats.parse word)) text) := by
  obtain ⟨c, tail, rfl, hc⟩ := h
  have hnull : keyword "null".toList (.null : Value Float) (c :: tail) = none := keyword_of_head_ne (head_ne _ hc (by decide))
  have htrue : keyword "true".toList (.bool true : Value Float) (c :: tail) = none :=
    keyword_of_head_ne (head_ne _ hc (by decide))
  have hfalse : keyword "false".toList (.bool false : Value Float) (c :: tail) = none :=
    keyword_of_head_ne (head_ne _ hc (by decide))
  rw [readAtom, hnull, htrue, hfalse]
  rfl

theorem readNumber_int {number : ℤ} {digits : String} (hdigits : writeInt number = some digits)
    (hrest : EndsNumber rest) : readNumber floats (digits.toList ++ rest) = some (.int number, rest) := by
  obtain ⟨rfl, hread⟩ := readInt_writeInt hdigits
  have hsign : (if number < 0 then ['-'] else []) = [] ∨ (if number < 0 then ['-'] else []) = ['-'] := by
    split <;> simp
  have hscanned : scanNumber ((textOfInt number).toList ++ rest) = some ⟨(textOfInt number).toList, [], [], rest⟩ := by
    rw [toList_textOfInt]
    exact scanNumber_append hsign (isInteger_toDigits number.natAbs) (Or.inl rfl) (Or.inl rfl) hrest
  simp only [readNumber, hscanned, Option.bind_eq_bind, Option.bind_some, and_self, if_true, String.ofList_toList, hread]

theorem scanNumber_constant (hmem : text ∈ constants) : scanNumber (text ++ rest) = none := by
  simp only [constants, List.mem_cons, List.not_mem_nil, or_false] at hmem
  rcases hmem with rfl | rfl | rfl <;> rfl

/-- A constant is read as itself. -/
theorem firstM_constant (hmem : text ∈ constants) :
    (constants.firstM fun word ↦ keyword word (.float (floats.parse word)) (text ++ rest)) =
      some (.float (floats.parse text), rest) := by
  have hnan : keyword "NaN".toList (.float (floats.parse "NaN".toList)) ("NaN".toList ++ rest) =
      some (.float (floats.parse "NaN".toList), rest) := keyword_self _
  have hinfinity : keyword "Infinity".toList (.float (floats.parse "Infinity".toList)) ("Infinity".toList ++ rest) =
      some (.float (floats.parse "Infinity".toList), rest) := keyword_self _
  have hnegative : keyword "-Infinity".toList (.float (floats.parse "-Infinity".toList)) ("-Infinity".toList ++ rest) =
      some (.float (floats.parse "-Infinity".toList), rest) := keyword_self _
  simp only [constants, List.mem_cons, List.not_mem_nil, or_false] at hmem
  rcases hmem with rfl | rfl | rfl
  · simp only [constants, List.firstM, hnan]
    rfl
  · simp only [constants, List.firstM, hinfinity]
    rfl
  · simp only [constants, List.firstM, hnegative]
    rfl

/-- A float is read back from its text. -/
theorem readAtom_float (x : Float) (hrest : EndsNumber rest) :
    readAtom floats (floats.repr x ++ rest) = some (.float x, rest) := by
  have hstarts : StartsNumber (floats.repr x ++ rest) := by
    obtain ⟨c, tail, htext, hc⟩ := (floats.literal x).startsNumber
    exact ⟨c, tail ++ rest, htext ▸ rfl, hc⟩
  have hparse := floats.parse_repr x
  have hliteral := floats.literal x
  rw [readAtom_of_startsNumber hstarts]
  clear hstarts
  generalize floats.repr x = text at hliteral hparse ⊢
  cases hliteral with
  | constant hmem =>
    rw [readNumber, scanNumber_constant hmem, firstM_constant hmem, hparse]
    rfl
  | number hsign hinteger hfraction hexponent hne =>
    have hscanned := scanNumber_append hsign hinteger hfraction hexponent hrest
    rw [readNumber, List.append_assoc, List.append_assoc _ _ rest, hscanned]
    simp only [Option.bind_eq_bind, Option.bind_some, if_neg hne, hparse]
    rfl

theorem readAtom_int {number : ℤ} {digits : String} (hdigits : writeInt number = some digits)
    (hrest : EndsNumber rest) : readAtom floats (digits.toList ++ rest) = some (.int number, rest) := by
  have hstarts : StartsNumber (digits.toList ++ rest) := by
    obtain ⟨c, tail, htext, hc⟩ := startsNumber_textOfInt number
    refine ⟨c, tail ++ rest, ?_, hc⟩
    rw [(readInt_writeInt hdigits).1, htext, List.cons_append]
  rw [readAtom_of_startsNumber hstarts, readNumber_int hdigits hrest]
  rfl

theorem readString_writeString (text : String) (rest : List Char) :
    readString (writeString text.toList ++ rest) = some (text, rest) := by
  have hshape : writeString text.toList ++ rest = '"' :: (text.toList.flatMap escaped ++ '"' :: rest) := by
    simp [writeString]
  have hfuel : text.toList.length < (text.toList.flatMap escaped ++ '"' :: rest).length + 1 := by
    have hle := length_le_length_flatMap text.toList
    rw [List.length_append]
    omega
  rw [hshape, readString, if_pos rfl, scanString_flatMap hfuel, Option.map_some, String.ofList_toList]

/-- Replacing the value of a key changes what is found under that key only. -/
theorem lookup_map_replace (entries : List (String × Value Float)) (key other : String) (value : Value Float) :
    (entries.map fun old ↦ if old.1 = key then (key, value) else old).lookup other =
      if other = key then (entries.lookup key).map fun _ ↦ value else entries.lookup other := by
  induction entries with
  | nil => simp
  | cons entry entries ih =>
    obtain ⟨first, firstValue⟩ := entry
    rw [List.map_cons]
    by_cases hfirst : first = key
    · subst hfirst
      rw [if_pos rfl]
      by_cases hother : other = first
      · subst hother
        rw [if_pos rfl, List.lookup_cons_self, List.lookup_cons_self, Option.map_some]
      · rw [if_neg hother] at ih ⊢
        rw [List.lookup_cons, List.lookup_cons, beq_false_of_ne hother, ih]
    · rw [if_neg hfirst]
      by_cases hother : other = first
      · subst hother
        rw [if_neg hfirst, List.lookup_cons_self, List.lookup_cons_self]
      · rw [List.lookup_cons, beq_false_of_ne hother, ih, List.lookup_cons, beq_false_of_ne (Ne.symm hfirst),
          List.lookup_cons, beq_false_of_ne hother]

/-- An assignment to a key of a dictionary. -/
theorem lookup_putEntry (entries : List (String × Value Float)) (key other : String) (value : Value Float) :
    (putEntry entries (key, value)).lookup other = if other = key then some value else entries.lookup other := by
  unfold putEntry
  dsimp only
  by_cases hany : entries.any (·.1 = key)
  · rw [if_pos hany, lookup_map_replace]
    have hkey : ∃ old, entries.lookup key = some old := by
      rw [← Option.isSome_iff_exists, List.lookup_isSome_iff]
      obtain ⟨entry, hentry, hkey⟩ := List.any_eq_true.mp hany
      exact ⟨entry, hentry, beq_iff_eq.mpr (of_decide_eq_true hkey).symm⟩
    obtain ⟨old, hold⟩ := hkey
    rw [hold, Option.map_some]
  · rw [if_neg hany, List.lookup_append]
    by_cases hother : other = key
    · subst hother
      have hmissing : entries.lookup other = none := by
        rw [List.lookup_eq_none_iff]
        intro entry hentry
        exact bne_iff_ne.mpr fun heq ↦ hany (List.any_eq_true.mpr ⟨entry, hentry, decide_eq_true heq.symm⟩)
      rw [hmissing, List.lookup_cons_self, if_pos rfl]
      rfl
    · rw [List.lookup_cons, beq_false_of_ne hother, if_neg hother]
      simp

/-- An assignment keeps the keys of a dictionary distinct. -/
theorem nodup_putEntry {entries : List (String × Value Float)} (entry : String × Value Float)
    (h : (entries.map Prod.fst).Nodup) : ((putEntry entries entry).map Prod.fst).Nodup := by
  unfold putEntry
  split_ifs with hany
  · have hkeys : (entries.map fun old ↦ if old.1 = entry.1 then entry else old).map Prod.fst = entries.map Prod.fst := by
      rw [List.map_map]
      refine List.map_congr_left fun old _ ↦ ?_
      rw [Function.comp_apply]
      split_ifs with hkey
      · exact hkey.symm
      · rfl
    rwa [hkeys]
  · rw [List.map_append, List.map_singleton]
    refine List.Nodup.append h (List.nodup_singleton _) (List.disjoint_singleton.mpr ?_)
    intro hmem
    obtain ⟨old, hold, hkey⟩ := List.mem_map.mp hmem
    exact hany (List.any_eq_true.mpr ⟨old, hold, decide_eq_true hkey⟩)

theorem mem_putEntry {entries : List (String × Value Float)} {entry other : String × Value Float}
    (h : other ∈ putEntry entries entry) : other ∈ entries ∨ other = entry := by
  unfold putEntry at h
  split_ifs at h with hany
  · obtain ⟨old, hold, rfl⟩ := List.mem_map.mp h
    split_ifs
    · exact Or.inr rfl
    · exact Or.inl hold
  · exact (List.mem_append.mp h).imp_right List.mem_singleton.mp

/-- What `dict` makes of pairs is a dictionary, whatever keys they repeat. -/
theorem distinct_dictOfPairs {pairs : List (String × Value Float)} (h : ∀ pair ∈ pairs, pair.2.Distinct) :
    (Value.dict (dictOfPairs pairs)).Distinct := by
  have hkeeps (entries : List (String × Value Float)) (hkeys : (entries.map Prod.fst).Nodup)
      (hvalues : ∀ entry ∈ entries, entry.2.Distinct) :
      ((pairs.foldl putEntry entries).map Prod.fst).Nodup ∧ ∀ entry ∈ pairs.foldl putEntry entries, entry.2.Distinct := by
    induction pairs generalizing entries with
    | nil => exact ⟨hkeys, hvalues⟩
    | cons pair pairs ih =>
      obtain ⟨hpair, hpairs⟩ := List.forall_mem_cons.mp h
      refine ih hpairs _ (nodup_putEntry pair hkeys) fun entry hentry ↦ ?_
      rcases mem_putEntry hentry with hold | rfl
      · exact hvalues entry hold
      · exact hpair
  obtain ⟨hkeys, hvalues⟩ := hkeeps [] List.nodup_nil (List.forall_mem_nil _)
  exact ⟨hkeys, distinctEntries_iff.mpr hvalues⟩

/-- Pairs with different keys are a dictionary as they are. -/
theorem foldl_putEntry (entries pairs : List (String × Value Float)) (h : ((entries ++ pairs).map Prod.fst).Nodup) :
    pairs.foldl putEntry entries = entries ++ pairs := by
  induction pairs generalizing entries with
  | nil => exact (List.append_nil entries).symm
  | cons pair pairs ih =>
    have hnew : entries.any (fun old ↦ old.1 = pair.1) = false := by
      rw [List.any_eq_false]
      intro old hold hkey
      rw [List.map_append, List.map_cons] at h
      have hdisjoint := (List.nodup_append.mp h).2.2 old.1 (List.mem_map_of_mem hold) pair.1 List.mem_cons_self
      exact hdisjoint (of_decide_eq_true hkey)
    have hput : putEntry entries pair = entries ++ [pair] := by
      rw [putEntry, hnew]
      rfl
    rw [List.foldl_cons, hput, ih _ (by rwa [List.append_assoc, List.singleton_append]), List.append_assoc,
      List.singleton_append]

theorem dictOfPairs_of_nodup {pairs : List (String × Value Float)} (h : (pairs.map Prod.fst).Nodup) :
    dictOfPairs pairs = pairs := foldl_putEntry [] pairs h

theorem StartsValue.append (h : StartsValue text) (rest : List Char) : StartsValue (text ++ rest) := by
  obtain ⟨c, tail, rfl, hc⟩ := h
  exact ⟨c, tail ++ rest, rfl, hc⟩

theorem startsValue_cons {c : Char} (h : isJsonSpace c = false ∧ c ≠ ']' ∧ c ≠ '}' ∧ c ≠ Char.ofNat 0xFEFF)
    (rest : List Char) : StartsValue (c :: rest) := ⟨c, rest, rfl, h⟩

/-- What is written starts a value. -/
theorem startsValue_write (h : write floats style value = some text) : StartsValue text := by
  cases value with
  | null =>
    rw [write] at h
    exact Option.some.inj h ▸ startsValue_cons (by decide) _
  | bool value =>
    rw [write] at h
    cases value
    · exact Option.some.inj h ▸ startsValue_cons (by decide) _
    · exact Option.some.inj h ▸ startsValue_cons (by decide) _
  | int value =>
    rw [write] at h
    obtain ⟨digits, hdigits, rfl⟩ := Option.map_eq_some_iff.mp h
    rw [(readInt_writeInt hdigits).1]
    exact (startsNumber_textOfInt value).startsValue
  | float value =>
    rw [write] at h
    exact Option.some.inj h ▸ (floats.literal value).startsNumber.startsValue
  | str text =>
    rw [write] at h
    exact Option.some.inj h ▸ startsValue_cons (by decide) _
  | list items =>
    cases items with
    | nil =>
      rw [write] at h
      exact Option.some.inj h ▸ startsValue_cons (by decide) _
    | cons item items =>
      simp only [write, Option.bind_eq_bind, Option.bind_eq_some_iff, Option.some.injEq] at h
      obtain ⟨first, -, others, -, rfl⟩ := h
      exact startsValue_cons (by decide) _
  | dict entries =>
    cases entries with
    | nil =>
      rw [write] at h
      exact Option.some.inj h ▸ startsValue_cons (by decide) _
    | cons entry entries =>
      obtain ⟨key, value⟩ := entry
      simp only [write, Option.bind_eq_bind, Option.bind_eq_some_iff, Option.some.injEq] at h
      obtain ⟨first, -, others, -, rfl⟩ := h
      exact startsValue_cons (by decide) _

/-- What follows an item or an entry ends it. -/
theorem endsValue_writeItems {items : List (Value Float)} (h : writeItems floats style items = some text)
    (rest : List Char) : EndsValue (text ++ rest) := by
  cases items with
  | nil =>
    rw [writeItems] at h
    obtain rfl := Option.some.inj h
    intro c hc
    exact Or.inr (Or.inl (Option.some.inj hc).symm)
  | cons item items =>
    simp only [writeItems, Option.bind_eq_bind, Option.bind_eq_some_iff, Option.some.injEq] at h
    obtain ⟨first, -, others, -, rfl⟩ := h
    intro c hc
    exact Or.inl (Option.some.inj hc).symm

theorem endsValue_writeEntries {entries : List (String × Value Float)}
    (h : writeEntries floats style entries = some text) (rest : List Char) : EndsValue (text ++ rest) := by
  cases entries with
  | nil =>
    rw [writeEntries] at h
    obtain rfl := Option.some.inj h
    intro c hc
    exact Or.inr (Or.inr (Or.inl (Option.some.inj hc).symm))
  | cons entry entries =>
    obtain ⟨key, value⟩ := entry
    simp only [writeEntries, Option.bind_eq_bind, Option.bind_eq_some_iff, Option.some.injEq] at h
    obtain ⟨first, -, others, -, rfl⟩ := h
    intro c hc
    exact Or.inl (Option.some.inj hc).symm

/-- A value that starts with none of the three opening characters. -/
theorem readValue_of_atom {c : Char} {fuel : ℕ} (hquote : c ≠ '"') (hlist : c ≠ '[') (hdict : c ≠ '{') :
    readValue floats (fuel + 1) (c :: rest) = readAtom floats (c :: rest) := by
  rw [readValue, if_neg hquote, if_neg hlist, if_neg hdict]

theorem readValue_of_startsNumber {fuel : ℕ} (h : StartsNumber text) :
    readValue floats (fuel + 1) text = readAtom floats text := by
  obtain ⟨c, tail, rfl, hc⟩ := h
  exact readValue_of_atom (head_ne _ hc (by decide)) (head_ne _ hc (by decide)) (head_ne _ hc (by decide))

theorem length_pos_of_startsValue (h : StartsValue text) : 0 < text.length := by
  obtain ⟨c, tail, rfl, -⟩ := h
  exact Nat.succ_pos _

/-- A list that is not empty is read by the loop. -/
theorem readValue_list {fuel : ℕ} {items : List Char} (hskip : skipSpace rest = items) (hstarts : StartsValue items) :
    readValue floats (fuel + 1) ('[' :: rest) =
      (readItems floats fuel items).map fun read ↦ (.list read.1, read.2) := by
  obtain ⟨c, tail, rfl, -, hbracket, -⟩ := hstarts
  rw [readValue, if_neg (by decide), if_pos rfl, hskip]
  split
  · rename_i heq
    exact absurd (List.cons.inj heq).1 hbracket
  · rfl

theorem readValue_dict {fuel : ℕ} {entries : List Char} (hskip : skipSpace rest = entries)
    (hstarts : StartsValue entries) : readValue floats (fuel + 1) ('{' :: rest) =
      (readEntries floats fuel entries).map fun read ↦ (.dict (dictOfPairs read.1), read.2) := by
  obtain ⟨c, tail, rfl, -, -, hbrace, -⟩ := hstarts
  rw [readValue, if_neg (by decide), if_neg (by decide), if_pos rfl, hskip]
  split
  · rename_i heq
    exact absurd (List.cons.inj heq).1 hbrace
  · rfl

/-- An entry and what follows its value. -/
def entryText (style : Style) (key : String) (valueText : List Char) : List Char :=
  writeString key.toList ++ ':' :: (style.afterKey ++ valueText)

theorem startsValue_entryText (key : String) (valueText : List Char) : StartsValue (entryText style key valueText) :=
  (startsValue_cons (by decide) _ : StartsValue (writeString key.toList)).append _

/-- One turn of the loop of `JSONObject`, up to what follows the value. -/
theorem readEntries_entryText {fuel : ℕ} {key : String} {first others : List Char} (hstarts : StartsValue first)
    (hread : readValue floats fuel (first ++ others) = some (value, others)) :
    readEntries floats (fuel + 1) (entryText style key (first ++ others)) =
      (match skipSpace others with
        | '}' :: rest => some ([(key, value)], rest)
        | ',' :: rest => do
          let (entries, rest) ← readEntries floats fuel (skipSpace rest)
          some ((key, value) :: entries, rest)
        | _ => none) := by
  have hcolon : skipSpace (':' :: (style.afterKey ++ (first ++ others))) = ':' :: (style.afterKey ++ (first ++ others)) :=
    skipSpace_cons (by decide)
  rw [readEntries, entryText, readString_writeString]
  simp only [Option.bind_eq_bind, Option.bind_some, hcolon, hstarts.skipSpace style.afterKey_space others, hread]

mutual

/-- With fuel for its text, a value is read up to what follows it. -/
theorem readValue_write : ∀ (value : Value Float), value.Distinct → ∀ {text : List Char},
    write floats style value = some text → ∀ {fuel : ℕ}, 2 * text.length ≤ fuel → ∀ {rest : List Char},
    EndsValue rest → readValue floats fuel (text ++ rest) = some (value, rest)
  | value, hdistinct, text, h, 0, hfuel, rest, hrest => by
    have hpos := length_pos_of_startsValue (startsValue_write h)
    omega
  | .null, hdistinct, text, h, fuel + 1, hfuel, rest, hrest => by
    rw [write] at h
    obtain rfl := Option.some.inj h
    exact (readValue_of_atom (by decide) (by decide) (by decide)).trans (by rw [readAtom]; rfl)
  | .bool flag, hdistinct, text, h, fuel + 1, hfuel, rest, hrest => by
    rw [write] at h
    obtain rfl := Option.some.inj h
    cases flag
    · exact (readValue_of_atom (by decide) (by decide) (by decide)).trans rfl
    · exact (readValue_of_atom (by decide) (by decide) (by decide)).trans rfl
  | .int number, hdistinct, text, h, fuel + 1, hfuel, rest, hrest => by
    rw [write] at h
    obtain ⟨digits, hdigits, rfl⟩ := Option.map_eq_some_iff.mp h
    obtain ⟨c, tail, htext, hc⟩ := startsNumber_textOfInt number
    have hstarts : StartsNumber (digits.toList ++ rest) :=
      ⟨c, tail ++ rest, by rw [(readInt_writeInt hdigits).1, htext, List.cons_append], hc⟩
    rw [readValue_of_startsNumber hstarts, readAtom_int hdigits hrest.endsNumber]
  | .float x, hdistinct, text, h, fuel + 1, hfuel, rest, hrest => by
    rw [write] at h
    obtain rfl := Option.some.inj h
    obtain ⟨c, tail, htext, hc⟩ := (floats.literal x).startsNumber
    have hstarts : StartsNumber (floats.repr x ++ rest) := ⟨c, tail ++ rest, by rw [htext, List.cons_append], hc⟩
    rw [readValue_of_startsNumber hstarts, readAtom_float x hrest.endsNumber]
  | .str string, hdistinct, text, h, fuel + 1, hfuel, rest, hrest => by
    rw [write] at h
    obtain rfl := Option.some.inj h
    have hread := readString_writeString string rest
    rw [writeString, List.cons_append] at hread ⊢
    rw [readValue, if_pos rfl, hread]
    rfl
  | .list [], hdistinct, text, h, fuel + 1, hfuel, rest, hrest => by
    rw [write] at h
    obtain rfl := Option.some.inj h
    rfl
  | .list (item :: items), hdistinct, text, h, fuel + 1, hfuel, rest, hrest => by
    simp only [write, Option.bind_eq_bind, Option.bind_eq_some_iff, Option.some.injEq] at h
    obtain ⟨first, hfirst, others, hothers, rfl⟩ := h
    have hstarts := (startsValue_write hfirst).append others
    have hskip : skipSpace (first ++ others ++ rest) = first ++ others ++ rest :=
      hstarts.skipSpace (List.forall_mem_nil _) rest
    have hfuelItems : 2 * (first ++ others).length ≤ fuel := by
      rw [List.length_cons] at hfuel
      omega
    rw [List.cons_append, readValue_list hskip (hstarts.append rest),
      readItems_write item items hdistinct hfirst hothers hfuelItems]
    rfl
  | .dict [], hdistinct, text, h, fuel + 1, hfuel, rest, hrest => by
    rw [write] at h
    obtain rfl := Option.some.inj h
    rfl
  | .dict ((key, value) :: entries), hdistinct, text, h, fuel + 1, hfuel, rest, hrest => by
    simp only [write, Option.bind_eq_bind, Option.bind_eq_some_iff, Option.some.injEq] at h
    obtain ⟨first, hfirst, others, hothers, rfl⟩ := h
    have hshape : writeString key.toList ++ ':' :: (style.afterKey ++ (first ++ others)) ++ rest =
        entryText style key (first ++ others ++ rest) := by
      simp [entryText]
    have hstarts : StartsValue (entryText style key (first ++ others ++ rest)) := startsValue_entryText key _
    have hskip : skipSpace (entryText style key (first ++ others ++ rest)) =
        entryText style key (first ++ others ++ rest) := by
      have hself := hstarts.skipSpace (List.forall_mem_nil _) []
      rwa [List.append_nil] at hself
    have hfuelEntries : 2 * (first ++ others).length ≤ fuel := by
      simp only [List.length_cons, List.length_append] at hfuel ⊢
      omega
    rw [List.cons_append, hshape, readValue_dict hskip hstarts,
      readEntries_write key value entries hdistinct.2 hfirst hothers hfuelEntries, Option.map_some,
      dictOfPairs_of_nodup hdistinct.1]

/-- A list is read back item by item. -/
theorem readItems_write : ∀ (item : Value Float) (items : List (Value Float)), DistinctItems (item :: items) →
    ∀ {first others : List Char}, write floats style item = some first → writeItems floats style items = some others →
    ∀ {fuel : ℕ}, 2 * (first ++ others).length ≤ fuel → ∀ {rest : List Char},
    readItems floats fuel (first ++ others ++ rest) = some (item :: items, rest)
  | item, items, hdistinct, first, others, hfirst, hothers, 0, hfuel, rest => by
    have hpos := length_pos_of_startsValue (startsValue_write hfirst)
    rw [List.length_append] at hfuel
    omega
  | item, [], hdistinct, first, others, hfirst, hothers, fuel + 1, hfuel, rest => by
    have hends := endsValue_writeItems hothers rest
    rw [writeItems] at hothers
    obtain rfl := Option.some.inj hothers
    have hfuelItem : 2 * first.length ≤ fuel := by
      rw [List.length_append, List.length_singleton] at hfuel
      omega
    rw [List.append_assoc, readItems, readValue_write item hdistinct.1 hfirst hfuelItem hends]
    rfl
  | item, next :: items, hdistinct, first, others, hfirst, hothers, fuel + 1, hfuel, rest => by
    have hends := endsValue_writeItems hothers rest
    simp only [writeItems, Option.bind_eq_bind, Option.bind_eq_some_iff, Option.some.injEq] at hothers
    obtain ⟨second, hsecond, following, hfollowing, rfl⟩ := hothers
    have hfuelItem : 2 * first.length ≤ fuel := by
      simp only [List.length_cons, List.length_append] at hfuel
      omega
    have hfuelItems : 2 * (second ++ following).length ≤ fuel := by
      simp only [List.length_cons, List.length_append] at hfuel ⊢
      omega
    have hskip : skipSpace (style.afterItem ++ (second ++ following) ++ rest) = second ++ following ++ rest := by
      rw [List.append_assoc]
      exact ((startsValue_write hsecond).append following).skipSpace style.afterItem_space rest
    rw [List.append_assoc, readItems, readValue_write item hdistinct.1 hfirst hfuelItem hends]
    simp only [Option.bind_eq_bind, Option.bind_some, List.cons_append, skipSpace_comma]
    rw [hskip, readItems_write next items hdistinct.2 hsecond hfollowing hfuelItems]
    rfl

/-- A dictionary is read back entry by entry. -/
theorem readEntries_write : ∀ (key : String) (value : Value Float) (entries : List (String × Value Float)),
    DistinctEntries ((key, value) :: entries) → ∀ {first others : List Char},
    write floats style value = some first → writeEntries floats style entries = some others →
    ∀ {fuel : ℕ}, 2 * (first ++ others).length ≤ fuel → ∀ {rest : List Char},
    readEntries floats fuel (entryText style key (first ++ others ++ rest)) = some ((key, value) :: entries, rest)
  | key, value, entries, hdistinct, first, others, hfirst, hothers, 0, hfuel, rest => by
    have hpos := length_pos_of_startsValue (startsValue_write hfirst)
    rw [List.length_append] at hfuel
    omega
  | key, value, [], hdistinct, first, others, hfirst, hothers, fuel + 1, hfuel, rest => by
    have hends := endsValue_writeEntries hothers rest
    rw [writeEntries] at hothers
    obtain rfl := Option.some.inj hothers
    have hfuelValue : 2 * first.length ≤ fuel := by
      rw [List.length_append, List.length_singleton] at hfuel
      omega
    rw [List.append_assoc, readEntries_entryText (startsValue_write hfirst)
      (readValue_write value hdistinct.1 hfirst hfuelValue hends)]
    rfl
  | key, value, (second, next) :: entries, hdistinct, first, others, hfirst, hothers, fuel + 1, hfuel, rest => by
    have hends := endsValue_writeEntries hothers rest
    simp only [writeEntries, Option.bind_eq_bind, Option.bind_eq_some_iff, Option.some.injEq] at hothers
    obtain ⟨nextText, hnext, following, hfollowing, rfl⟩ := hothers
    have hfuelValue : 2 * first.length ≤ fuel := by
      simp only [List.length_cons, List.length_append] at hfuel
      omega
    have hfuelEntries : 2 * (nextText ++ following).length ≤ fuel := by
      simp only [List.length_cons, List.length_append] at hfuel ⊢
      omega
    have hskip : skipSpace (style.afterItem ++
        (writeString second.toList ++ ':' :: (style.afterKey ++ (nextText ++ following))) ++ rest) =
        entryText style second (nextText ++ following ++ rest) := by
      have hshape : style.afterItem ++ (writeString second.toList ++ ':' :: (style.afterKey ++ (nextText ++ following))) ++
          rest = style.afterItem ++ (entryText style second (nextText ++ following ++ rest) ++ []) := by
        simp [entryText]
      rw [hshape, (startsValue_entryText second _).skipSpace style.afterItem_space, List.append_nil]
    rw [List.append_assoc, readEntries_entryText (startsValue_write hfirst)
      (readValue_write value hdistinct.1 hfirst hfuelValue hends)]
    simp only [Option.bind_eq_bind, List.cons_append, skipSpace_comma]
    rw [hskip, readEntries_write second next entries hdistinct.2 hnext hfollowing hfuelEntries]
    rfl

end

/-- `json.loads` of what `json.dumps` has written, with white space after it. -/
theorem loads_write (hdistinct : value.Distinct) (h : write floats style value = some text)
    (hrest : ∀ c ∈ rest, isJsonSpace c) : loads floats (text ++ rest) = some value := by
  have hstarts := startsValue_write h
  have hends : EndsValue rest := fun c hc ↦ Or.inr (Or.inr (Or.inr (hrest c (List.mem_of_head? hc))))
  have hskip : skipSpace (text ++ rest) = text ++ rest := hstarts.skipSpace (List.forall_mem_nil _) rest
  have hfuel : 2 * text.length ≤ 2 * (text ++ rest).length := by
    rw [List.length_append]
    omega
  have hmark : (text ++ rest).head? ≠ some (Char.ofNat 0xFEFF) := by
    obtain ⟨c, tail, rfl, -, -, -, hmark⟩ := hstarts
    exact fun heq ↦ hmark (Option.some.inj heq)
  have hblank : skipSpace rest = [] := List.dropWhile_eq_nil_iff.mpr hrest
  rw [loads, if_neg hmark, hskip, readValue_write value hdistinct h hfuel hends]
  exact if_pos hblank

/-- Different values have different texts. -/
theorem write_injective {other : Value Float} (hdistinct : value.Distinct) (hother : other.Distinct)
    (h : write floats style value = some text) (hsame : write floats style other = some text) : value = other := by
  have hread : loads floats (text ++ []) = some value := loads_write hdistinct h (List.forall_mem_nil _)
  have hreadOther : loads floats (text ++ []) = some other := loads_write hother hsame (List.forall_mem_nil _)
  exact Option.some.inj (hread.symm.trans hreadOther)

end RoundTrip

/-! ## One line -/

section Lines

variable {Float : Type} {floats : FloatFormat Float} {style : Style}

/-- Printable text, which is all on one line. -/
def Printable (text : List Char) : Prop := ∀ c ∈ text, 0x20 ≤ c.toNat

theorem printable_append {text rest : List Char} : Printable (text ++ rest) ↔ Printable text ∧ Printable rest :=
  List.forall_mem_append

theorem printable_cons {c : Char} {rest : List Char} : Printable (c :: rest) ↔ 0x20 ≤ c.toNat ∧ Printable rest :=
  List.forall_mem_cons

theorem printable_of_forall_isDigit {text : List Char} (h : ∀ c ∈ text, c.isDigit) : Printable text := by
  intro c hc
  have hdigit := h c hc
  simp only [Char.isDigit, Bool.and_eq_true, decide_eq_true_eq] at hdigit
  have hle : 48 ≤ c.toNat := hdigit.1
  omega

theorem printable_of_forall_eq_blank {text : List Char} (h : ∀ c ∈ text, c = ' ') : Printable text := by
  intro c hc
  rw [h c hc]
  decide

theorem printable_writeString (chars : List Char) : Printable (writeString chars) :=
  fun _ hc ↦ le_toNat_of_mem_writeString hc

theorem printable_of_isInteger {text : List Char} (h : IsInteger text) : Printable text := by
  obtain ⟨c, digits, rfl, hdigit, hdigits⟩ := exists_cons_of_isInteger h
  exact printable_of_forall_isDigit (List.forall_mem_cons.mpr ⟨hdigit, hdigits⟩)

/-- A float literal has only printable characters. -/
theorem FloatLiteral.printable {text : List Char} (h : FloatLiteral text) : Printable text := by
  cases h with
  | constant hmem =>
    simp only [constants, List.mem_cons, List.not_mem_nil, or_false] at hmem
    rcases hmem with rfl | rfl | rfl <;> unfold Printable <;> decide
  | number hsign hinteger hfraction hexponent =>
    refine printable_append.mpr ⟨printable_append.mpr ⟨?_, printable_of_isInteger hinteger⟩,
      printable_append.mpr ⟨?_, ?_⟩⟩
    · rcases hsign with rfl | rfl <;> unfold Printable <;> decide
    · rcases hfraction with rfl | ⟨digits, rfl, -, hdigits⟩
      · exact List.forall_mem_nil _
      · exact printable_cons.mpr ⟨by decide, printable_of_forall_isDigit hdigits⟩
    · rcases hexponent with rfl | ⟨e, sign, digits, rfl, he, hsign, -, hdigits⟩
      · exact List.forall_mem_nil _
      · refine printable_cons.mpr ⟨?_, printable_append.mpr ⟨?_, printable_of_forall_isDigit hdigits⟩⟩
        · rcases he with rfl | rfl <;> decide
        · rcases hsign with rfl | rfl | rfl <;> unfold Printable <;> decide

theorem printable_textOfInt (value : ℤ) : Printable (textOfInt value).toList := by
  intro c hc
  rcases forall_mem_textOfInt hc with rfl | hdigit
  · decide
  · exact printable_of_forall_isDigit (List.forall_mem_singleton.mpr hdigit) c List.mem_cons_self

mutual

/-- A written value has no line break. -/
theorem printable_write : ∀ (value : Value Float) {text : List Char}, write floats style value = some text →
    Printable text
  | .null, text, h => by
    rw [write] at h
    exact Option.some.inj h ▸ (by unfold Printable; decide)
  | .bool value, text, h => by
    rw [write] at h
    cases value
    · exact Option.some.inj h ▸ (by unfold Printable; decide)
    · exact Option.some.inj h ▸ (by unfold Printable; decide)
  | .int value, text, h => by
    rw [write] at h
    obtain ⟨digits, hdigits, rfl⟩ := Option.map_eq_some_iff.mp h
    exact (readInt_writeInt hdigits).1 ▸ printable_textOfInt value
  | .float value, text, h => by
    rw [write] at h
    exact Option.some.inj h ▸ (floats.literal value).printable
  | .str string, text, h => by
    rw [write] at h
    exact Option.some.inj h ▸ printable_writeString string.toList
  | .list [], text, h => by
    rw [write] at h
    exact Option.some.inj h ▸ (by unfold Printable; decide)
  | .list (item :: items), text, h => by
    simp only [write, Option.bind_eq_bind, Option.bind_eq_some_iff, Option.some.injEq] at h
    obtain ⟨first, hfirst, others, hothers, rfl⟩ := h
    exact printable_cons.mpr ⟨by decide, printable_append.mpr
      ⟨printable_write item hfirst, printable_writeItems items hothers⟩⟩
  | .dict [], text, h => by
    rw [write] at h
    exact Option.some.inj h ▸ (by unfold Printable; decide)
  | .dict ((key, value) :: entries), text, h => by
    simp only [write, Option.bind_eq_bind, Option.bind_eq_some_iff, Option.some.injEq] at h
    obtain ⟨first, hfirst, others, hothers, rfl⟩ := h
    exact printable_cons.mpr ⟨by decide, printable_append.mpr ⟨printable_writeString key.toList, printable_cons.mpr
      ⟨by decide, printable_append.mpr ⟨printable_of_forall_eq_blank style.afterKey_space, printable_append.mpr
        ⟨printable_write value hfirst, printable_writeEntries entries hothers⟩⟩⟩⟩⟩

theorem printable_writeItems : ∀ (items : List (Value Float)) {text : List Char},
    writeItems floats style items = some text → Printable text
  | [], text, h => by
    rw [writeItems] at h
    exact Option.some.inj h ▸ (by unfold Printable; decide)
  | item :: items, text, h => by
    simp only [writeItems, Option.bind_eq_bind, Option.bind_eq_some_iff, Option.some.injEq] at h
    obtain ⟨first, hfirst, others, hothers, rfl⟩ := h
    exact printable_cons.mpr ⟨by decide, printable_append.mpr ⟨printable_of_forall_eq_blank style.afterItem_space,
      printable_append.mpr ⟨printable_write item hfirst, printable_writeItems items hothers⟩⟩⟩

theorem printable_writeEntries : ∀ (entries : List (String × Value Float)) {text : List Char},
    writeEntries floats style entries = some text → Printable text
  | [], text, h => by
    rw [writeEntries] at h
    exact Option.some.inj h ▸ (by unfold Printable; decide)
  | (key, value) :: entries, text, h => by
    simp only [writeEntries, Option.bind_eq_bind, Option.bind_eq_some_iff, Option.some.injEq] at h
    obtain ⟨first, hfirst, others, hothers, rfl⟩ := h
    exact printable_cons.mpr ⟨by decide, printable_append.mpr ⟨printable_of_forall_eq_blank style.afterItem_space,
      printable_append.mpr ⟨printable_writeString key.toList, printable_cons.mpr ⟨by decide, printable_append.mpr
        ⟨printable_of_forall_eq_blank style.afterKey_space, printable_append.mpr
          ⟨printable_write value hfirst, printable_writeEntries entries hothers⟩⟩⟩⟩⟩⟩

end

/-! ### Files of lines -/

/-- The lines that a text file is read as, each with its line break. -/
def fileLines : List Char → List (List Char)
  | [] => []
  | c :: rest =>
    if c = '\n' then [c] :: fileLines rest
    else
      match fileLines rest with
      | [] => [[c]]
      | line :: lines => (c :: line) :: lines

theorem fileLines_line {line : List Char} (h : Printable line) (rest : List Char) :
    fileLines (line ++ '\n' :: rest) = (line ++ ['\n']) :: fileLines rest := by
  induction line with
  | nil => exact if_pos rfl
  | cons c line ih =>
    obtain ⟨hc, hline⟩ := printable_cons.mp h
    have hne : c ≠ '\n' := by
      rintro rfl
      exact absurd hc (by decide)
    rw [List.cons_append, fileLines, if_neg hne, ih hline]
    rfl

/-- A file with a line for each value that could be written is read back line by line. -/
theorem loads_fileLines {α : Type} {value : α → Value Float} (hdistinct : ∀ item, (value item).Distinct) (items : List α) :
    (fileLines ((items.filterMap fun item ↦ write floats style (value item)).flatMap (· ++ ['\n']))).map (loads floats) =
      (items.filter fun item ↦ (write floats style (value item)).isSome).map fun item ↦ some (value item) := by
  induction items with
  | nil => rfl
  | cons item items ih =>
    rw [List.filterMap_cons, List.filter_cons]
    cases htext : write floats style (value item) with
    | none => exact ih
    | some text =>
      have hread : loads floats (text ++ ['\n']) = some (value item) := by
        refine loads_write (hdistinct item) htext ?_
        decide
      dsimp only
      rw [Option.isSome_some, if_pos rfl, List.flatMap_cons, List.append_assoc, List.singleton_append,
        fileLines_line (printable_write (value item) htext), List.map_cons, List.map_cons, hread, ih]

end Lines

end TenderPhase1.JsonText
