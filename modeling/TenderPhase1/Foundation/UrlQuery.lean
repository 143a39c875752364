import TenderPhase1.Foundation.UrlSplit
import Mathlib.Data.List.Basic

/-!
# Query strings

`quote_plus`, `urlencode` and `parse_qsl` of `urllib.parse` on the characters of a
text. What `urlencode` writes has none of the marks of a URL in it, so that it can be
read back parameter by parameter.
-/

namespace TenderPhase1.Urllib

open PyText

/-! ## Quoting -/

/-- `_ALWAYS_SAFE` -/
def isAlwaysSafe (c : Char) : Bool := c.isAlphanum || c = '_' || c = '.' || c = '-' || c = '~'

def hexDigit (n : ℕ) : Char := (Nat.digitChar n).toUpper

def percentByte (byte : UInt8) : List Char := ['%', hexDigit (byte.toNat / 16), hexDigit (byte.toNat % 16)]

def quoteChar (c : Char) : List Char :=
  if isAlwaysSafe c || c = ' ' then [c] else (String.utf8EncodeChar c).flatMap percentByte

/-- `quote(text, safe=" ")` -/
def quote (chars : List Char) : List Char := chars.flatMap quoteChar

def spaceToPlus (c : Char) : Char := if c = ' ' then '+' else c

def plusToSpace (c : Char) : Char := if c = '+' then ' ' else c

def quotePlus (chars : List Char) : List Char := (quote chars).map spaceToPlus

/-! ## Query strings -/

def urlencode (pairs : List (List Char × List Char)) : List Char :=
  ['&'].intercalate (pairs.map fun pair ↦ quotePlus pair.1 ++ '=' :: quotePlus pair.2)

/-- The pieces of a query that `parse_qsl` reads a parameter from. -/
def pieces (query : List Char) : List (List Char) := (query.splitOn '&').filter (· ≠ [])

section Parsing

variable {β : Type*} (unquote : List Char → β)

def readPiece (piece : List Char) : β × β :=
  (unquote ((cutAt '=' piece).1.map plusToSpace), unquote ((cutAt '=' piece).2.map plusToSpace))

def parseQsl (query : List Char) (keepBlankValues : Bool) : List (β × β) :=
  ((pieces query).filter fun piece ↦ keepBlankValues || (cutAt '=' piece).2 ≠ []).map (readPiece unquote)

theorem parseQsl_true (query : List Char) : parseQsl unquote query true = (pieces query).map (readPiece unquote) := by
  simp [parseQsl]

end Parsing

/-! ## The characters of a quoted text -/

def isQuoted (c : Char) : Bool := isAlwaysSafe c || c = '%' || c = '+'

theorem isAlwaysSafe_hexDigit {n : ℕ} (hn : n < 16) : isAlwaysSafe (hexDigit n) = true :=
  (by decide : ∀ n < 16, isAlwaysSafe (hexDigit n) = true) n hn

theorem mem_percentByte {byte : UInt8} {c : Char} (h : c ∈ percentByte byte) :
    isAlwaysSafe c = true ∨ c = '%' := by
  have hbyte : byte.toNat < 256 := byte.toNat_lt
  simp only [percentByte, List.mem_cons, List.not_mem_nil, or_false] at h
  rcases h with rfl | rfl | rfl
  · exact .inr rfl
  · exact .inl (isAlwaysSafe_hexDigit (by omega))
  · exact .inl (isAlwaysSafe_hexDigit (by omega))

theorem mem_quote {chars : List Char} {c : Char} (h : c ∈ quote chars) :
    isAlwaysSafe c = true ∨ c = '%' ∨ c = ' ' := by
  obtain ⟨source, -, hc⟩ := List.mem_flatMap.mp h
  unfold quoteChar at hc
  split at hc
  · rename_i hkept
    rw [List.mem_singleton] at hc
    subst hc
    rcases Bool.or_eq_true_iff.mp hkept with hsafe | hspace
    · exact .inl hsafe
    · exact .inr (.inr (by simpa using hspace))
  · obtain ⟨byte, -, hbyte⟩ := List.mem_flatMap.mp hc
    rcases mem_percentByte hbyte with hsafe | hpercent
    · exact .inl hsafe
    · exact .inr (.inl hpercent)

theorem isQuoted_of_mem_quotePlus {chars : List Char} {c : Char} (h : c ∈ quotePlus chars) : isQuoted c = true := by
  obtain ⟨source, hsource, rfl⟩ := List.mem_map.mp h
  rcases mem_quote hsource with hsafe | rfl | rfl
  · by_cases hspace : source = ' '
    · rw [hspace]
      decide
    · simp [isQuoted, spaceToPlus, hspace, hsafe]
  · decide
  · decide

/-- `quote_plus` writes no other plus sign than those for spaces. -/
theorem map_plusToSpace_quotePlus (chars : List Char) : (quotePlus chars).map plusToSpace = quote chars := by
  rw [quotePlus, List.map_map]
  calc (quote chars).map (plusToSpace ∘ spaceToPlus)
      = (quote chars).map id := by
        apply List.map_congr_left
        intro c hc
        have hplus : c ≠ '+' := by
          rintro rfl
          rcases mem_quote hc with hsafe | hpercent | hspace
          · exact absurd hsafe (by decide)
          · exact absurd hpercent (by decide)
          · exact absurd hspace (by decide)
        by_cases hspace : c = ' '
        · subst hspace
          rfl
        · simp [spaceToPlus, plusToSpace, hspace, hplus]
    _ = quote chars := List.map_id _

theorem notMem_quotePlus {c : Char} (hc : isQuoted c = false) (chars : List Char) : c ∉ quotePlus chars := by
  intro hmem
  rw [isQuoted_of_mem_quotePlus hmem] at hc
  cases hc

/-- The characters that `urlencode` writes -/
def isEncoded (c : Char) : Bool := isQuoted c || c = '&' || c = '='

theorem toNat_of_isEncoded {c : Char} (hc : isEncoded c = true) : 0x21 ≤ c.toNat ∧ c.toNat < 128 := by
  simp only [isEncoded, isQuoted, isAlwaysSafe, Char.isAlphanum, Char.isDigit, Bool.or_eq_true, Bool.and_eq_true,
    decide_eq_true_eq, UInt32.le_iff_toNat_le] at hc
  rcases hc with ((((((((hletter | hdigit) | rfl) | rfl) | rfl) | rfl) | rfl) | rfl) | rfl) | rfl
  · have hcode := toNat_of_isAlpha hletter
    omega
  · have hcode : 48 ≤ c.toNat ∧ c.toNat ≤ 57 := hdigit
    omega
  all_goals decide

theorem isSpace_of_isEncoded {c : Char} (hc : isEncoded c = true) : isSpace c = false := by
  have hcode := toNat_of_isEncoded hc
  simp only [isSpace, Bool.or_eq_false_iff, Bool.and_eq_false_iff, decide_eq_false_iff_not]
  omega

/-- An encoded query consists of encoded characters. -/
theorem isEncoded_of_mem_urlencode {pairs : List (List Char × List Char)} {c : Char} (h : c ∈ urlencode pairs) :
    isEncoded c = true := by
  have hquoted {chars : List Char} (hmem : c ∈ quotePlus chars) : isEncoded c = true := by
    rw [isEncoded, isQuoted_of_mem_quotePlus hmem]
    rfl
  unfold urlencode at h
  induction pairs with
  | nil => exact absurd h List.not_mem_nil
  | cons pair pairs ih =>
    have hpiece (hmem : c ∈ quotePlus pair.1 ++ '=' :: quotePlus pair.2) : isEncoded c = true := by
      rcases List.mem_append.mp hmem with hname | hrest
      · exact hquoted hname
      · rcases List.mem_cons.mp hrest with rfl | hvalue
        · decide
        · exact hquoted hvalue
    cases pairs with
    | nil => exact hpiece (by simpa using h)
    | cons next pairs =>
      rw [List.map_cons, List.map_cons, List.intercalate_cons_cons] at h
      rcases List.mem_append.mp h with hfront | hrest
      · rcases List.mem_append.mp hfront with hmem | hand
        · exact hpiece hmem
        · rw [List.mem_singleton.mp hand]
          decide
      · exact ih hrest

theorem rstrip_urlencode (pairs : List (List Char × List Char)) : rstrip (urlencode pairs) = urlencode pairs := by
  apply List.rdropWhile_eq_self_iff.mpr
  intro hne hlast
  rw [isSpace_of_isEncoded (isEncoded_of_mem_urlencode (List.getLast_mem hne))] at hlast
  cases hlast

/-! ## Reading back -/

theorem pieces_urlencode (pairs : List (List Char × List Char)) :
    pieces (urlencode pairs) = pairs.map fun pair ↦ quotePlus pair.1 ++ '=' :: quotePlus pair.2 := by
  have hpieces : ∀ piece ∈ pairs.map (fun pair ↦ quotePlus pair.1 ++ '=' :: quotePlus pair.2),
      '&' ∉ piece ∧ decide (piece ≠ []) = true := by
    intro piece hpiece
    obtain ⟨pair, -, rfl⟩ := List.mem_map.mp hpiece
    have hname := notMem_quotePlus (by decide : isQuoted '&' = false) pair.1
    have hvalue := notMem_quotePlus (by decide : isQuoted '&' = false) pair.2
    simp [hname, hvalue]
  cases pairs with
  | nil => rfl
  | cons pair pairs =>
    rw [pieces, urlencode, List.splitOn_intercalate '&' (fun piece hpiece ↦ (hpieces piece hpiece).1) (by simp),
      List.filter_eq_self.mpr fun piece hpiece ↦ (hpieces piece hpiece).2]

/-- `parse_qsl` reads back what `urlencode` wrote, as far as the quoting can be undone. -/
theorem parseQsl_urlencode {β : Type*} (unquote : List Char → β) (pairs : List (List Char × List Char)) :
    parseQsl unquote (urlencode pairs) true =
      pairs.map fun pair ↦ (unquote (quote pair.1), unquote (quote pair.2)) := by
  rw [parseQsl_true, pieces_urlencode, List.map_map]
  apply List.map_congr_left
  intro pair _
  have hname : '=' ∉ quotePlus pair.1 := notMem_quotePlus (by decide) pair.1
  have hcut : cutAt '=' (quotePlus pair.1 ++ '=' :: quotePlus pair.2) = (quotePlus pair.1, quotePlus pair.2) :=
    cutAt_append_cons hname
  rw [Function.comp_apply, readPiece, hcut, map_plusToSpace_quotePlus, map_plusToSpace_quotePlus]

theorem urlencode_eq_nil_iff {pairs : List (List Char × List Char)} : urlencode pairs = [] ↔ pairs = [] := by
  constructor
  · intro h
    have hpieces := pieces_urlencode pairs
    rw [h, show pieces [] = [] from rfl] at hpieces
    exact List.map_eq_nil_iff.mp hpieces.symm
  · rintro rfl
    rfl

/-! ## Unquoting -/

def hexValue (c : Char) : ℕ :=
  if c.isDigit then c.toNat - '0'.toNat else c.toUpper.toNat - 'A'.toNat + 10

def isHexDigit (c : Char) : Bool := c.isDigit || 'A' ≤ c.toUpper && c.toUpper ≤ 'F'

/-- `unquote_to_bytes` -/
def unquoteBytes : List Char → List UInt8
  | '%' :: high :: low :: rest =>
      if isHexDigit high && isHexDigit low then UInt8.ofNat (16 * hexValue high + hexValue low) :: unquoteBytes rest
      else String.utf8EncodeChar '%' ++ unquoteBytes (high :: low :: rest)
  | c :: rest => String.utf8EncodeChar c ++ unquoteBytes rest
  | [] => []

/-- `unquote`, where what is quoted is UTF-8; nothing stands for what is not. -/
def unquote (chars : List Char) : List Char := ((unquoteBytes chars).toByteArray.utf8Decode?.map Array.toList).getD []

theorem unquoteBytes_percentByte (byte : UInt8) (rest : List Char) :
    unquoteBytes (percentByte byte ++ rest) = byte :: unquoteBytes rest := by
  have hbyte : byte.toNat < 256 := byte.toNat_lt
  have hhex : ∀ n < 16, isHexDigit (hexDigit n) = true ∧ hexValue (hexDigit n) = n := by decide
  obtain ⟨hhigh, hhighValue⟩ := hhex (byte.toNat / 16) (by omega)
  obtain ⟨hlow, hlowValue⟩ := hhex (byte.toNat % 16) (by omega)
  have hvalue : UInt8.ofNat (16 * (byte.toNat / 16) + byte.toNat % 16) = byte := by
    rw [Nat.div_add_mod, UInt8.ofNat_toNat]
  unfold percentByte
  simp only [List.cons_append, List.nil_append, unquoteBytes, hhigh, hlow, hhighValue, hlowValue, hvalue,
    Bool.and_self, if_true]

theorem unquoteBytes_flatMap_percentByte (bytes : List UInt8) (rest : List Char) :
    unquoteBytes (bytes.flatMap percentByte ++ rest) = bytes ++ unquoteBytes rest := by
  induction bytes with
  | nil => rfl
  | cons byte bytes ih =>
    rw [List.flatMap_cons, List.append_assoc, unquoteBytes_percentByte, ih, List.cons_append]

/-- Quoting is undone, byte by byte. -/
theorem unquoteBytes_quote (chars : List Char) : unquoteBytes (quote chars) = chars.flatMap String.utf8EncodeChar := by
  induction chars with
  | nil => rfl
  | cons c chars ih =>
    unfold quote at ih ⊢
    rw [List.flatMap_cons, List.flatMap_cons, ← ih]
    unfold quoteChar
    split
    · rename_i hkept
      have hpercent : c ≠ '%' := by
        rintro rfl
        exact absurd hkept (by decide)
      rw [List.singleton_append, unquoteBytes]
      intro high low rest hc
      exact absurd hc hpercent
    · exact unquoteBytes_flatMap_percentByte _ _

theorem unquote_quote (chars : List Char) : unquote (quote chars) = chars := by
  have hencoded : (chars.flatMap String.utf8EncodeChar).toByteArray = chars.utf8Encode := rfl
  rw [unquote, unquoteBytes_quote, hencoded, List.utf8Decode?_utf8Encode]
  rfl

end TenderPhase1.Urllib
