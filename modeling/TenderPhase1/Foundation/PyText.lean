import Mathlib.Data.List.Basic
import Mathlib.Data.List.Infix
import Mathlib.Data.List.TakeWhile
import Mathlib.Tactic.Common

/-!
# Python text primitives

The string operations the services share: stripping of the Unicode white space
that `str.strip` removes, `_as_str`, and prefix and substring tests. Texts are
Lean strings; the operations work on their code points.
-/

namespace TenderPhase1.PyText

/-- The code points for which `str.isspace` holds. -/
def isSpace (c : Char) : Bool :=
  let n := c.toNat
  (0x09 ≤ n && n ≤ 0x0D) || (0x1C ≤ n && n ≤ 0x20) || n = 0x85 || n = 0xA0 || n = 0x1680 ||
    (0x2000 ≤ n && n ≤ 0x200A) || n = 0x2028 || n = 0x2029 || n = 0x202F || n = 0x205F || n = 0x3000

def stripChars (chars : List Char) : List Char :=
  ((chars.dropWhile isSpace).reverse.dropWhile isSpace).reverse

def strip (text : String) : String := String.ofList (stripChars text.toList)

/-- `_as_str`: the stripped text, or nothing when no text is left. -/
def asStr (value : Option String) : Option String :=
  value.bind fun text ↦ if strip text = "" then none else some (strip text)

/-- `str.lower`, exact for comparisons with words of ASCII letters that contain no k. -/
def lower (text : String) : String := String.ofList (text.toList.map Char.toLower)

/-- `str.startswith` -/
def startsWith (text pre : String) : Bool := pre.toList.isPrefixOf text.toList

def contains (text sub : String) : Bool := text.toList.tails.any (sub.toList.isPrefixOf ·)

/-- What is said of all members of a list is decided by going through the list, also where the
type of the members is finite. -/
instance (priority := 1100) decidableAllMem {α : Type} (p : α → Prop) [DecidablePred p] (l : List α) :
    Decidable (∀ a ∈ l, p a) :=
  List.decidableBAll p l

instance (priority := 1100) decidableAllMemOption {α : Type} (p : α → Prop) [DecidablePred p] (o : Option α) :
    Decidable (∀ a ∈ o, p a) :=
  Option.decidableForallMem o

@[simp]
theorem asStr_none : asStr none = none := rfl

theorem asStr_some (text : String) :
    asStr (some text) = if strip text = "" then none else some (strip text) := rfl

/-- A text that stripping keeps, given by its characters. -/
theorem asStr_ofList {chars : List Char} (hstrip : stripChars chars = chars) (hne : chars ≠ []) :
    asStr (some (String.ofList chars)) = some (String.ofList chars) := by
  have hkept : strip (String.ofList chars) = String.ofList chars := by
    rw [strip, String.toList_ofList, hstrip]
  have htext : String.ofList chars ≠ "" := by
    simpa using hne
  rw [asStr_some, hkept, if_neg htext]

theorem startsWith_append (pre rest : String) : startsWith (pre ++ rest) pre = true := by
  simp [startsWith, String.toList_append]

@[simp]
theorem startsWith_self (text : String) : startsWith text text = true := by
  simp [startsWith]

/-- Two prefixes of one text begin with the same character. -/
theorem head?_eq_of_startsWith {text pre other : String} (hpre : startsWith text pre)
    (hother : startsWith text other) (hne : pre ≠ "") (hne' : other ≠ "") :
    pre.toList.head? = other.toList.head? := by
  have hhead : ∀ part : String, startsWith text part → part ≠ "" → part.toList.head? = text.toList.head? := by
    intro part hpart hpartNe
    obtain ⟨rest, hrest⟩ := List.isPrefixOf_iff_prefix.mp hpart
    rw [← hrest]
    cases hchars : part.toList with
    | nil => exact absurd (String.toList_eq_nil_iff.mp hchars) hpartNe
    | cons c chars => rfl
  exact (hhead pre hpre hne).trans (hhead other hother hne').symm

/-- Stripping keeps a prefix without white space. -/
theorem startsWith_strip_append {pre : String} (hspace : ∀ c ∈ pre.toList, isSpace c = false) (rest : String) :
    startsWith (strip (pre ++ rest)) pre = true := by
  have hkept : ∀ chars : List Char, (∀ c ∈ chars, isSpace c = false) → ∀ tail,
      (chars ++ tail).dropWhile isSpace = if chars = [] then tail.dropWhile isSpace else chars ++ tail := by
    intro chars hchars tail
    cases chars with
    | nil => rfl
    | cons c chars => simp [hchars c List.mem_cons_self]
  rw [startsWith, List.isPrefixOf_iff_prefix, strip, stripChars, String.toList_append, hkept _ hspace]
  split
  · rename_i hempty
    rw [hempty]
    exact List.nil_prefix
  · rename_i hne
    have hreverse : ∀ c ∈ pre.toList.reverse, isSpace c = false := fun c hc ↦ hspace c (List.mem_reverse.mp hc)
    have hreverseNe : pre.toList.reverse ≠ [] := fun h ↦ hne (List.reverse_eq_nil_iff.mp h)
    rw [String.toList_ofList, List.reverse_append, List.dropWhile_append]
    split
    · have hall := hkept _ hreverse []
      rw [if_neg hreverseNe, List.append_nil] at hall
      rw [hall, List.reverse_reverse]
    · rw [List.reverse_append, List.reverse_reverse]
      exact List.prefix_append _ _

private theorem dropWhile_idem (p : Char → Bool) (chars : List Char) :
    (chars.dropWhile p).dropWhile p = chars.dropWhile p := by
  induction chars with
  | nil => rfl
  | cons c chars ih =>
    by_cases h : p c
    · simp [h, ih]
    · simp [h]

/-- Dropping trailing characters does not expose a leading one that `p` drops. -/
private theorem dropWhile_rdropWhile (p : Char → Bool) (chars : List Char)
    (h : chars.dropWhile p = chars) :
    (chars.reverse.dropWhile p).reverse.dropWhile p = (chars.reverse.dropWhile p).reverse := by
  cases chars with
  | nil => rfl
  | cons c rest =>
    have hc : p c = false := by
      by_contra hc
      simp only [Bool.not_eq_false] at hc
      have hlen := congrArg List.length h
      simp only [List.dropWhile_cons, hc, if_true, List.length_cons] at hlen
      have := (List.dropWhile_suffix p : rest.dropWhile p <:+ rest).length_le
      omega
    have hprefix : ∃ tail, ((c :: rest).reverse.dropWhile p).reverse = c :: tail := by
      rw [List.reverse_cons, List.dropWhile_append]
      split
      · exact ⟨[], by simp [hc]⟩
      · exact ⟨(rest.reverse.dropWhile p).reverse, by simp⟩
    obtain ⟨tail, htail⟩ := hprefix
    rw [htail]
    simp [hc]

theorem stripChars_idem (chars : List Char) : stripChars (stripChars chars) = stripChars chars := by
  have h := dropWhile_rdropWhile isSpace (chars.dropWhile isSpace) (dropWhile_idem isSpace chars)
  unfold stripChars
  rw [h, List.reverse_reverse, dropWhile_idem]

/-- Stripping keeps a text without white space. -/
theorem stripChars_of_forall {chars : List Char} (h : ∀ c ∈ chars, isSpace c = false) : stripChars chars = chars := by
  have hdrop (chars : List Char) (h : ∀ c ∈ chars, isSpace c = false) : chars.dropWhile isSpace = chars := by
    cases chars with
    | nil => rfl
    | cons c rest => simp [h c List.mem_cons_self]
  unfold stripChars
  rw [hdrop chars h, hdrop chars.reverse fun c hc ↦ h c (List.mem_reverse.mp hc), List.reverse_reverse]

@[simp]
theorem strip_strip (text : String) : strip (strip text) = strip text := by
  simp [strip, stripChars_idem]

/-- A text with a character other than white space is not stripped to nothing. -/
theorem isSome_asStr_of_mem {text : String} {c : Char} (hmem : c ∈ text.toList) (hspace : isSpace c = false) :
    (asStr (some text)).isSome := by
  have hleft : c ∈ text.toList.dropWhile isSpace := by
    have happend := List.takeWhile_append_dropWhile (p := isSpace) (l := text.toList)
    rw [← happend] at hmem
    rcases List.mem_append.mp hmem with hdropped | hkept
    · rw [List.mem_takeWhile_imp hdropped] at hspace
      cases hspace
    · exact hkept
  have hne : strip text ≠ "" := by
    intro hempty
    have hchars : stripChars text.toList = [] := by
      have hlist := congrArg String.toList hempty
      rwa [strip, String.toList_ofList] at hlist
    have hall := List.dropWhile_eq_nil_iff.mp (List.reverse_eq_nil_iff.mp hchars)
    rw [hall c (List.mem_reverse.mpr hleft)] at hspace
    cases hspace
  rw [asStr_some, if_neg hne]
  rfl

/-- A text that `_as_str` returned is returned unchanged the next time. -/
theorem asStr_of_asStr {value : Option String} {text : String} (h : asStr value = some text) :
    asStr (some text) = some text := by
  cases value with
  | none => cases h
  | some source =>
    rw [asStr_some] at h
    split at h
    · cases h
    · rename_i hne
      obtain rfl := Option.some.inj h
      rw [asStr_some, strip_strip, if_neg hne]

end TenderPhase1.PyText
