import Mathlib.Data.List.Forall2
import TenderPhase1.Foundation.IsoTexts
import TenderPhase1.Foundation.PyText

/-!
# Texts in a format of `strptime`

A format is a list of directives. Each becomes a group of the pattern that `datetime.strptime`
matches at the beginning of the text, where the first alternative that lets the rest match is taken;
the whole text has to be matched in the end.
-/

namespace TenderPhase1.StrptimeTexts

open PyText Calendar IsoTexts

/-! ## Decimal digits -/

/-- The zeros of the scripts: the ten digits of a script stand in order (Unicode 15.0, category Nd). -/
def decimalZeros : List ℕ :=
  [0x30, 0x660, 0x6F0, 0x7C0, 0x966, 0x9E6, 0xA66, 0xAE6, 0xB66, 0xBE6, 0xC66, 0xCE6, 0xD66, 0xDE6, 0xE50, 0xED0,
    0xF20, 0x1040, 0x1090, 0x17E0, 0x1810, 0x1946, 0x19D0, 0x1A80, 0x1A90, 0x1B50, 0x1BB0, 0x1C40, 0x1C50, 0xA620,
    0xA8D0, 0xA900, 0xA9D0, 0xA9F0, 0xAA50, 0xABF0, 0xFF10, 0x104A0, 0x10D30, 0x11066, 0x110F0, 0x11136, 0x111D0,
    0x112F0, 0x11450, 0x114D0, 0x11650, 0x116C0, 0x11730, 0x118E0, 0x11950, 0x11C50, 0x11D50, 0x11DA0, 0x11F50,
    0x16A60, 0x16AC0, 0x16B50, 0x1D7CE, 0x1D7D8, 0x1D7E2, 0x1D7EC, 0x1D7F6, 0x1E140, 0x1E2F0, 0x1E4F0, 0x1E950,
    0x1FBF0]

/-- `unicodedata.decimal(c)` -/
def decimal (c : Char) : Option ℕ :=
  (decimalZeros.find? fun first ↦ first ≤ c.toNat ∧ c.toNat < first + 10).map fun first ↦ c.toNat - first

/-- A match of `\d` -/
def isDecimal (c : Char) : Bool := (decimal c).isSome

/-- `int(text)` of a text of decimal digits and white space -/
def intOf (chars : List Char) : ℕ := (chars.filterMap decimal).foldl (fun n digit ↦ 10 * n + digit) 0

/-! ## Directives -/

inductive Directive where
  | year | month | day | hour | minute | second | space
  | literal (c : Char)
  deriving DecidableEq, Repr

def directives : List Char → List Directive
  | [] => []
  | '%' :: 'Y' :: rest => .year :: directives rest
  | '%' :: 'm' :: rest => .month :: directives rest
  | '%' :: 'd' :: rest => .day :: directives rest
  | '%' :: 'H' :: rest => .hour :: directives rest
  | '%' :: 'M' :: rest => .minute :: directives rest
  | '%' :: 'S' :: rest => .second :: directives rest
  | ' ' :: rest => .space :: directives rest
  | c :: rest => .literal c :: directives rest

def between (low high : Char) (c : Char) : Bool := low ≤ c ∧ c ≤ high

/-- The alternatives of the pattern of a directive, each as the classes of its characters. White space
matches as much as there is. -/
def alternatives : Directive → List (List (Char → Bool))
  | .year => [[isDecimal, isDecimal, isDecimal, isDecimal]]
  | .month => [[between '1' '1', between '0' '2'], [between '0' '0', between '1' '9'], [between '1' '9']]
  | .day =>
    [[between '3' '3', between '0' '1'], [between '1' '2', isDecimal], [between '0' '0', between '1' '9'],
      [between '1' '9'], [between ' ' ' ', between '1' '9']]
  | .hour => [[between '2' '2', between '0' '3'], [between '0' '1', isDecimal], [isDecimal]]
  | .minute => [[between '0' '5', isDecimal], [isDecimal]]
  | .second => [[between '6' '6', between '0' '1'], [between '0' '5', isDecimal], [isDecimal]]
  | .space => []
  | .literal c => [[(· = c)]]

/-- The characters that the classes match, and the rest. -/
def matchClasses (classes : List (Char → Bool)) (chars : List Char) : Option (List Char × List Char) :=
  let first := chars.take classes.length
  if first.length = classes.length ∧ (classes.zip first).all fun pair ↦ pair.1 pair.2 then
    some (first, chars.drop classes.length)
  else none

/-- The ways in which the directive matches, the preferred one first. -/
def matchDirective (directive : Directive) (chars : List Char) : List (List Char × List Char) :=
  match directive with
  | .space => ((chars.takeWhile isSpace).inits.tail.map fun first ↦ (first, chars.drop first.length)).reverse
  | other => (alternatives other).filterMap (matchClasses · chars)

/-- The ways in which the directives match: the text of each, and the rest. -/
def matchDirectives : List Directive → List Char → List (List (Directive × List Char) × List Char)
  | [], chars => [([], chars)]
  | directive :: rest, chars =>
    (matchDirective directive chars).flatMap fun (text, after) ↦
      (matchDirectives rest after).map fun (groups, left) ↦ ((directive, text) :: groups, left)

/-- The number a directive has matched, or the default of `strptime`. -/
def valueOf (groups : List (Directive × List Char)) (directive : Directive) (default : ℕ) : ℕ :=
  ((groups.lookup directive).map intOf).getD default

/-- The datetime that the groups stand for, nothing where the constructor raises `ValueError` -/
def momentOf (groups : List (Directive × List Char)) : Option Moment :=
  let clock : Clock := ⟨valueOf groups .hour 0, valueOf groups .minute 0, valueOf groups .second 0, 0⟩
  (calendarDate (valueOf groups .year 1900) (valueOf groups .month 1) (valueOf groups .day 1)).bind fun date ↦
    clock.timeOfDay.map fun timeOfDay ↦ ⟨date, timeOfDay, none⟩

/-- `datetime.strptime(text, format)`, nothing where it raises `ValueError` -/
def strptime (chars format : List Char) : Option Moment :=
  match (matchDirectives (directives format) chars).head? with
  | none => none
  | some (groups, left) => if left = [] then momentOf groups else none

example : (strptime "2026年3月5日 9点07分".toList "%Y年%m月%d日 %H点%M分".toList).map (·.date.isoformat) = some "2026-03-05" := by
  decide

/-! ## Decimal digits and other characters -/

theorem decimal_eq_some {c : Char} {n : ℕ} (h : decimal c = some n) :
    ∃ first ∈ decimalZeros, first ≤ c.toNat ∧ c.toNat < first + 10 := by
  obtain ⟨first, hfirst, -⟩ := Option.map_eq_some_iff.mp h
  have hrange := List.find?_some hfirst
  exact ⟨first, List.mem_of_find?_eq_some hfirst, of_decide_eq_true hrange⟩

/-- Between two scripts there are no digits. -/
theorem isDecimal_gap (low high : ℕ) (hgap : ∀ first ∈ decimalZeros, first + 10 ≤ low ∨ high ≤ first) {c : Char}
    (h : isDecimal c) : c.toNat < low ∨ high ≤ c.toNat := by
  obtain ⟨n, hn⟩ := Option.isSome_iff_exists.mp h
  obtain ⟨first, hmem, hle, hlt⟩ := decimal_eq_some hn
  rcases hgap first hmem with hbefore | hafter
  · exact Or.inl (by omega)
  · exact Or.inr (by omega)

theorem decimal_of_isDigit {c : Char} (h : c.isDigit) : decimal c = some (c.toNat - '0'.toNat) := by
  obtain ⟨hlow, hhigh⟩ := Char.isDigit_iff_toNat.mp h
  have hzero : '0'.toNat = 0x30 := rfl
  have hnine : '9'.toNat = 0x39 := rfl
  unfold decimal decimalZeros
  rw [List.find?_cons_of_pos (by simp only [decide_eq_true_eq]; omega)]
  rfl

theorem isDecimal_of_isDigit {c : Char} (h : c.isDigit) : isDecimal c := by
  unfold isDecimal
  rw [decimal_of_isDigit h]
  rfl

theorem isDecimal_eq_false_of_isSpace {c : Char} (h : isSpace c) : isDecimal c = false := by
  by_contra hdecimal
  have hdecimal : isDecimal c := Bool.of_not_eq_false hdecimal
  have hfirst := isDecimal_gap 0 0x30 (by decide) hdecimal
  have hascii := isDecimal_gap 0x3A 0x660 (by decide) hdecimal
  have hogham := isDecimal_gap 0x109A 0x17E0 (by decide) hdecimal
  have hgeneral := isDecimal_gap 0x1C5A 0xA620 (by decide) hdecimal
  unfold isSpace at h
  simp only [Bool.or_eq_true, Bool.and_eq_true, decide_eq_true_eq] at h
  omega

/-! ## What the directives match -/

/-- A text that a directive matches. -/
def Matches (directive : Directive) (text : List Char) : Prop :=
  if directive = .space then text ≠ [] ∧ ∀ c ∈ text, isSpace c
  else ∃ classes ∈ alternatives directive, List.Forall₂ (fun ofClass c ↦ ofClass c = true) classes text

theorem matchClasses_eq_some {classes : List (Char → Bool)} {chars text rest : List Char}
    (h : matchClasses classes chars = some (text, rest)) :
    chars = text ++ rest ∧ List.Forall₂ (fun ofClass c ↦ ofClass c = true) classes text := by
  unfold matchClasses at h
  extract_lets first at h
  split at h
  · rename_i hmatch
    obtain ⟨rfl, rfl⟩ := Prod.mk.inj (Option.some.inj h)
    refine ⟨(List.take_append_drop classes.length chars).symm, ?_⟩
    refine List.forall₂_iff_zip.mpr ⟨hmatch.1.symm, fun hmem ↦ ?_⟩
    exact List.all_eq_true.mp hmatch.2 _ hmem
  · cases h

/-- A directive takes a beginning of the text that matches it. -/
theorem mem_matchDirective {directive : Directive} {chars text rest : List Char}
    (h : (text, rest) ∈ matchDirective directive chars) : chars = text ++ rest ∧ Matches directive text := by
  unfold Matches
  by_cases hspace : directive = .space
  · subst hspace
    unfold matchDirective at h
    rw [List.mem_reverse] at h
    obtain ⟨first, hfirst, heq⟩ := List.mem_map.mp h
    obtain ⟨rfl, rfl⟩ := Prod.mk.inj heq
    have hinits : first ∈ (chars.takeWhile isSpace).inits := List.mem_of_mem_tail hfirst
    have hinit : first <+: chars.takeWhile isSpace := List.mem_inits _ _ |>.mp hinits
    have hne : first ≠ [] := by
      rintro rfl
      cases hrun : chars.takeWhile isSpace with
      | nil =>
        rw [hrun] at hfirst
        exact absurd hfirst (by simp)
      | cons c run =>
        rw [hrun] at hfirst
        simp at hfirst
    have hchars : first <+: chars := hinit.trans (List.takeWhile_prefix _)
    refine ⟨?_, ?_⟩
    · obtain ⟨after, rfl⟩ := hchars
      rw [List.drop_left]
    · rw [if_pos rfl]
      exact ⟨hne, fun c hc ↦ List.mem_takeWhile_imp (hinit.subset hc)⟩
  · rw [if_neg hspace]
    have hmem : (text, rest) ∈ (alternatives directive).filterMap (matchClasses · chars) := by
      cases directive <;> first | exact absurd rfl hspace | exact h
    obtain ⟨classes, hclasses, hmatch⟩ := List.mem_filterMap.mp hmem
    obtain ⟨hchars, hall⟩ := matchClasses_eq_some hmatch
    exact ⟨hchars, classes, hclasses, hall⟩

/-- The texts of the groups make up what has been matched. -/
theorem mem_matchDirectives {list : List Directive} {chars left : List Char} {groups : List (Directive × List Char)}
    (h : (groups, left) ∈ matchDirectives list chars) :
    groups.map Prod.fst = list ∧ chars = (groups.map Prod.snd).flatten ++ left ∧
      ∀ group ∈ groups, Matches group.1 group.2 := by
  induction list generalizing chars groups with
  | nil =>
    obtain ⟨rfl, rfl⟩ := Prod.mk.inj (List.mem_singleton.mp h)
    exact ⟨rfl, rfl, fun _ hmem ↦ absurd hmem List.not_mem_nil⟩
  | cons directive rest ih =>
    obtain ⟨⟨text, after⟩, hfirst, hrest⟩ := List.mem_flatMap.mp h
    obtain ⟨⟨later, left'⟩, hlater, heq⟩ := List.mem_map.mp hrest
    obtain ⟨rfl, rfl⟩ := Prod.mk.inj heq
    obtain ⟨rfl, hmatches⟩ := mem_matchDirective hfirst
    obtain ⟨hdirectives, rfl, hall⟩ := ih hlater
    refine ⟨by rw [List.map_cons, hdirectives], by simp, ?_⟩
    intro group hgroup
    rcases List.mem_cons.mp hgroup with rfl | htail
    · exact hmatches
    · exact hall group htail

theorem strptime_eq_some {chars format : List Char} {moment : Moment} (h : strptime chars format = some moment) :
    ∃ groups : List (Directive × List Char), groups.map Prod.fst = directives format ∧
      chars = (groups.map Prod.snd).flatten ∧ (∀ group ∈ groups, Matches group.1 group.2) ∧
      momentOf groups = some moment := by
  unfold strptime at h
  split at h
  · cases h
  · rename_i groups left hhead
    split at h
    · rename_i hleft
      obtain ⟨hdirectives, hchars, hall⟩ := mem_matchDirectives (List.mem_of_mem_head? hhead)
      rw [hleft, List.append_nil] at hchars
      exact ⟨groups, hdirectives, hchars, hall, h⟩
    · cases h

end TenderPhase1.StrptimeTexts
