import TenderPhase1.Crawler.Values
import TenderPhase1.Foundation.PyNumber

/-!
# The target of a pagination link

The links to the pages of a list call `pagination(...)` with a number or a sum. The
parser has a short way for digits, in which zero and the digits of other scripts get
through, and a loop for sums. It follows the grammar of sums of ASCII numbers exactly
where the short way meets ASCII digits of a positive number, and no number is too long
for `int`.
-/

namespace TenderPhase1.Spiders

open PyText StrptimeTexts Crawler

/-! ## The parser -/

/-- The characters with the numeric type `Digit` that are no decimal digits (Unicode 15.0) -/
def otherDigits : List (ℕ × ℕ) :=
  [(0xB2, 0xB3), (0xB9, 0xB9), (0x1369, 0x1371), (0x19DA, 0x19DA), (0x2070, 0x2070), (0x2074, 0x2079),
    (0x2080, 0x2089), (0x2460, 0x2468), (0x2474, 0x247C), (0x2488, 0x2490), (0x24EA, 0x24EA), (0x24F5, 0x24FD),
    (0x24FF, 0x24FF), (0x2776, 0x277E), (0x2780, 0x2788), (0x278A, 0x2792), (0x10A40, 0x10A43), (0x10E60, 0x10E68),
    (0x11052, 0x1105A), (0x1F100, 0x1F10A)]

/-- `c.isdigit()` -/
def isDigitLike (c : Char) : Bool :=
  isDecimal c || otherDigits.any fun (first, last) ↦ first ≤ c.toNat && c.toNat ≤ last

/-- A literal of a pattern with `re.IGNORECASE`; the letter i has two more forms. -/
def matchesLiteral (literal c : Char) : Bool :=
  c.toLower = literal || literal = 'i' && (c.toNat = 0x130 || c.toNat = 0x131)

/-- What `pagination\(([^)]+)\)` has as its group where it matches at the beginning -/
def matchPagination (chars : List Char) : Option (List Char) :=
  let literals := "pagination(".toList
  let head := chars.take literals.length
  let rest := chars.drop literals.length
  let group := rest.takeWhile (· ≠ ')')
  if head.length = literals.length ∧ (literals.zip head).all (fun (literal, c) ↦ matchesLiteral literal c) ∧
      group ≠ [] ∧ group.length < rest.length then some group
  else none

/-- `re.search` of that pattern -/
def searchPagination (raw : String) : Option (List Char) := raw.toList.tails.findSome? matchPagination

/-- `re.sub(r"\s+", "", text)` -/
def withoutSpaces (chars : List Char) : List Char := chars.filter fun c ↦ !isSpace c

def isSign (c : Char) : Bool := c = '+' || c = '-'

section Parser

-- `int(text)`, nothing where it raises `ValueError`
variable (int : String → Option ℤ)

def intOrRaise (text : String) : Except PyError ℤ :=
  match int text with
  | some n => .ok n
  | none => .error .valueError

/-- `int` of a text of characters -/
def intOfChars (chars : List Char) : Except PyError ℤ := intOrRaise int (String.ofList chars)

/-- The loop over the characters, with its three variables, and what follows it -/
def evaluate (total : ℤ) (current : List Char) (sign : ℤ) : List Char → Except PyError (Option ℤ)
  | [] =>
    if current = [] then .ok none
    else do
      let operand ← intOfChars int current
      let total := total + sign * operand
      return if 0 < total then some total else none
  | ch :: rest =>
    if isSign ch then
      if current = [] then .ok none
      else do
        let operand ← intOfChars int current
        evaluate (total + sign * operand) [] (if ch = '+' then 1 else -1) rest
    else evaluate total (current ++ [ch]) sign rest

def parsePaginationTarget (raw : String) : Except PyError (Option ℤ) :=
  if raw = "" then .ok none
  else
    match searchPagination raw with
    | none => .ok none
    | some group =>
      let expr := withoutSpaces group
      if expr = [] then .ok none
      else if expr.all isDigitLike then some <$> intOfChars int expr
      else if !expr.all fun c ↦ c.isDigit || isSign c then .ok none
      else evaluate int 0 [] 1 expr

end Parser

/-! ## Sums of numbers -/

/-- `[0-9]+` -/
structure Operand where
  digits : List Char
  ne_nil : digits ≠ []
  isDigit : ∀ c ∈ digits, c.isDigit

def Operand.value (operand : Operand) : ℤ := Nat.ofDigitChars 10 operand.digits 0

/-- `[+-]` -/
inductive Sign where
  | plus
  | minus
  deriving DecidableEq, Repr

namespace Sign

def char : Sign → Char
  | plus => '+'
  | minus => '-'

def factor : Sign → ℤ
  | plus => 1
  | minus => -1

theorem exists_char_eq {c : Char} (h : isSign c) : ∃ sign : Sign, sign.char = c := by
  simp only [isSign, Bool.or_eq_true, decide_eq_true_eq] at h
  rcases h with rfl | rfl
  · exact ⟨plus, rfl⟩
  · exact ⟨minus, rfl⟩

theorem isSign_char (sign : Sign) : isSign sign.char := by cases sign <;> rfl

theorem factor_eq (sign : Sign) : (if sign.char = '+' then 1 else -1) = sign.factor := by cases sign <;> rfl

end Sign

/-- `[0-9]+([+-][0-9]+)*` -/
structure Expression where
  first : Operand
  rest : List (Sign × Operand)

namespace Expression

def text (e : Expression) : List Char :=
  e.first.digits ++ e.rest.flatMap fun (sign, operand) ↦ sign.char :: operand.digits

/-- The value from left to right, after a total and a sign -/
def valueFrom (total sign : ℤ) (e : Expression) : ℤ :=
  e.rest.foldl (fun total (sign, operand) ↦ total + sign.factor * operand.value) (total + sign * e.first.value)

def value (e : Expression) : ℤ :=
  e.rest.foldl (fun total (sign, operand) ↦ total + sign.factor * operand.value) e.first.value

theorem valueFrom_zero_one (e : Expression) : e.valueFrom 0 1 = e.value := by
  unfold valueFrom value
  rw [Int.one_mul, Int.zero_add]

/-- An operand and a sign before an expression -/
def chain (first : Operand) (sign : Sign) (e : Expression) : Expression := ⟨first, (sign, e.first) :: e.rest⟩

theorem text_chain (first : Operand) (sign : Sign) (e : Expression) :
    (chain first sign e).text = first.digits ++ sign.char :: e.text := by
  simp [chain, text]

theorem valueFrom_chain (first : Operand) (op : Sign) (e : Expression) (total sign : ℤ) :
    (chain first op e).valueFrom total sign = e.valueFrom (total + sign * first.value) op.factor := rfl

end Expression

/-- The operands before the first empty one are short enough for `int`. -/
def OperandsFit (chars : List Char) : Prop :=
  ∀ operand ∈ (chars.splitOnP isSign).takeWhile (· ≠ []), operand.length ≤ maxStrDigits

section Loop

variable {current rest : List Char} {total sign : ℤ}

theorem isSign_eq_false {c : Char} (h : c.isDigit) : isSign c = false := by
  rw [← Bool.not_eq_true]
  intro hsign
  obtain ⟨sign, rfl⟩ := Sign.exists_char_eq hsign
  cases sign <;> cases h

theorem intOfChars_digits (hne : current ≠ []) (h : ∀ c ∈ current, c.isDigit) :
    intOfChars readInt current =
      if current.length ≤ maxStrDigits then .ok (Nat.ofDigitChars 10 current 0 : ℤ) else .error .valueError := by
  unfold intOfChars intOrRaise
  rw [readInt_digits hne h]
  by_cases hlength : current.length ≤ maxStrDigits
  · rw [if_neg (by omega), if_pos hlength]
  · rw [if_pos (by omega), if_neg hlength]

theorem operandsFit_digits (hne : current ≠ []) (h : ∀ c ∈ current, c.isDigit) :
    OperandsFit current ↔ current.length ≤ maxStrDigits := by
  unfold OperandsFit
  rw [List.splitOnP_eq_singleton fun c hc ↦ isSign_eq_false (h c hc)]
  simp [hne]

theorem operandsFit_append_cons {c : Char} (hne : current ≠ []) (h : ∀ c ∈ current, c.isDigit) (hc : isSign c) :
    OperandsFit (current ++ c :: rest) ↔ current.length ≤ maxStrDigits ∧ OperandsFit rest := by
  unfold OperandsFit
  rw [List.splitOnP_append_cons_of_forall_mem (fun c hc ↦ isSign_eq_false (h c hc)) c hc]
  simp [hne]

/-- The digits before the first sign of an expression are its first operand. -/
theorem Expression.eq_chain {e : Expression} {c : Char} (h : ∀ c ∈ current, c.isDigit) (hc : isSign c)
    (htext : e.text = current ++ c :: rest) :
    ∃ (first : Operand) (op : Sign) (tail : Expression),
      e = chain first op tail ∧ first.digits = current ∧ op.char = c ∧ tail.text = rest := by
  obtain ⟨first, terms⟩ := e
  have hsplit (e : Expression) : e.text.splitOnP isSign = e.first.digits :: e.rest.map fun term ↦ term.2.digits := by
    obtain ⟨first, terms⟩ := e
    induction terms generalizing first with
    | nil =>
      unfold text
      rw [List.flatMap_nil, List.append_nil, List.splitOnP_eq_singleton fun c hc ↦ isSign_eq_false (first.isDigit c hc)]
      rfl
    | cons term terms ih =>
      obtain ⟨op, operand⟩ := term
      have htail := ih operand
      change (chain first op ⟨operand, terms⟩).text.splitOnP isSign = _
      rw [text_chain, List.splitOnP_append_cons_of_forall_mem (fun c hc ↦ isSign_eq_false (first.isDigit c hc)) _
        op.isSign_char, htail]
      rfl
  have hfirst : first.digits = current := by
    have hpieces := hsplit ⟨first, terms⟩
    rw [htext, List.splitOnP_append_cons_of_forall_mem (fun c hc ↦ isSign_eq_false (h c hc)) c hc] at hpieces
    exact (List.cons.inj hpieces).1.symm
  cases terms with
  | nil =>
    exfalso
    unfold text at htext
    rw [List.flatMap_nil, List.append_nil] at htext
    have hmem : c ∈ first.digits := by
      rw [htext]
      exact List.mem_append_right _ List.mem_cons_self
    rw [isSign_eq_false (first.isDigit c hmem)] at hc
    cases hc
  | cons term terms =>
    obtain ⟨op, operand⟩ := term
    have hchain := text_chain first op ⟨operand, terms⟩
    refine ⟨first, op, ⟨operand, terms⟩, rfl, hfirst, ?_⟩
    rw [hfirst] at hchain
    obtain ⟨hop, htail⟩ := List.cons.inj (List.append_cancel_left (hchain.symm.trans htext))
    exact ⟨hop, htail⟩

/-- An expression does not begin with a sign, and it is not empty. -/
theorem Expression.text_ne {e : Expression} : e.text ≠ [] ∧ ∀ c rest, isSign c → e.text ≠ c :: rest := by
  obtain ⟨⟨digits, hne, hdigit⟩, terms⟩ := e
  cases digits with
  | nil => exact absurd rfl hne
  | cons c digits =>
    refine ⟨List.cons_ne_nil _ _, fun other rest hother htext ↦ ?_⟩
    rw [← (List.cons.inj htext).1, isSign_eq_false (hdigit c List.mem_cons_self)] at hother
    cases hother

/-- Digits alone are an expression of one operand. -/
theorem Expression.text_eq_digits {e : Expression} (h : ∀ c ∈ current, c.isDigit) (htext : e.text = current) :
    e.rest = [] ∧ e.first.digits = current := by
  obtain ⟨first, terms⟩ := e
  cases terms with
  | nil =>
    unfold text at htext
    rw [List.flatMap_nil, List.append_nil] at htext
    exact ⟨rfl, htext⟩
  | cons term terms =>
    obtain ⟨op, operand⟩ := term
    have hop : op.char ∈ current := by
      rw [← htext]
      simp [text]
    have hdigit := isSign_eq_false (h _ hop)
    rw [op.isSign_char] at hdigit
    cases hdigit

/-- What the loop returns for the rest of a text, after it has read the digits in `current` -/
theorem evaluate_of_fit (hcurrent : ∀ c ∈ current, c.isDigit) (hrest : ∀ c ∈ rest, c.isDigit ∨ isSign c)
    (hfit : OperandsFit (current ++ rest)) :
    ∃ result, evaluate readInt total current sign rest = .ok result ∧ ∀ n, result = some n ↔
      (∃ e : Expression, e.text = current ++ rest ∧ e.valueFrom total sign = n) ∧ 0 < n := by
  induction rest generalizing current total sign with
  | nil =>
    rw [List.append_nil] at hfit ⊢
    unfold evaluate
    by_cases hne : current = []
    · refine ⟨none, if_pos hne, fun n ↦ iff_of_false (nomatch ·) ?_⟩
      rintro ⟨⟨e, htext, -⟩, -⟩
      exact e.text_ne.1 (htext.trans hne)
    · have hread := intOfChars_digits hne hcurrent
      rw [if_pos ((operandsFit_digits hne hcurrent).mp hfit)] at hread
      refine ⟨_, by rw [if_neg hne, hread]; rfl, fun n ↦ ?_⟩
      constructor
      · intro hsome
        have hpos : 0 < total + sign * (Nat.ofDigitChars 10 current 0 : ℤ) := by
          by_contra hneg
          rw [if_neg hneg] at hsome
          cases hsome
        rw [if_pos hpos] at hsome
        obtain rfl := Option.some.inj hsome
        exact ⟨⟨⟨⟨current, hne, hcurrent⟩, []⟩, List.append_nil _, rfl⟩, hpos⟩
      · rintro ⟨⟨e, htext, rfl⟩, hpos⟩
        obtain ⟨hterms, hdigits⟩ := Expression.text_eq_digits hcurrent htext
        have hvalue : e.valueFrom total sign = total + sign * (Nat.ofDigitChars 10 current 0 : ℤ) := by
          unfold Expression.valueFrom Operand.value
          rw [hterms, hdigits]
          rfl
        rw [hvalue] at hpos ⊢
        exact if_pos hpos
  | cons ch rest ih =>
    have hrest' : ∀ c ∈ rest, c.isDigit ∨ isSign c := fun c hc ↦ hrest c (List.mem_cons_of_mem ch hc)
    unfold evaluate
    by_cases hsign : isSign ch
    · rw [if_pos hsign]
      by_cases hne : current = []
      · refine ⟨none, if_pos hne, fun n ↦ iff_of_false (nomatch ·) ?_⟩
        rintro ⟨⟨e, htext, -⟩, -⟩
        rw [hne] at htext
        exact e.text_ne.2 ch rest hsign htext
      · obtain ⟨hlength, hfitRest⟩ := (operandsFit_append_cons hne hcurrent hsign).mp hfit
        have hread := intOfChars_digits hne hcurrent
        rw [if_pos hlength] at hread
        obtain ⟨op, rfl⟩ := Sign.exists_char_eq hsign
        obtain ⟨result, hresult, hvalue⟩ := @ih [] (total + sign * (Nat.ofDigitChars 10 current 0 : ℤ)) op.factor
          (by simp) hrest' hfitRest
        refine ⟨result, ?_, fun n ↦ (hvalue n).trans (and_congr_left fun _ ↦ ?_)⟩
        · rw [if_neg hne, hread, op.factor_eq]
          exact hresult
        · constructor
          · rintro ⟨tail, htail, hn⟩
            refine ⟨.chain ⟨current, hne, hcurrent⟩ op tail, ?_, hn⟩
            rw [Expression.text_chain, htail]
            rfl
          · rintro ⟨e, htext, hn⟩
            obtain ⟨first, op', tail, rfl, hfirst, hop, htail⟩ := Expression.eq_chain hcurrent hsign htext
            refine ⟨tail, htail, ?_⟩
            have hsame : op' = op := by
              revert hop
              cases op <;> cases op' <;> decide
            rw [← hn, Expression.valueFrom_chain, hsame]
            unfold Operand.value
            rw [hfirst]
    · rw [if_neg hsign]
      have hdigit : ch.isDigit := (hrest ch List.mem_cons_self).resolve_right hsign
      have happend : (current ++ [ch]) ++ rest = current ++ ch :: rest := by simp
      have hstep := @ih (current ++ [ch]) total sign (by
        intro c hc
        rcases List.mem_append.mp hc with hold | hnew
        · exact hcurrent c hold
        · rw [List.mem_singleton.mp hnew]
          exact hdigit) hrest' (happend ▸ hfit)
      rw [happend] at hstep
      exact hstep

/-- The loop raises at the first operand that is too long. -/
theorem evaluate_of_not_fit (hcurrent : ∀ c ∈ current, c.isDigit) (hrest : ∀ c ∈ rest, c.isDigit ∨ isSign c)
    (hfit : ¬OperandsFit (current ++ rest)) : evaluate readInt total current sign rest = .error .valueError := by
  induction rest generalizing current total sign with
  | nil =>
    rw [List.append_nil] at hfit
    have hne : current ≠ [] := by
      rintro rfl
      exact hfit (by simp [OperandsFit])
    rw [operandsFit_digits hne hcurrent] at hfit
    unfold evaluate
    rw [if_neg hne, intOfChars_digits hne hcurrent, if_neg hfit]
    rfl
  | cons ch rest ih =>
    have hrest' : ∀ c ∈ rest, c.isDigit ∨ isSign c := fun c hc ↦ hrest c (List.mem_cons_of_mem ch hc)
    unfold evaluate
    by_cases hsign : isSign ch
    · have hne : current ≠ [] := by
        rintro rfl
        apply hfit
        simp [OperandsFit, List.splitOnP_cons_eq_if_modifyHead, hsign]
      rw [if_pos hsign, if_neg hne, intOfChars_digits hne hcurrent]
      rw [operandsFit_append_cons hne hcurrent hsign, not_and] at hfit
      by_cases hlength : current.length ≤ maxStrDigits
      · rw [if_pos hlength]
        exact ih (by simp) hrest' (hfit hlength)
      · rw [if_neg hlength]
        rfl
    · rw [if_neg hsign]
      have hdigit : ch.isDigit := (hrest ch List.mem_cons_self).resolve_right hsign
      apply ih
      · intro c hc
        rcases List.mem_append.mp hc with hold | hnew
        · exact hcurrent c hold
        · rw [List.mem_singleton.mp hnew]
          exact hdigit
      · exact hrest'
      · rwa [List.append_assoc, List.singleton_append]

end Loop

/-! ## The short way -/

/-- The parser does not raise, and it returns the value of the sum inside the first `pagination(...)` where that
is one and positive. -/
def PaginationCorrect (raw : String) : Prop :=
  ∃ result, parsePaginationTarget readInt raw = .ok result ∧ ∀ n, result = some n ↔
    (∃ group ∈ searchPagination raw, ∃ e : Expression, e.text = withoutSpaces group ∧ e.value = n) ∧ 0 < n

/-- What the short way takes are ASCII digits of a positive number, and no operand that is read is too long. -/
def PaginationPlain (raw : String) : Prop :=
  ∀ group ∈ searchPagination raw,
    (withoutSpaces group ≠ [] → (withoutSpaces group).all isDigitLike →
      (withoutSpaces group).all Char.isDigit ∧ 0 < Nat.ofDigitChars 10 (withoutSpaces group) 0) ∧
    ((withoutSpaces group).all (fun c ↦ c.isDigit || isSign c) → OperandsFit (withoutSpaces group))

section Target

variable {raw : String} {group expr : List Char}

/-- The parser on the text inside the parentheses -/
theorem parsePaginationTarget_of_group (hgroup : searchPagination raw = some group)
    (hne : withoutSpaces group ≠ []) :
    parsePaginationTarget readInt raw =
      if (withoutSpaces group).all isDigitLike then some <$> intOfChars readInt (withoutSpaces group)
      else if !(withoutSpaces group).all fun c ↦ c.isDigit || isSign c then .ok none
      else evaluate readInt 0 [] 1 (withoutSpaces group) := by
  have hraw : raw ≠ "" := by
    rintro rfl
    cases hgroup
  unfold parsePaginationTarget
  rw [if_neg hraw, hgroup]
  dsimp only
  rw [if_neg hne]

theorem Expression.mem_text {e : Expression} {c : Char} (h : c ∈ e.text) : c.isDigit ∨ isSign c := by
  obtain ⟨first, terms⟩ := e
  rcases List.mem_append.mp h with hfirst | hterms
  · exact Or.inl (first.isDigit c hfirst)
  · obtain ⟨⟨op, operand⟩, -, hc⟩ := List.mem_flatMap.mp hterms
    rcases List.mem_cons.mp hc with rfl | hdigit
    · exact Or.inr op.isSign_char
    · exact Or.inl (operand.isDigit c hdigit)

/-- Digits of other scripts are no expression. -/
theorem Expression.all_isDigit {e : Expression} (h : e.text.all isDigitLike) : e.text.all Char.isDigit := by
  rw [List.all_eq_true] at h ⊢
  intro c hc
  rcases e.mem_text hc with hdigit | hsign
  · exact hdigit
  · exfalso
    have hlike := h c hc
    obtain ⟨op, rfl⟩ := Sign.exists_char_eq hsign
    revert hlike
    cases op <;> decide

/-- ASCII digits alone have one value. -/
theorem Expression.value_eq_digits {e : Expression} (h : expr.all Char.isDigit) (htext : e.text = expr) :
    e.value = (Nat.ofDigitChars 10 expr 0 : ℤ) := by
  obtain ⟨hterms, hdigits⟩ := e.text_eq_digits (List.all_eq_true.mp h) htext
  unfold Expression.value Operand.value
  rw [hterms, hdigits]
  rfl

/-- A text that takes the short way is read by the grammar just where it is short, ASCII and positive. -/
theorem shortWay_iff (hne : expr ≠ []) (hlike : expr.all isDigitLike) :
    (∃ result, some <$> intOfChars readInt expr = .ok result ∧
      ∀ n, result = some n ↔ (∃ e : Expression, e.text = expr ∧ e.value = n) ∧ 0 < n) ↔
    (expr.all Char.isDigit ∧ 0 < Nat.ofDigitChars 10 expr 0) ∧ expr.length ≤ maxStrDigits := by
  constructor
  · rintro ⟨result, hresult, hvalue⟩
    cases hread : intOfChars readInt expr with
    | error error =>
      rw [hread] at hresult
      cases hresult
    | ok n =>
      rw [hread] at hresult
      obtain rfl : some n = result := Except.ok.inj hresult
      obtain ⟨⟨e, htext, hn⟩, hpos⟩ := (hvalue n).mp rfl
      have hdigits : expr.all Char.isDigit := htext ▸ e.all_isDigit (htext ▸ hlike)
      rw [e.value_eq_digits hdigits htext] at hn
      rw [intOfChars_digits hne (List.all_eq_true.mp hdigits)] at hread
      refine ⟨⟨hdigits, by omega⟩, ?_⟩
      by_contra hlong
      rw [if_neg hlong] at hread
      cases hread
  · rintro ⟨⟨hdigits, hpos⟩, hlength⟩
    refine ⟨some (Nat.ofDigitChars 10 expr 0 : ℤ), ?_, fun n ↦ ?_⟩
    · rw [intOfChars_digits hne (List.all_eq_true.mp hdigits), if_pos hlength]
      rfl
    · constructor
      · intro hn
        obtain rfl := Option.some.inj hn
        refine ⟨⟨⟨⟨expr, hne, List.all_eq_true.mp hdigits⟩, []⟩, List.append_nil _, rfl⟩, ?_⟩
        exact Int.natCast_pos.mpr hpos
      · rintro ⟨⟨e, htext, rfl⟩, -⟩
        rw [e.value_eq_digits hdigits htext]

/-- The target of a link is read as the grammar says just where the short way takes ASCII digits of a positive
number and no operand is too long. -/
theorem paginationCorrect_iff (raw : String) : PaginationCorrect raw ↔ PaginationPlain raw := by
  unfold PaginationCorrect PaginationPlain
  cases hgroup : searchPagination raw with
  | none =>
    have hnone : parsePaginationTarget readInt raw = .ok none := by
      unfold parsePaginationTarget
      rw [hgroup]
      exact ite_self _
    simp [hnone]
  | some group =>
    simp only [Option.mem_def, Option.some.injEq, exists_eq_left', forall_eq']
    by_cases hne : withoutSpaces group = []
    · have hnone : parsePaginationTarget readInt raw = .ok none := by
        unfold parsePaginationTarget
        rw [hgroup]
        dsimp only
        rw [if_pos hne]
        exact ite_self _
      have hnot (e : Expression) : e.text ≠ [] := e.text_ne.1
      simp [hnone, hne, hnot, OperandsFit]
    · rw [parsePaginationTarget_of_group hgroup hne]
      by_cases hlike : (withoutSpaces group).all isDigitLike
      · rw [if_pos hlike, shortWay_iff hne hlike]
        have hsigns (h : (withoutSpaces group).all (fun c ↦ c.isDigit || isSign c)) :
            (withoutSpaces group).all Char.isDigit := by
          rw [List.all_eq_true] at h hlike ⊢
          intro c hc
          rcases Bool.or_eq_true_iff.mp (h c hc) with hdigit | hsign
          · exact hdigit
          · exfalso
            have hlikeSign := hlike c hc
            obtain ⟨op, rfl⟩ := Sign.exists_char_eq hsign
            revert hlikeSign
            cases op <;> decide
        constructor
        · rintro ⟨hplain, hlength⟩
          refine ⟨fun _ _ ↦ hplain, fun _ ↦ ?_⟩
          exact (operandsFit_digits hne (List.all_eq_true.mp hplain.1)).mpr hlength
        · rintro ⟨hplain, hfit⟩
          have hdigits := (hplain hne hlike).1
          refine ⟨hplain hne hlike, (operandsFit_digits hne (List.all_eq_true.mp hdigits)).mp (hfit ?_)⟩
          rw [List.all_eq_true] at hdigits ⊢
          exact fun c hc ↦ Bool.or_eq_true_iff.mpr (Or.inl (hdigits c hc))
      · rw [if_neg hlike]
        by_cases hchars : (withoutSpaces group).all fun c ↦ c.isDigit || isSign c
        · have hread : ∀ c ∈ withoutSpaces group, c.isDigit ∨ isSign c := fun c hc ↦
            Bool.or_eq_true_iff.mp (List.all_eq_true.mp hchars c hc)
          rw [hchars, Bool.not_true, if_neg Bool.false_ne_true]
          simp only [hlike, Bool.false_eq_true, false_imp_iff, imp_true_iff, true_and, true_imp_iff]
          constructor
          · rintro ⟨result, hresult, -⟩
            by_contra hfit
            rw [evaluate_of_not_fit (by simp) hread hfit] at hresult
            cases hresult
          · intro hfit
            obtain ⟨result, hresult, hvalue⟩ := @evaluate_of_fit [] _ 0 1 (by simp) hread hfit
            simp only [List.nil_append, Expression.valueFrom_zero_one] at hvalue
            exact ⟨result, hresult, hvalue⟩
        · have hother : (withoutSpaces group).all (fun c ↦ c.isDigit || isSign c) = false := by simpa using hchars
          have hnot (e : Expression) : e.text ≠ withoutSpaces group := by
            intro htext
            apply hchars
            rw [← htext, List.all_eq_true]
            exact fun c hc ↦ Bool.or_eq_true_iff.mpr (e.mem_text hc)
          rw [hother, Bool.not_false, if_pos rfl]
          simp [hlike, hnot]

/-- Page zero is no target, but the short way returns it. -/
theorem pagination_zero :
    parsePaginationTarget readInt "pagination(0)" = .ok (some 0) ∧ ¬PaginationCorrect "pagination(0)" := by
  have hzero : parsePaginationTarget readInt "pagination(0)" = .ok (some 0) := by decide +kernel
  refine ⟨hzero, ?_⟩
  rintro ⟨result, hresult, hvalue⟩
  rw [hzero] at hresult
  obtain rfl := Except.ok.inj hresult
  exact absurd ((hvalue 0).mp rfl).2 (by decide)

end Target

end TenderPhase1.Spiders
