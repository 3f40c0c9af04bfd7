import DatasetLint.Decimal.Numeral
import DatasetLint.Report.Json

/-!
# Reading JSON

The values that reports are made of, read from JSON: a text is cut into tokens, with any blanks between them,
and the tokens have to spell one value. No report has null, a truth value or a number with a sign, a point
or an exponent, so that these are refused, as is all that is no JSON.
-/

namespace DatasetLint.Report.Json

inductive Token where
  | openArray
  | closeArray
  | openObject
  | closeObject
  | comma
  | colon
  | number (n : Nat)
  | text (s : String)
deriving DecidableEq, Repr

namespace Token

/-- The characters that may stand between tokens. -/
def isBlank (c : Char) : Bool := c == ' ' || c == '\t' || c == '\n' || c == '\r'

/-- The token that is one character. -/
def ofMark? (c : Char) : Option Token :=
  if c = '[' then some openArray
  else if c = ']' then some closeArray
  else if c = '\x7b' then some openObject
  else if c = '\x7d' then some closeObject
  else if c = ',' then some comma
  else if c = ':' then some colon
  else none

/-! ## Texts -/

/-- What a text in quotes is made of: characters, and units of sixteen bits. -/
inductive Piece where
  | char (c : Char)
  | unit (n : Nat)
deriving DecidableEq, Repr

/-- The character that a letter stands for behind a backslash. -/
def unescape? (c : Char) : Option Char :=
  if c = '"' ∨ c = '\\' ∨ c = '/' then some c
  else if c = 'n' then some '\n'
  else if c = 'r' then some '\r'
  else if c = 't' then some '\t'
  else if c = 'b' then some '\x08'
  else if c = 'f' then some '\x0c'
  else none

/-- The number of four hexadecimal digits. -/
def unit? (a b c d : Char) : Option Nat := do
  let a ← Decimal.digitValue 16 a
  let b ← Decimal.digitValue 16 b
  let c ← Decimal.digitValue 16 c
  let d ← Decimal.digitValue 16 d
  some (16 * (16 * (16 * a + b) + c) + d)

/-- The pieces of a text up to its closing quote, and what follows it. -/
def pieces? : List Char → Option (List Piece × List Char)
  | [] => none
  | c :: cs =>
    if c = '"' then some ([], cs)
    else if c = '\\' then
      match cs with
      | [] => none
      | e :: cs =>
        if e = 'u' then
          match cs with
          | x :: y :: z :: w :: cs =>
            (unit? x y z w).bind fun n => (pieces? cs).map fun (ps, rest) => (.unit n :: ps, rest)
          | _ => none
        else (unescape? e).bind fun d => (pieces? cs).map fun (ps, rest) => (.char d :: ps, rest)
    else if c.toNat < 0x20 then none
    else (pieces? cs).map fun (ps, rest) => (.char c :: ps, rest)

/-- The characters of some pieces. Characters beyond sixteen bits are a unit of each half. -/
def chars? : List Piece → Option (List Char)
  | [] => some []
  | .char c :: ps => (chars? ps).map (c :: ·)
  | .unit n :: ps =>
    if n < 0xD800 ∨ 0xDFFF < n then (chars? ps).map (Char.ofNat n :: ·)
    else
      match ps with
      | .unit m :: ps =>
        if n < 0xDC00 ∧ 0xDC00 ≤ m ∧ m ≤ 0xDFFF then
          (chars? ps).map (Char.ofNat (0x10000 + 0x400 * (n - 0xD800) + (m - 0xDC00)) :: ·)
        else none
      | _ => none

/-- The text behind an opening quote, and what follows its closing quote. -/
def text? (cs : List Char) : Option (Token × List Char) :=
  (pieces? cs).bind fun (ps, rest) => (chars? ps).map fun s => (.text (String.ofList s), rest)

/-! ## Numbers -/

/-- The number that digits spell; no zero stands before others. -/
def number? (ds : List Char) : Option Token :=
  if ds = [] ∨ ds.head? = some '0' ∧ ds ≠ ['0'] then none else some (.number (Decimal.digitsValue ds))

/-! ## All tokens of a text -/

/-- The token at the front of a text, and what follows it. -/
def next? : List Char → Option (Token × List Char)
  | [] => none
  | c :: cs =>
    match ofMark? c with
    | some t => some (t, cs)
    | none =>
      if c = '"' then text? cs
      else (number? ((c :: cs).takeWhile Char.isDigit)).map (·, (c :: cs).dropWhile Char.isDigit)

theorem length_of_pieces? {cs rest : List Char} {ps : List Piece} (h : pieces? cs = some (ps, rest)) :
    rest.length < cs.length := by
  fun_induction pieces? cs generalizing ps rest with
  | case1 => cases h
  | case2 =>
    cases h
    exact Nat.lt_succ_self _
  | case3 => cases h
  | case4 x y z w cs _ ih =>
    simp only [Option.bind_eq_some_iff, Option.map_eq_some_iff, Prod.mk.injEq, Prod.exists] at h
    obtain ⟨n, -, ps', rest', h, -, rfl⟩ := h
    have := ih h
    simp only [List.length_cons]
    omega
  | case5 => cases h
  | case6 e cs he _ ih =>
    simp only [Option.bind_eq_some_iff, Option.map_eq_some_iff, Prod.mk.injEq, Prod.exists] at h
    obtain ⟨d, -, ps', rest', h, -, rfl⟩ := h
    have := ih h
    simp only [List.length_cons]
    omega
  | case7 => cases h
  | case8 c cs hquote hescape hcontrol ih =>
    simp only [Option.map_eq_some_iff, Prod.mk.injEq, Prod.exists] at h
    obtain ⟨ps', rest', h, -, rfl⟩ := h
    have := ih h
    simp only [List.length_cons]
    omega

theorem length_of_next? {cs rest : List Char} {t : Token} (h : next? cs = some (t, rest)) :
    rest.length < cs.length := by
  cases cs with
  | nil => cases h
  | cons c cs =>
    simp only [next?] at h
    split at h
    · cases h
      exact Nat.lt_succ_self _
    · split at h
      · simp only [text?, Option.bind_eq_some_iff, Option.map_eq_some_iff, Prod.exists, Prod.mk.injEq] at h
        obtain ⟨ps, rest', hpieces, s, -, -, rfl⟩ := h
        exact Nat.lt_succ_of_lt (length_of_pieces? hpieces)
      · simp only [Option.map_eq_some_iff, Prod.mk.injEq] at h
        obtain ⟨n, hnumber, -, rfl⟩ := h
        -- a number has a digit, so that less than the whole text follows it
        by_cases hc : c.isDigit = true
        · rw [List.dropWhile_cons_of_pos hc]
          exact Nat.lt_succ_of_le (List.dropWhile_sublist _).length_le
        · rw [List.takeWhile_cons_of_neg hc] at hnumber
          cases hnumber

/-- The tokens of a text. -/
def tokens? : List Char → Option (List Token)
  | [] => some []
  | c :: cs =>
    if isBlank c then tokens? cs
    else
      match h : next? (c :: cs) with
      | none => none
      | some (t, rest) =>
        have : rest.length < cs.length + 1 := length_of_next? h
        (tokens? rest).map (t :: ·)
termination_by cs => cs.length

end Token

/-! ## Values -/

/-- The tokens of an item or entry, behind the comma that stands in front of each but the first. -/
def Token.behindComma? (first : Bool) (ts : List Token) : Option (List Token) :=
  if first then some ts
  else
    match ts with
    | .comma :: ts => some ts
    | _ => none

mutual

/-- The value at the front of some tokens, and what follows it. Two steps for each token are enough. -/
def value? : Nat → List Token → Option (Json × List Token)
  | 0, _ => none
  | _ + 1, [] => none
  | steps + 1, t :: ts =>
    match t with
    | .number n => some (number n, ts)
    | .text s => some (text s, ts)
    | .openArray => (items? steps true ts).map fun (xs, ts) => (array xs, ts)
    | .openObject => (entries? steps true ts).map fun (es, ts) => (object es, ts)
    | _ => none

/-- The items up to the end of an array, and what follows it. -/
def items? : Nat → Bool → List Token → Option (List Json × List Token)
  | 0, _, _ => none
  | steps + 1, first, ts =>
    if ts.head? = some .closeArray then some ([], ts.tail)
    else
      (Token.behindComma? first ts).bind fun ts =>
        (value? steps ts).bind fun (x, ts) => (items? steps false ts).map fun (xs, ts) => (x :: xs, ts)

/-- The entries up to the end of an object, and what follows it. -/
def entries? : Nat → Bool → List Token → Option (List (String × Json) × List Token)
  | 0, _, _ => none
  | steps + 1, first, ts =>
    if ts.head? = some .closeObject then some ([], ts.tail)
    else
      match Token.behindComma? first ts with
      | some (.text k :: .colon :: ts) =>
        (value? steps ts).bind fun (x, ts) => (entries? steps false ts).map fun (es, ts) => ((k, x) :: es, ts)
      | _ => none

end

/-- The value that some tokens spell. -/
def ofTokens? (ts : List Token) : Option Json :=
  match value? (2 * ts.length) ts with
  | some (x, []) => some x
  | _ => none

/-- The value that a text spells. -/
def read? (cs : List Char) : Option Json := (Token.tokens? cs).bind ofTokens?

/-! ## Parts of values -/

def text? : Json → Option String
  | text s => some s
  | _ => none

def number? : Json → Option Nat
  | number n => some n
  | _ => none

def array? : Json → Option (List Json)
  | array xs => some xs
  | _ => none

/-- The value of an object under a key. -/
def entry? (key : String) : Json → Option Json
  | object es => es.lookup key
  | _ => none

end DatasetLint.Report.Json
