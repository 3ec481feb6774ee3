import Mathlib.Tactic.Common
import K11CHaos.Lib.Json

/-!
# Numbers as 64-bit floats

What becomes of the text of a JSON number that is read as an IEEE 754 double and written again: it
is rounded to the nearest double, ties to even, and written with the fewest digits that read back as
the same double, in the plain form from 1e-6 up to 1e21 and with an exponent elsewhere. The text that
comes out is again made of the characters of a number (`reformat_number`).
-/

namespace K11CHaos.Float64

/-- A decimal number `± digits * 10 ^ exponent`. -/
structure Decimal where
  negative : Bool
  digits : Nat
  exponent : Int
deriving DecidableEq, Repr

/-- The value of a list of decimal digits. -/
def digitsValue (cs : List Char) : Nat :=
  cs.foldl (fun n c => 10 * n + (c.toNat - '0'.toNat)) 0

/-- The exponent of a number: `e`, an optional sign and digits, or nothing. -/
def readExponent : List Char → Option Int
  | [] => some 0
  | c :: cs =>
    if c ≠ 'e' ∧ c ≠ 'E' then none
    else
      let (sign, ds) : Int × List Char := match cs with
        | '-' :: ds => (-1, ds)
        | '+' :: ds => (1, ds)
        | ds => (1, ds)
      if ds = [] ∨ ¬ ds.all Char.isDigit then none else some (sign * digitsValue ds)

/-- The number a JSON number text stands for. -/
def readDecimal (text : List Char) : Option Decimal := do
  let (negative, cs) : Bool × List Char := match text with
    | '-' :: cs => (true, cs)
    | cs => (false, cs)
  let whole := cs.takeWhile Char.isDigit
  guard (whole ≠ [])
  let (part, cs) ← match cs.dropWhile Char.isDigit with
    | '.' :: cs =>
      let part := cs.takeWhile Char.isDigit
      if part = [] then none else some (part, cs.dropWhile Char.isDigit)
    | cs => some ([], cs)
  let e ← readExponent cs
  return ⟨negative, digitsValue (whole ++ part), e - part.length⟩

/-- `num / den * 2 ^ (-e)` as a fraction. -/
def scale (num den : Nat) (e : Int) : Nat × Nat :=
  if 0 ≤ e then (num, den * 2 ^ e.toNat) else (num * 2 ^ (-e).toNat, den)

/-- Rounding to a natural number, ties to even. -/
def roundEven (num den : Nat) : Nat :=
  let q := num / den
  let r := 2 * (num % den)
  if r < den ∨ r = den ∧ q % 2 = 0 then q else q + 1

/-- The double nearest to a positive fraction: its mantissa below `2 ^ 53` and its exponent; nothing
when it is too large. -/
def nearest (num den : Nat) : Option (Nat × Int) :=
  let low : Int := max ((num.log2 : Int) - den.log2 - 53) (-1074)
  let (n, d) := scale num den low
  let e := if n / d < 2 ^ 53 then low else low + 1
  let (n, d) := scale num den e
  let m := roundEven n d
  let (m, e) := if m = 2 ^ 53 then (2 ^ 52, e + 1) else (m, e)
  if e ≤ 971 then some (m, e) else none

/-- `num / den * 10 ^ (-e)` as a fraction. -/
def scale10 (num den : Nat) (e : Int) : Nat × Nat :=
  if 0 ≤ e then (num, den * 10 ^ e.toNat) else (num * 10 ^ (-e).toNat, den)

/-- The number of digits before the point of a positive fraction, negative for leading zeros. -/
def pointOf (num den : Nat) : Int :=
  let (n, d) := if den ≤ num then (num / den, 1) else (num, den)
  if d = 1 then ((Nat.toDigits 10 n).length : Int)
  else
    let k := (Nat.toDigits 10 (d / n)).length
    if n * 10 ^ k ≥ d * 10 then 2 - (k : Int) else if n * 10 ^ k ≥ d then 1 - (k : Int) else -(k : Int)

/-- The shortest digits, from `count` on, that read back as a double: the digits and their exponent. -/
def shortest (num den : Nat) (value : Nat × Int) : Nat → Nat → Nat × Int
  | 0, count => (0, count)
  | fuel + 1, count =>
    let e := pointOf num den - count
    let (n, d) := scale10 num den e
    let back (m : Nat) : Bool :=
      let (n, d) := scale10 m 1 (-e)
      nearest n d == some value
    let lo := n / d
    let near := roundEven n d
    if back near then (near, e)
    else if back lo then (lo, e)
    else if back (lo + 1) then (lo + 1, e)
    else shortest num den value fuel (count + 1)

/-- Digits and exponent of a decimal without trailing zeros. -/
def trim : Nat → Nat → Int → Nat × Int
  | 0, m, e => (m, e)
  | fuel + 1, m, e => if m % 10 = 0 then trim fuel (m / 10) (e + 1) else (m, e)

/-- The plain form of digits with a point. -/
def plainForm (ds : List Char) (point : Int) : List Char :=
  if point ≤ 0 then '0' :: '.' :: (List.replicate (-point).toNat '0' ++ ds)
  else if point < ds.length then ds.take point.toNat ++ '.' :: ds.drop point.toNat
  else ds ++ List.replicate (point.toNat - ds.length) '0'

/-- The form with an exponent. -/
def exponentForm (ds : List Char) (point : Int) : List Char :=
  ds.take 1 ++ (if ds.length = 1 then [] else '.' :: ds.drop 1) ++
    (if point - 1 < 0 then ['e', '-'] else ['e', '+']) ++ Nat.toDigits 10 (point - 1).natAbs

/-- The digits of a positive double. -/
def format (value : Nat × Int) : List Char :=
  let (num, den) := scale value.1 1 (-value.2)
  let (m, e) := shortest num den value 17 1
  let (m, e) := trim 20 m e
  let ds := Nat.toDigits 10 m
  let point := ds.length + e
  if point ≤ -6 ∨ 21 < point then exponentForm ds point else plainForm ds point

/-- A number text read as a double and written again; nothing when it is no number or too large. -/
def reformat (text : List Char) : Option (List Char) := do
  let d ← readDecimal text
  let sign := if d.negative then ['-'] else []
  if d.digits = 0 then return sign ++ ['0']
  let (num, den) := scale10 d.digits 1 (-d.exponent)
  let value ← nearest num den
  if value.1 = 0 then return sign ++ ['0']
  return sign ++ format value

/-! ## The characters of the text -/

open Json (numberChar_toDigits)

/-- The plain form has characters of numbers only. -/
lemma plainForm_number {ds : List Char} {point : Int} (h : ∀ c ∈ ds, numberChar c = true) :
    ∀ c ∈ plainForm ds point, numberChar c = true := by
  unfold plainForm
  split_ifs
  · intro c hc
    simp only [List.mem_cons, List.mem_append, List.mem_replicate] at hc
    obtain rfl | rfl | ⟨_, rfl⟩ | hc := hc
    · rfl
    · rfl
    · rfl
    · exact h c hc
  · intro c hc
    simp only [List.mem_cons, List.mem_append] at hc
    obtain hc | rfl | hc := hc
    · exact h c (List.mem_of_mem_take hc)
    · rfl
    · exact h c (List.mem_of_mem_drop hc)
  · intro c hc
    simp only [List.mem_append, List.mem_replicate] at hc
    obtain hc | ⟨_, rfl⟩ := hc
    · exact h c hc
    · rfl

/-- The exponent form has characters of numbers only. -/
lemma exponentForm_number {ds : List Char} {point : Int} (h : ∀ c ∈ ds, numberChar c = true) :
    ∀ c ∈ exponentForm ds point, numberChar c = true := by
  intro c hc
  simp only [exponentForm, List.mem_append] at hc
  obtain ((hc | hc) | hc) | hc := hc
  · exact h c (List.mem_of_mem_take hc)
  · split_ifs at hc
    · cases hc
    · obtain rfl | hc := List.mem_cons.mp hc
      · rfl
      · exact h c (List.mem_of_mem_drop hc)
  · have sign : ∀ c ∈ ['e', '-', '+'], numberChar c = true := forall_of_all (by decide)
    split_ifs at hc
    · exact sign c (List.mem_append_left ['+'] hc)
    · obtain rfl | hc := List.mem_cons.mp hc
      · rfl
      · exact sign c (List.mem_cons_of_mem _ (List.mem_cons_of_mem _ hc))
  · exact numberChar_toDigits c hc

/-- A float is written with characters of numbers only. -/
lemma format_number {value : Nat × Int} : ∀ c ∈ format value, numberChar c = true := by
  unfold format
  dsimp only
  split_ifs
  · exact exponentForm_number numberChar_toDigits
  · exact plainForm_number numberChar_toDigits

/-- What comes out is made of the characters of a number. -/
theorem reformat_number {text t : List Char} (h : reformat text = some t) :
    ∀ c ∈ t, numberChar c = true := by
  simp only [reformat, Option.bind_eq_bind, Option.bind_eq_some_iff] at h
  obtain ⟨d, _, h⟩ := h
  have minus : ∀ c ∈ (if d.negative then ['-'] else []), numberChar c = true := by
    split_ifs <;> exact forall_of_all (by decide)
  generalize (if d.negative then ['-'] else []) = sign at h minus
  have signed (ds : List Char) (hds : ∀ c ∈ ds, numberChar c = true) :
      ∀ c ∈ sign ++ ds, numberChar c = true := by
    intro c hc
    obtain hc | hc := List.mem_append.mp hc
    · exact minus c hc
    · exact hds c hc
  split_ifs at h
  · cases h
    exact signed _ (forall_of_all (by decide))
  · simp only [Option.bind_eq_some_iff] at h
    obtain ⟨value, _, h⟩ := h
    split_ifs at h
    · cases h
      exact signed _ (forall_of_all (by decide))
    · cases h
      exact signed _ format_number

end K11CHaos.Float64
