import Mathlib.Tactic.Common
import Mathlib.Data.List.Basic

/-!
# Texts as lists of characters

The operations on `str` that the parsers use, by their documented behaviour: lines, trimming, cutting at
a separator, and unsigned numbers in a radix.
-/

namespace K11CHaos.Str

/-- `White_Space` of Unicode. -/
def isWhitespace (c : Char) : Bool :=
  let n := c.toNat
  (9 ≤ n && n ≤ 13) || n == 0x20 || n == 0x85 || n == 0xa0 || n == 0x1680 ||
    (0x2000 ≤ n && n ≤ 0x200a) || n == 0x2028 || n == 0x2029 || n == 0x202f || n == 0x205f ||
    n == 0x3000

/-- `trim`. -/
def trim (s : List Char) : List Char :=
  ((s.dropWhile isWhitespace).reverse.dropWhile isWhitespace).reverse

/-- `strip_prefix`. -/
def stripFront (p s : List Char) : Option (List Char) :=
  if p.isPrefixOf s then some (s.drop p.length) else none

/-- `strip_suffix`. -/
def stripBack (p s : List Char) : Option (List Char) :=
  (stripFront p.reverse s.reverse).map List.reverse

/-- `split_once`: what stands before and after the first separator. -/
def splitOnce (sep : List Char) : List Char → Option (List Char × List Char)
  | [] => if sep = [] then some ([], []) else none
  | c :: s =>
    match stripFront sep (c :: s) with
    | some rest => some ([], rest)
    | none => (splitOnce sep s).map fun p => (c :: p.1, p.2)

/-- `contains`. -/
def contains (s sep : List Char) : Bool :=
  (splitOnce sep s).isSome

/-- `trim_start_matches` with a text that is not empty. -/
def trimStartMatches (p s : List Char) : List Char :=
  go s.length s
where
  go : Nat → List Char → List Char
    | 0, s => s
    | fuel + 1, s =>
      match stripFront p s with
      | some rest => go fuel rest
      | none => s

/-- `lines`: a line feed ends a line together with a carriage return before it; a last line without
one is a line unless it is empty. -/
def lines (s : List Char) : List (List Char) :=
  let parts := s.splitOn '\n'
  (parts.dropLast.map fun l => (stripBack ['\r'] l).getD l) ++
    (parts.getLast?.filter (· ≠ [])).toList

/-- `to_digit`. -/
def digit (radix : Nat) (c : Char) : Option Nat :=
  let n := c.toNat
  let d :=
    if 48 ≤ n ∧ n ≤ 57 then n - 48
    else if 97 ≤ n ∧ n ≤ 122 then n - 87
    else if 65 ≤ n ∧ n ≤ 90 then n - 55
    else radix
  if d < radix then some d else none

/-- The loop of `from_str_radix`. -/
def digits (radix bits : Nat) : List Char → Nat → Except String Nat
  | [], acc => .ok acc
  | c :: cs, acc =>
    match digit radix c with
    | none => .error "invalid digit found in string"
    | some d =>
      if acc * radix + d < 2 ^ bits then digits radix bits cs (acc * radix + d)
      else .error "number too large to fit in target type"

/-- `from_str_radix` of an unsigned type. -/
def fromStrRadix (radix bits : Nat) (s : List Char) : Except String Nat :=
  match s with
  | [] => .error "cannot parse integer from empty string"
  | ['+'] => .error "invalid digit found in string"
  | '+' :: cs => digits radix bits cs 0
  | cs => digits radix bits cs 0

end K11CHaos.Str
