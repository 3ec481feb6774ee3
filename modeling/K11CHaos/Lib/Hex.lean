import Mathlib.Tactic.Common

/-!
# Hexadecimal numerals and command lines

Lower-case hexadecimal numerals of natural numbers, with and without leading zeros, and their
reader, which gives the number back. A command line is its words joined by spaces; since no numeral
holds a space, the words of a line are read back too.
-/

namespace K11CHaos

/-- The numeral of a number, as `{n:x}` writes it. -/
def hex (n : Nat) : String :=
  String.ofList (Nat.toDigits 16 n)

/-- The numeral of a number with leading zeros up to a width, as `{n:08x}` writes it. -/
def hexPad (width n : Nat) : String :=
  String.ofList (List.replicate (width - (Nat.toDigits 16 n).length) '0' ++ Nat.toDigits 16 n)

/-- The value of a digit. -/
def digitValue (c : Char) : Option Nat :=
  "0123456789abcdef".toList.idxOf? c

/-- Read the digits that follow a number. -/
def readDigits : Nat → List Char → Option Nat
  | n, [] => some n
  | n, c :: cs => (digitValue c).bind fun d => readDigits (16 * n + d) cs

/-- The number a numeral stands for. -/
def readHex (word : String) : Option Nat :=
  if word = "" then none else readDigits 0 word.toList

/-- A digit is read as its value. -/
lemma digitValue_digitChar {d : Nat} (h : d < 16) : digitValue d.digitChar = some d := by
  have all : ∀ d < 16, digitValue d.digitChar = some d := by decide
  exact all d h

/-- Digits are read one after another. -/
lemma readDigits_append {n : Nat} {cs ds : List Char} :
    readDigits n (cs ++ ds) = (readDigits n cs).bind fun m => readDigits m ds := by
  induction cs generalizing n with
  | nil => rfl
  | cons c cs ih =>
    rw [List.cons_append, readDigits, readDigits]
    cases digitValue c with
    | none => rfl
    | some d => exact ih

/-- The digits of a number are read as it. -/
lemma readDigits_toDigits {n : Nat} : readDigits 0 (Nat.toDigits 16 n) = some n := by
  induction n using Nat.strongRecOn with
  | ind n ih =>
    by_cases small : n < 16
    · rw [Nat.toDigits_of_lt_base small, readDigits, digitValue_digitChar small]
      simp [readDigits]
    · rw [Nat.toDigits_of_base_le (by decide) (by omega), readDigits_append, ih (n / 16) (by omega),
        Option.bind_some, readDigits, digitValue_digitChar (by omega)]
      simp only [Option.bind_some, readDigits, Option.some.injEq]
      omega

/-- Leading zeros are no part of a number. -/
lemma readDigits_zeros {k : Nat} {cs : List Char} :
    readDigits 0 (List.replicate k '0' ++ cs) = readDigits 0 cs := by
  induction k with
  | zero => rfl
  | succ k ih =>
    rw [List.replicate_succ, List.cons_append, readDigits,
      show digitValue '0' = some 0 by decide]
    exact ih

/-- Characters make a text. -/
lemma ofList_ne_empty {cs : List Char} (h : cs ≠ []) : String.ofList cs ≠ "" := by
  intro e
  have := congrArg String.toList e
  rw [String.toList_ofList] at this
  exact h this

/-- A numeral is read back. -/
@[simp] lemma readHex_hex {n : Nat} : readHex (hex n) = some n := by
  rw [readHex, hex, if_neg (ofList_ne_empty Nat.toDigits_ne_nil), String.toList_ofList,
    readDigits_toDigits]

/-- Leading zeros do not count. -/
@[simp] lemma readHex_hexPad {width n : Nat} : readHex (hexPad width n) = some n := by
  rw [readHex, hexPad, if_neg (ofList_ne_empty ?_), String.toList_ofList, readDigits_zeros,
    readDigits_toDigits]
  exact fun e => Nat.toDigits_ne_nil (List.append_eq_nil_iff.mp e).2

/-- A number has no blanks. -/
lemma space_toDigits {n : Nat} : ' ' ∉ Nat.toDigits 16 n := by
  have digit : ∀ d < 16, ' ' ≠ Nat.digitChar d := by decide
  induction n using Nat.strongRecOn with
  | ind n ih =>
    by_cases small : n < 16
    · rw [Nat.toDigits_of_lt_base small, List.mem_singleton]
      exact digit n small
    · rw [Nat.toDigits_of_base_le (by decide) (by omega), List.mem_append, List.mem_singleton, not_or]
      exact ⟨ih (n / 16) (by omega), digit _ (by omega)⟩

/-- A word without a space in it. -/
def Plain (word : String) : Prop :=
  ' ' ∉ word.toList

instance (word : String) : Decidable (Plain word) :=
  inferInstanceAs (Decidable (¬ _))

/-- A number is a plain word. -/
@[simp] lemma plain_hex {n : Nat} : Plain (hex n) := by
  rw [Plain, hex, String.toList_ofList]
  exact space_toDigits

/-- A padded number is a plain word. -/
@[simp] lemma plain_hexPad {width n : Nat} : Plain (hexPad width n) := by
  rw [Plain, hexPad, String.toList_ofList, List.mem_append, not_or]
  refine ⟨fun h => ?_, space_toDigits⟩
  exact absurd (List.eq_of_mem_replicate h) (by decide)

/-- A command line. -/
def line (words : List String) : String :=
  " ".intercalate words

/-- The words of a command line. -/
def wordsOf (text : String) : List String :=
  (text.toList.splitOn ' ').map String.ofList

/-- The words of a line are read back. -/
lemma wordsOf_line {words : List String} (some' : words ≠ []) (plain : ∀ w ∈ words, Plain w) :
    wordsOf (line words) = words := by
  rw [wordsOf, line, String.toList_intercalate]
  rw [show " ".toList = [' '] from rfl, List.splitOn_intercalate]
  · rw [List.map_map]
    refine (List.map_congr_left fun w _ => ?_).trans (List.map_id _)
    exact String.ofList_toList
  · intro l hl
    obtain ⟨w, hw, rfl⟩ := List.mem_map.mp hl
    exact plain w hw
  · simpa using some'

end K11CHaos
