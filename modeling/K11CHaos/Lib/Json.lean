import Mathlib.Tactic.Common
import Mathlib.Tactic.IntervalCases
import K11CHaos.Lib.Bytes

/-!
# JSON texts

JSON values and their compact text, as a serializer without blanks prints them: strings are escaped,
fields keep their order, the text is encoded in UTF-8 (`Json.bytes`). Natural numbers are values,
every other number is a literal that stands for itself. The text of a value is never a proper prefix
of another's but for numbers, so it can be cut off again wherever no number goes on (`print_inj`);
hence a text determines its value (`Json.bytes_inj`) and a reader that
inverts the printer exists. The length of a text is the sum of the lengths of its parts
(`Json.length_bytes`).
-/

namespace K11CHaos

/-- A character of a number: a digit, a sign, a point or an exponent. -/
def numberChar (c : Char) : Bool :=
  c.isDigit || "+-.eE".toList.contains c

/-- A number with a sign, a point or an exponent in it. -/
structure Literal where
  text : List Char
  number : ∀ c ∈ text, numberChar c = true
  notNat : ∃ c ∈ text, c.isDigit = false

/-- JSON values. -/
inductive Json where
  | null
  | bool (b : Bool)
  | num (n : Nat)
  | lit (l : Literal)
  | str (s : String)
  | arr (xs : List Json)
  | obj (fs : List (String × Json))

namespace Json

/-- The hexadecimal digit of a number below 16. -/
def hexDigit (n : Nat) : Char :=
  ("0123456789abcdef".toList).getD n '0'

/-- A character of a string literal: quotes, backslashes and control characters are escaped. -/
def escape (c : Char) : List Char :=
  if c = '"' then ['\\', '"']
  else if c = '\\' then ['\\', '\\']
  else if c.toNat = 8 then ['\\', 'b']
  else if c.toNat = 9 then ['\\', 't']
  else if c.toNat = 10 then ['\\', 'n']
  else if c.toNat = 12 then ['\\', 'f']
  else if c.toNat = 13 then ['\\', 'r']
  else if c.toNat < 32 then
    ['\\', 'u', '0', '0', hexDigit (c.toNat / 16), hexDigit (c.toNat % 16)]
  else [c]

/-- The rest of a string literal after its opening quote. -/
def quoteTail : List Char → List Char
  | [] => ['"']
  | c :: cs => escape c ++ quoteTail cs

/-- A string literal. -/
def quote (s : String) : List Char :=
  '"' :: quoteTail s.toList

mutual

/-- The compact text of a value. -/
def print : Json → List Char
  | null => "null".toList
  | bool true => "true".toList
  | bool false => "false".toList
  | num n => Nat.toDigits 10 n
  | lit l => l.text
  | str s => quote s
  | arr [] => ['[', ']']
  | arr (x :: xs) => '[' :: (print x ++ printItems xs)
  | obj [] => ['{', '}']
  | obj (f :: fs) => '{' :: (printField f ++ printFields fs)

/-- The items after the first one, and the closing bracket. -/
def printItems : List Json → List Char
  | [] => [']']
  | x :: xs => ',' :: (print x ++ printItems xs)

/-- A field. -/
def printField : String × Json → List Char
  | (k, v) => quote k ++ ':' :: print v

/-- The fields after the first one, and the closing brace. -/
def printFields : List (String × Json) → List Char
  | [] => ['}']
  | f :: fs => ',' :: (printField f ++ printFields fs)

end

/-- The UTF-8 encoding of a text. -/
def utf8 (cs : List Char) : Bytes :=
  cs.flatMap String.utf8EncodeChar

/-- The bytes of a value. -/
def bytes (v : Json) : Bytes :=
  utf8 (print v)

/-! ## Unique reading -/

/-- Reading the first character of an escaped text, with what an escape stands for. -/
def unescape : List Char → Option (Char × List Char)
  | '\\' :: 'u' :: '0' :: '0' :: a :: b :: r =>
    some (Char.ofNat (16 * ("0123456789abcdef".toList).idxOf a +
      ("0123456789abcdef".toList).idxOf b), r)
  | '\\' :: 'b' :: r => some (Char.ofNat 8, r)
  | '\\' :: 't' :: r => some (Char.ofNat 9, r)
  | '\\' :: 'n' :: r => some (Char.ofNat 10, r)
  | '\\' :: 'f' :: r => some (Char.ofNat 12, r)
  | '\\' :: 'r' :: r => some (Char.ofNat 13, r)
  | '\\' :: c :: r => some (c, r)
  | c :: r => some (c, r)
  | [] => none

/-- Characters with the same code are the same. -/
lemma char_eq_of_toNat {c d : Char} (h : c.toNat = d.toNat) : c = d :=
  Char.ext (UInt32.toNat_inj.mp h)

/-- An escape reads back as its character. -/
lemma unescape_escape (c : Char) (r : List Char) : unescape (escape c ++ r) = some (c, r) := by
  unfold escape
  split_ifs with h1 h2 h3 h4 h5 h6 h7 h8
  · subst h1; rfl
  · subst h2; rfl
  · rw [char_eq_of_toNat (d := Char.ofNat 8) h3]; rfl
  · rw [char_eq_of_toNat (d := Char.ofNat 9) h4]; rfl
  · rw [char_eq_of_toNat (d := Char.ofNat 10) h5]; rfl
  · rw [char_eq_of_toNat (d := Char.ofNat 12) h6]; rfl
  · rw [char_eq_of_toNat (d := Char.ofNat 13) h7]; rfl
  · have all : ∀ n < 32, unescape (['\\', 'u', '0', '0', hexDigit (n / 16), hexDigit (n % 16)] ++ r) =
        some (Char.ofNat n, r) := by
      intro n hn
      interval_cases n <;> rfl
    rw [all _ h8, Char.ofNat_toNat]
  · simp only [List.cons_append, List.nil_append]
    unfold unescape
    split <;> simp_all

/-- An escape is not the closing quote. -/
lemma escape_ne_quote {c : Char} {r s : List Char} : escape c ++ r ≠ '"' :: s := by
  intro h
  have := unescape_escape c r
  rw [h] at this
  have e : unescape ('"' :: s) = some ('"', s) := rfl
  rw [e] at this
  obtain ⟨rfl, rfl⟩ := Prod.mk.inj (Option.some.inj this)
  simp [escape] at h

/-- A string literal can be cut off again. -/
lemma quoteTail_inj : ∀ {cs ds r s : List Char},
    quoteTail cs ++ r = quoteTail ds ++ s → cs = ds ∧ r = s
  | [], [], r, s, h => by
    simp only [quoteTail, List.cons_append, List.nil_append, List.cons.injEq, true_and] at h
    exact ⟨rfl, h⟩
  | [], d :: ds, r, s, h => by
    simp only [quoteTail, List.append_assoc] at h
    exact (escape_ne_quote h.symm).elim
  | c :: cs, [], r, s, h => by
    simp only [quoteTail, List.append_assoc] at h
    exact (escape_ne_quote h).elim
  | c :: cs, d :: ds, r, s, h => by
    simp only [quoteTail, List.append_assoc] at h
    have e := congrArg unescape h
    rw [unescape_escape, unescape_escape] at e
    obtain ⟨rfl, e'⟩ := Prod.mk.inj (Option.some.inj e)
    obtain ⟨rfl, rfl⟩ := quoteTail_inj e'
    exact ⟨rfl, rfl⟩

/-- A quoted text ends where its last quote is. -/
lemma quote_inj {k l : String} {r s : List Char} (h : quote k ++ r = quote l ++ s) :
    k = l ∧ r = s := by
  simp only [quote, List.cons_append, List.cons.injEq, true_and] at h
  obtain ⟨e, rfl⟩ := quoteTail_inj h
  exact ⟨String.toList_injective e, rfl⟩

/-- No character of a number comes next. -/
def Stop (r : List Char) : Prop :=
  ∀ c ∈ r.head?, numberChar c = false

/-- Digits belong to numbers. -/
lemma numberChar_digit {c : Char} (h : c.isDigit = true) : numberChar c = true := by
  rw [numberChar, h, Bool.true_or]

/-- The digits of a number belong to numbers. -/
lemma numberChar_toDigits {n : Nat} : ∀ c ∈ Nat.toDigits 10 n, numberChar c = true :=
  fun _ hc => numberChar_digit (Nat.isDigit_of_mem_toDigits (by decide) (by decide) hc)

/-- The text of a number can be cut off where no number goes on. -/
lemma number_inj {t u r s : List Char} (ht : ∀ c ∈ t, numberChar c = true)
    (hu : ∀ c ∈ u, numberChar c = true) (hr : Stop r) (hs : Stop s) (h : t ++ r = u ++ s) :
    t = u ∧ r = s := by
  have cut (t r : List Char) (ht : ∀ c ∈ t, numberChar c = true) (hr : Stop r) :
      (t ++ r).takeWhile numberChar = t := by
    rw [List.takeWhile_append_of_pos ht]
    cases r with
    | nil => simp
    | cons c r =>
      have : numberChar c = false := hr c rfl
      simp [this]
  have e : t = u := by rw [← cut t r ht hr, ← cut u s hu hs, h]
  subst e
  exact ⟨rfl, List.append_cancel_left h⟩

/-- A number is known by its digits. -/
lemma toDigits_inj {m n : Nat} (h : Nat.toDigits 10 m = Nat.toDigits 10 n) : m = n := by
  rw [← Nat.ofDigitChars_toDigits (b := 10) (n := m) (by decide) (by decide), h,
    Nat.ofDigitChars_toDigits (by decide) (by decide)]

/-- A literal is not the text of a natural number. -/
lemma toDigits_ne_lit {n : Nat} {l : Literal} : Nat.toDigits 10 n ≠ l.text := by
  intro h
  obtain ⟨c, hc, digit⟩ := l.notNat
  rw [← h] at hc
  have := Nat.isDigit_of_mem_toDigits (by decide) (by decide) hc
  rw [digit] at this
  cases this

/-- The kind of a value: the first character of its text, with one name for numbers. -/
def tag : Json → Char
  | null => 'n'
  | bool true => 't'
  | bool false => 'f'
  | num _ => '0'
  | lit _ => '0'
  | str _ => '"'
  | arr _ => '['
  | obj _ => '{'

/-- The kind of the text that a character starts. -/
def tagOf (c : Char) : Char :=
  if numberChar c then '0' else c

/-- A text starts as its kind says. -/
lemma print_head (v : Json) : ∃ c t, print v = c :: t ∧ tagOf c = v.tag := by
  cases v with
  | null => exact ⟨_, _, rfl, rfl⟩
  | bool b => cases b <;> exact ⟨_, _, rfl, rfl⟩
  | num n =>
    cases h : Nat.toDigits 10 n with
    | nil => exact (Nat.toDigits_ne_nil h).elim
    | cons c t =>
      have digit : c.isDigit = true :=
        Nat.isDigit_of_mem_toDigits (n := n) (b := 10) (by decide) (by decide)
          (h ▸ List.mem_cons_self)
      exact ⟨c, t, by rw [print, h], if_pos (numberChar_digit digit)⟩
  | lit l =>
    cases h : l.text with
    | nil =>
      obtain ⟨c, hc, _⟩ := l.notNat
      rw [h] at hc
      cases hc
    | cons c t =>
      have number := l.number c (h ▸ List.mem_cons_self)
      exact ⟨c, t, by rw [print, h], if_pos number⟩
  | str s => exact ⟨_, _, by rw [print, quote], rfl⟩
  | arr xs => cases xs <;> exact ⟨_, _, by rw [print], rfl⟩
  | obj fs => cases fs <;> exact ⟨_, _, by rw [print], rfl⟩

/-- Texts with a common start are of one kind. -/
lemma tag_eq {v w : Json} {r s : List Char} (h : print v ++ r = print w ++ s) : v.tag = w.tag := by
  obtain ⟨c, t, hc, tc⟩ := print_head v
  obtain ⟨d, u, hd, td⟩ := print_head w
  rw [hc, hd, List.cons_append, List.cons_append] at h
  obtain ⟨rfl, _⟩ := List.cons.inj h
  rw [← tc, td]

/-- A value does not start with a closing bracket. -/
lemma print_ne_close {v : Json} {r s : List Char} : print v ++ r ≠ ']' :: s := by
  intro h
  obtain ⟨c, t, hc, tc⟩ := print_head v
  rw [hc, List.cons_append] at h
  obtain ⟨rfl, _⟩ := List.cons.inj h
  cases v with
  | bool b => cases b <;> exact absurd tc (by decide)
  | _ =>
    rw [show tagOf ']' = ']' from rfl] at tc
    exact absurd tc (by simp [tag])

/-- An item ends before the rest of its array. -/
lemma stop_items {xs : List Json} {r : List Char} : Stop (printItems xs ++ r) := by
  cases xs <;> rintro c ⟨⟩ <;> rfl

/-- A field ends before the rest of its object. -/
lemma stop_fields {fs : List (String × Json)} {r : List Char} : Stop (printFields fs ++ r) := by
  cases fs <;> rintro c ⟨⟩ <;> rfl

mutual

/-- A text can be cut off where no number goes on, and determines its value. -/
theorem print_inj : ∀ (v w : Json) {r s : List Char}, Stop r → Stop s →
    print v ++ r = print w ++ s → v = w ∧ r = s
  | v, w, r, s, hr, hs, h => by
    have kind := tag_eq h
    match v, w with
    | null, null => exact ⟨rfl, List.append_cancel_left h⟩
    | bool true, bool true => exact ⟨rfl, List.append_cancel_left h⟩
    | bool false, bool false => exact ⟨rfl, List.append_cancel_left h⟩
    | num m, num n =>
      obtain ⟨e, e'⟩ := number_inj numberChar_toDigits numberChar_toDigits hr hs
        (by simpa only [print] using h)
      exact ⟨congrArg num (toDigits_inj e), e'⟩
    | num m, lit l =>
      obtain ⟨e, _⟩ := number_inj numberChar_toDigits l.number hr hs (by simpa only [print] using h)
      exact (toDigits_ne_lit e).elim
    | lit l, num n =>
      obtain ⟨e, _⟩ := number_inj l.number numberChar_toDigits hr hs (by simpa only [print] using h)
      exact (toDigits_ne_lit e.symm).elim
    | lit ⟨t, ht, _⟩, lit ⟨u, hu, _⟩ =>
      obtain ⟨rfl, e⟩ := number_inj ht hu hr hs (by simpa only [print] using h)
      exact ⟨rfl, e⟩
    | str k, str l =>
      obtain ⟨rfl, e⟩ := quote_inj (by simpa only [print] using h)
      exact ⟨rfl, e⟩
    | arr [], arr [] => exact ⟨rfl, List.append_cancel_left h⟩
    | arr (x :: xs), arr (y :: ys) =>
      simp only [print, List.cons_append, List.append_assoc, List.cons.injEq, true_and] at h
      obtain ⟨rfl, h'⟩ := print_inj x y stop_items stop_items h
      obtain ⟨rfl, e⟩ := printItems_inj xs ys h'
      exact ⟨rfl, e⟩
    | arr [], arr (y :: ys) =>
      simp only [print, List.cons_append, List.append_assoc] at h
      exact (print_ne_close (List.cons.inj h).2.symm).elim
    | arr (x :: xs), arr [] =>
      simp only [print, List.cons_append, List.append_assoc] at h
      exact (print_ne_close (List.cons.inj h).2).elim
    | obj [], obj [] => exact ⟨rfl, List.append_cancel_left h⟩
    | obj (f :: fs), obj (g :: gs) =>
      simp only [print, List.cons_append, List.append_assoc, List.cons.injEq, true_and] at h
      obtain ⟨rfl, h'⟩ := printField_inj f g stop_fields stop_fields h
      obtain ⟨rfl, e⟩ := printFields_inj fs gs h'
      exact ⟨rfl, e⟩
    | obj [], obj ((k, x) :: gs) => simp [print, printField, quote] at h
    | obj ((k, x) :: fs), obj [] => simp [print, printField, quote] at h

/-- The items of an array are known by their text. -/
theorem printItems_inj : ∀ (xs ys : List Json) {r s : List Char},
    printItems xs ++ r = printItems ys ++ s → xs = ys ∧ r = s
  | [], [], r, s, h => ⟨rfl, List.append_cancel_left h⟩
  | x :: xs, y :: ys, r, s, h => by
    simp only [printItems, List.cons_append, List.append_assoc, List.cons.injEq, true_and] at h
    obtain ⟨rfl, h'⟩ := print_inj x y stop_items stop_items h
    obtain ⟨rfl, e⟩ := printItems_inj xs ys h'
    exact ⟨rfl, e⟩
  | [], y :: ys, r, s, h => by simp [printItems] at h
  | x :: xs, [], r, s, h => by simp [printItems] at h

/-- A field is known by its text. -/
theorem printField_inj : ∀ (f g : String × Json) {r s : List Char}, Stop r → Stop s →
    printField f ++ r = printField g ++ s → f = g ∧ r = s
  | (k, v), (l, w), r, s, hr, hs, h => by
    simp only [printField, List.append_assoc, List.cons_append] at h
    obtain ⟨rfl, h'⟩ := quote_inj h
    obtain ⟨rfl, e⟩ := print_inj v w hr hs (List.cons.inj h').2
    exact ⟨rfl, e⟩

/-- The fields of an object are known by their text. -/
theorem printFields_inj : ∀ (fs gs : List (String × Json)) {r s : List Char},
    printFields fs ++ r = printFields gs ++ s → fs = gs ∧ r = s
  | [], [], r, s, h => ⟨rfl, List.append_cancel_left h⟩
  | f :: fs, g :: gs, r, s, h => by
    simp only [printFields, List.cons_append, List.append_assoc, List.cons.injEq, true_and] at h
    obtain ⟨rfl, h'⟩ := printField_inj f g stop_fields stop_fields h
    obtain ⟨rfl, e⟩ := printFields_inj fs gs h'
    exact ⟨rfl, e⟩
  | [], g :: gs, r, s, h => by simp [printFields] at h
  | f :: fs, [], r, s, h => by simp [printFields] at h

end

/-- The encoding of a text determines the text. -/
lemma utf8_inj {cs ds : List Char} (h : utf8 cs = utf8 ds) : cs = ds := by
  have e : cs.utf8Encode = ds.utf8Encode := by
    unfold List.utf8Encode
    exact congrArg List.toByteArray h
  rw [← String.toByteArray_ofList, ← String.toByteArray_ofList, String.toByteArray_inj] at e
  have := congrArg String.toList e
  rwa [String.toList_ofList, String.toList_ofList] at this

/-- The bytes of a value determine the value. -/
theorem bytes_inj {v w : Json} (h : bytes v = bytes w) : v = w := by
  have e := utf8_inj h
  refine (print_inj v w (r := []) (s := []) nofun nofun ?_).1
  rw [List.append_nil, List.append_nil, e]

/-! ## Lengths -/

/-- The length of a string literal. -/
def quoteSize (s : String) : Nat :=
  (utf8 (quote s)).length

mutual

/-- The length of the text of a value. -/
def size : Json → Nat
  | null => 4
  | bool true => 4
  | bool false => 5
  | num n => (Nat.toDigits 10 n).length
  | lit l => l.text.length
  | str s => quoteSize s
  | arr [] => 2
  | arr (x :: xs) => 1 + size x + sizeItems xs
  | obj [] => 2
  | obj ((k, x) :: fs) => 1 + (quoteSize k + 1 + size x) + sizeFields fs

/-- The length of the items after the first one. -/
def sizeItems : List Json → Nat
  | [] => 1
  | x :: xs => 1 + size x + sizeItems xs

/-- The length of the fields after the first one. -/
def sizeFields : List (String × Json) → Nat
  | [] => 1
  | (k, x) :: fs => 1 + (quoteSize k + 1 + size x) + sizeFields fs

end

/-- Nothing has no bytes. -/
@[simp] lemma utf8_nil : utf8 [] = [] :=
  rfl

/-- Bytes of one text after another. -/
@[simp] lemma utf8_append {cs ds : List Char} : utf8 (cs ++ ds) = utf8 cs ++ utf8 ds :=
  List.flatMap_append

/-- An ASCII character is one byte. -/
lemma length_utf8_cons {c : Char} {cs : List Char} (h : c.utf8Size = 1) :
    (utf8 (c :: cs)).length = 1 + (utf8 cs).length := by
  rw [utf8, List.flatMap_cons, List.length_append, String.length_utf8EncodeChar, h]
  rfl

/-- A digit is one byte. -/
lemma utf8Size_digit {c : Char} (h : c.isDigit = true) : c.utf8Size = 1 := by
  have hc : c.val ≤ 0x7f := by
    simp only [Char.isDigit, Bool.and_eq_true, decide_eq_true_eq] at h
    exact UInt32.le_trans h.2 (by decide)
  exact if_pos hc

/-- A character of a number is one byte. -/
lemma utf8Size_number {c : Char} (h : numberChar c = true) : c.utf8Size = 1 := by
  rw [numberChar, Bool.or_eq_true, List.contains_iff_mem] at h
  obtain digit | sign := h
  · exact utf8Size_digit digit
  · have one : ∀ c ∈ "+-.eE".toList, c.utf8Size = 1 := forall_of_all (by decide)
    exact one c sign

/-- A text of one-byte characters has as many bytes. -/
lemma length_utf8_ascii {cs : List Char} (h : ∀ c ∈ cs, c.utf8Size = 1) :
    (utf8 cs).length = cs.length := by
  induction cs with
  | nil => rfl
  | cons c cs ih =>
    rw [length_utf8_cons (h c List.mem_cons_self), List.length_cons,
      ih fun d hd => h d (List.mem_cons_of_mem _ hd), Nat.add_comm]

/-- A printable ASCII character that needs no escape. -/
def Plain (c : Char) : Prop :=
  32 ≤ c.toNat ∧ c.toNat < 127 ∧ c ≠ '"' ∧ c ≠ '\\'

instance (c : Char) : Decidable (Plain c) :=
  inferInstanceAs (Decidable (_ ∧ _ ∧ _ ∧ _))

/-- A plain character is one byte. -/
lemma utf8Size_plain {c : Char} (h : Plain c) : c.utf8Size = 1 := by
  have hc : c.val ≤ 0x7f := UInt32.le_iff_toNat_le.mpr (Nat.le_of_lt h.2.1)
  exact if_pos hc

/-- A plain character needs no escape. -/
lemma escape_plain {c : Char} (h : Plain c) : escape c = [c] := by
  obtain ⟨lo, _, quote, back⟩ := h
  unfold escape
  rw [if_neg quote, if_neg back]
  simp only [show ∀ n, n < 32 → ¬ c.toNat = n from fun n hn => by omega,
    show (8 : Nat) < 32 by decide, show (9 : Nat) < 32 by decide, show (10 : Nat) < 32 by decide,
    show (12 : Nat) < 32 by decide, show (13 : Nat) < 32 by decide, if_false,
    if_neg (Nat.not_lt.mpr lo)]

/-- An escaped character has at most six bytes, and at least one. -/
lemma length_escape (c : Char) : 1 ≤ (utf8 (escape c)).length ∧ (utf8 (escape c)).length ≤ 6 := by
  have ascii : ∀ cs : List Char, cs.length ≤ 6 → cs ≠ [] → (∀ d ∈ cs, d.utf8Size = 1) →
      1 ≤ (utf8 cs).length ∧ (utf8 cs).length ≤ 6 := by
    intro cs short some one
    have e : (utf8 cs).length = cs.length := length_utf8_ascii one
    have := List.length_pos_of_ne_nil some
    omega
  have digit : ∀ n, n < 16 → (hexDigit n).utf8Size = 1 := by decide
  unfold escape
  split_ifs with h1 h2 h3 h4 h5 h6 h7 h8
  · exact ascii _ (by decide) (by decide) (forall_of_all (by decide))
  · exact ascii _ (by decide) (by decide) (forall_of_all (by decide))
  · exact ascii _ (by decide) (by decide) (forall_of_all (by decide))
  · exact ascii _ (by decide) (by decide) (forall_of_all (by decide))
  · exact ascii _ (by decide) (by decide) (forall_of_all (by decide))
  · exact ascii _ (by decide) (by decide) (forall_of_all (by decide))
  · exact ascii _ (by decide) (by decide) (forall_of_all (by decide))
  · refine ascii _ (by simp) (by simp) ?_
    simp only [List.mem_cons, List.not_mem_nil, or_false, forall_eq_or_imp, forall_eq]
    exact ⟨by decide, by decide, by decide, by decide, digit _ (by omega), digit _ (by omega)⟩
  · rw [utf8, List.flatMap_cons, List.flatMap_nil, List.append_nil, String.length_utf8EncodeChar]
    have := c.utf8Size_pos
    have := c.utf8Size_le_four
    omega

/-- The size of a quoted plain text. -/
lemma length_quoteTail_plain {cs : List Char} (h : ∀ c ∈ cs, Plain c) :
    (utf8 (quoteTail cs)).length = cs.length + 1 := by
  induction cs with
  | nil => rfl
  | cons c cs ih =>
    have hc := h c List.mem_cons_self
    rw [quoteTail, escape_plain hc, utf8_append, List.length_append,
      length_utf8_cons (utf8Size_plain hc), ih fun d hd => h d (List.mem_cons_of_mem _ hd)]
    simp only [utf8_nil, List.length_nil, List.length_cons]
    omega

/-- A literal without escapes. -/
lemma quoteSize_plain {s : String} (h : ∀ c ∈ s.toList, Plain c) :
    quoteSize s = s.toList.length + 2 := by
  rw [quoteSize, quote, length_utf8_cons rfl, length_quoteTail_plain h]
  omega

/-- The size of a literal by the number of characters. -/
lemma quoteSize_bounds (s : String) :
    s.toList.length + 2 ≤ quoteSize s ∧ quoteSize s ≤ 6 * s.toList.length + 2 := by
  have tail : ∀ cs : List Char, cs.length + 1 ≤ (utf8 (quoteTail cs)).length ∧
      (utf8 (quoteTail cs)).length ≤ 6 * cs.length + 1 := by
    intro cs
    induction cs with
    | nil => exact ⟨Nat.le_refl _, Nat.le_refl _⟩
    | cons c cs ih =>
      have := length_escape c
      rw [quoteTail, utf8_append, List.length_append, List.length_cons]
      omega
  have := tail s.toList
  rw [quoteSize, quote, length_utf8_cons rfl]
  omega

mutual

/-- The length of a text is the sum of the lengths of its parts. -/
theorem length_bytes : ∀ v : Json, (bytes v).length = size v
  | null => rfl
  | bool true => rfl
  | bool false => rfl
  | num n => length_utf8_ascii fun _ h =>
    utf8Size_digit (Nat.isDigit_of_mem_toDigits (by decide) (by decide) h)
  | lit l => length_utf8_ascii fun c h => utf8Size_number (l.number c h)
  | str _ => by rw [bytes, print, size, quoteSize]
  | arr [] => rfl
  | arr (x :: xs) => by
    have h1 := length_bytes x
    have h2 := length_items xs
    rw [bytes] at h1
    rw [bytes, print, length_utf8_cons rfl, utf8_append, List.length_append, h1, h2, size]
    omega
  | obj [] => rfl
  | obj (f :: fs) => by
    have h1 := length_field f
    have h2 := length_fields fs
    obtain ⟨k, x⟩ := f
    dsimp only at h1
    rw [bytes, print, length_utf8_cons rfl, utf8_append, List.length_append, h1, h2, size]
    omega

/-- The size of the items of an array. -/
theorem length_items : ∀ xs : List Json, (utf8 (printItems xs)).length = sizeItems xs
  | [] => rfl
  | x :: xs => by
    have h1 := length_bytes x
    have h2 := length_items xs
    rw [bytes] at h1
    rw [printItems, length_utf8_cons rfl, utf8_append, List.length_append, h1, h2, sizeItems]
    omega

/-- The size of a field. -/
theorem length_field : ∀ f : String × Json,
    (utf8 (printField f)).length = quoteSize f.1 + 1 + size f.2
  | (k, v) => by
    have h1 := length_bytes v
    rw [bytes] at h1
    rw [printField, utf8_append, List.length_append, length_utf8_cons rfl, h1]
    dsimp only [quoteSize]
    omega

/-- The size of the fields of an object. -/
theorem length_fields : ∀ fs : List (String × Json),
    (utf8 (printFields fs)).length = sizeFields fs
  | [] => rfl
  | (k, v) :: fs => by
    have h1 := length_field (k, v)
    have h2 := length_fields fs
    dsimp only at h1
    rw [printFields, length_utf8_cons rfl, utf8_append, List.length_append, h1, h2, sizeFields]
    omega

end

end Json

end K11CHaos
