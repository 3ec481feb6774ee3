import K11CHaos.Lib.Float64
import K11CHaos.Lib.KeyMap
import Mathlib.Data.String.Basic

/-!
# JSON as Go writes it

`json.Marshal` of the value that `json.Unmarshal` reads: numbers pass through a 64-bit float, objects
become maps and are written in the order of their keys, and `<`, `>`, `&` and the two line separators
are escaped in addition to what every writer escapes. A sorted value comes out as it went in exactly
when nothing in it is `Shared` differently: no text holds one of these characters and every number is
written as its float is (`goPrint_eq_iff`).
-/

namespace K11CHaos
open Json (print printItems printField printFields quote quoteTail escape Stop hexDigit)

/-- A character that only Go escapes. -/
def goSpecial (c : Char) : Bool :=
  c == '<' || c == '>' || c == '&' || c.toNat == 0x2028 || c.toNat == 0x2029

/-- A character of a string literal. -/
def goEscape (c : Char) : List Char :=
  if goSpecial c then
    ['\\', 'u', hexDigit (c.toNat / 4096 % 16), hexDigit (c.toNat / 256 % 16),
      hexDigit (c.toNat / 16 % 16), hexDigit (c.toNat % 16)]
  else escape c

/-- The rest of a string literal after its opening quote. -/
def goQuoteTail : List Char → List Char
  | [] => ['"']
  | c :: cs => goEscape c ++ goQuoteTail cs

/-- A string literal. -/
def goQuote (s : String) : List Char :=
  '"' :: goQuoteTail s.toList

/-- The fields after the first one, and the closing brace. -/
def goTail : List (String × List Char) → List Char
  | [] => ['}']
  | (k, t) :: fs => ',' :: (goQuote k ++ ':' :: (t ++ goTail fs))

/-- An object of written fields. -/
def goObject : List (String × List Char) → List Char
  | [] => ['{', '}']
  | (k, t) :: fs => '{' :: (goQuote k ++ ':' :: (t ++ goTail fs))

mutual

/-- The text of a value that was read; nothing where a number is too large to be read. -/
def goPrint : Json → Option (List Char)
  | .null => some "null".toList
  | .bool true => some "true".toList
  | .bool false => some "false".toList
  | .num n => Float64.reformat (Nat.toDigits 10 n)
  | .lit l => Float64.reformat l.text
  | .str s => some (goQuote s)
  | .arr [] => some ['[', ']']
  | .arr (x :: xs) => do
    let t ← goPrint x
    let ts ← goItems xs
    return '[' :: (t ++ ts)
  | .obj fs => do
    let ts ← goFields fs
    return goObject (KeyMap.ofPairs ts)

/-- The items after the first one, and the closing bracket. -/
def goItems : List Json → Option (List Char)
  | [] => some [']']
  | x :: xs => do
    let t ← goPrint x
    let ts ← goItems xs
    return ',' :: (t ++ ts)

/-- The fields with their values written. -/
def goFields : List (String × Json) → Option (List (String × List Char))
  | [] => some []
  | (k, x) :: fs => do
    let t ← goPrint x
    let ts ← goFields fs
    return (k, t) :: ts

end

mutual

/-- Every object is sorted by its keys, as the maps of `serde_json` are. -/
def Json.Sorted : Json → Prop
  | .arr xs => sortedItems xs
  | .obj fs => KeyMap.Sorted fs ∧ sortedFields fs
  | _ => True

def sortedItems : List Json → Prop
  | [] => True
  | x :: xs => x.Sorted ∧ sortedItems xs

def sortedFields : List (String × Json) → Prop
  | [] => True
  | (_, x) :: fs => x.Sorted ∧ sortedFields fs

end

/-- A text without a character that only Go escapes. -/
def PlainText (s : String) : Prop :=
  ∀ c ∈ s.toList, goSpecial c = false

instance (s : String) : Decidable (PlainText s) :=
  decidable_of_iff (s.toList.all (!goSpecial ·) = true) (by simp [PlainText])

mutual

/-- Both writers agree on every text and every number of a value. -/
def Shared : Json → Prop
  | .num n => Float64.reformat (Nat.toDigits 10 n) = some (Nat.toDigits 10 n)
  | .lit l => Float64.reformat l.text = some l.text
  | .str s => PlainText s
  | .arr xs => sharedItems xs
  | .obj fs => sharedFields fs
  | _ => True

def sharedItems : List Json → Prop
  | [] => True
  | x :: xs => Shared x ∧ sharedItems xs

def sharedFields : List (String × Json) → Prop
  | [] => True
  | (k, x) :: fs => PlainText k ∧ Shared x ∧ sharedFields fs

end

/-! ## Where both writers agree -/

/-- A plain text is quoted alike. -/
lemma goQuote_plain {s : String} (plain : PlainText s) : goQuote s = quote s := by
  have tail : ∀ cs : List Char, (∀ c ∈ cs, goSpecial c = false) → goQuoteTail cs = quoteTail cs := by
    intro cs h
    induction cs with
    | nil => rfl
    | cons c cs ih =>
      have hc : goEscape c = escape c := by
        rw [goEscape, h c List.mem_cons_self]
        rfl
      rw [goQuoteTail, quoteTail, hc, ih fun d hd => h d (List.mem_cons_of_mem _ hd)]
  rw [goQuote, quote, tail _ plain]

/-- The fields keep their keys. -/
lemma goFields_keys {fs : List (String × Json)} {ts : List (String × List Char)}
    (h : goFields fs = some ts) : ts.map Prod.fst = fs.map Prod.fst := by
  induction fs generalizing ts with
  | nil =>
    cases h
    rfl
  | cons f fs ih =>
    simp only [goFields, Option.bind_eq_bind, Option.bind_eq_some_iff] at h
    obtain ⟨t, _, ts', h', e⟩ := h
    cases e
    rw [List.map_cons, List.map_cons, ih h']

/-- The text of the fields after the first one, where both writers agree on each. -/
lemma goTail_print {fs : List (String × Json)} (shared : sharedFields fs) :
    goTail (fs.map fun f => (f.1, print f.2)) = printFields fs := by
  induction fs with
  | nil => rfl
  | cons f fs ih =>
    rw [List.map_cons, goTail, goQuote_plain shared.1, ih shared.2.2, printFields, printField,
      List.append_assoc, List.cons_append]

/-- An object is written alike when its fields are. -/
lemma goObject_print {fs : List (String × Json)} (shared : sharedFields fs) :
    goObject (fs.map fun f => (f.1, print f.2)) = print (.obj fs) := by
  cases fs with
  | nil => rfl
  | cons f fs =>
    rw [List.map_cons, goObject, goQuote_plain shared.1, goTail_print shared.2.2, print, printField,
      List.append_assoc, List.cons_append]

mutual

/-- A shared value comes out as it went in. -/
theorem goPrint_shared : ∀ v : Json, v.Sorted → Shared v → goPrint v = some (print v)
  | .null, _, _ => rfl
  | .bool true, _, _ => rfl
  | .bool false, _, _ => rfl
  | .num n, _, h => h
  | .lit l, _, h => h
  | .str s, _, h => by rw [goPrint, goQuote_plain h, print]
  | .arr [], _, _ => rfl
  | .arr (x :: xs), sorted, h => by
    rw [goPrint, goPrint_shared x sorted.1 h.1, goItems_shared xs sorted.2 h.2]
    rfl
  | .obj fs, sorted, h => by
    have keyed : KeyMap.Sorted (fs.map fun f => (f.1, print f.2)) :=
      sorted.1.congr (by rw [List.map_map]; rfl)
    rw [goPrint, goFields_shared fs sorted.2 h, Option.bind_eq_bind, Option.bind_some,
      KeyMap.ofPairs_sorted keyed, goObject_print h]
    rfl

/-- The items of an array that both write alike. -/
theorem goItems_shared : ∀ xs : List Json, sortedItems xs → sharedItems xs →
    goItems xs = some (printItems xs)
  | [], _, _ => rfl
  | x :: xs, sorted, h => by
    rw [goItems, goPrint_shared x sorted.1 h.1, goItems_shared xs sorted.2 h.2]
    rfl

/-- The fields of an object that both write alike. -/
theorem goFields_shared : ∀ fs : List (String × Json), sortedFields fs → sharedFields fs →
    goFields fs = some (fs.map fun f => (f.1, print f.2))
  | [], _, _ => rfl
  | (k, x) :: fs, sorted, h => by
    rw [goFields, goPrint_shared x sorted.1 h.2.1, goFields_shared fs sorted.2 h.2.2]
    rfl

end

/-! ## Where they do not -/

/-- A literal of Go is one of `serde_json` only if it holds no special character. -/
lemma goQuote_inj {k : String} {r s : List Char} (h : goQuote k ++ r = quote k ++ s) :
    PlainText k ∧ r = s := by
  have tail : ∀ cs : List Char, goQuoteTail cs ++ r = quoteTail cs ++ s →
      (∀ c ∈ cs, goSpecial c = false) ∧ r = s := by
    intro cs h
    induction cs with
    | nil => exact ⟨nofun, List.append_cancel_left h⟩
    | cons c cs ih =>
      rw [goQuoteTail, quoteTail, List.append_assoc, List.append_assoc, goEscape] at h
      cases special : goSpecial c with
      | true =>
        -- Go's text goes on with a backslash, the other one with the character itself
        exfalso
        rw [if_pos special] at h
        have here : escape c = [c] := by
          simp only [goSpecial, Bool.or_eq_true, beq_iff_eq] at special
          obtain (((rfl | rfl) | rfl) | e) | e := special
          · rfl
          · rfl
          · rfl
          · rw [Json.char_eq_of_toNat (d := Char.ofNat 0x2028) e]
            rfl
          · rw [Json.char_eq_of_toNat (d := Char.ofNat 0x2029) e]
            rfl
        rw [here, List.singleton_append, List.cons_append] at h
        have e := (List.cons.inj h).1
        rw [← e] at special
        exact absurd special (by decide)
      | false =>
        rw [if_neg (by rw [special]; decide)] at h
        obtain ⟨rest, e⟩ := ih (List.append_cancel_left h)
        exact ⟨List.forall_mem_cons.mpr ⟨special, rest⟩, e⟩
  exact tail k.toList (List.cons.inj h).2

/-- An item ends before the rest of its array. -/
lemma stop_goItems {xs : List Json} {t r : List Char} (h : goItems xs = some t) : Stop (t ++ r) := by
  cases xs with
  | nil =>
    cases h
    rintro c ⟨⟩
    rfl
  | cons x xs =>
    simp only [goItems, Option.bind_eq_bind, Option.bind_eq_some_iff] at h
    obtain ⟨_, _, _, _, e⟩ := h
    cases e
    rintro c ⟨⟩
    rfl

/-- A field ends before the rest of its object. -/
lemma stop_goTail {fs : List (String × List Char)} {r : List Char} : Stop (goTail fs ++ r) := by
  cases fs <;> rintro c ⟨⟩ <;> rfl

mutual

/-- Where the text of Go starts as the text of the value, both writers agree on the value. -/
theorem goPrint_inj : ∀ (v : Json) {t r s : List Char}, v.Sorted → goPrint v = some t →
    Stop r → Stop s → t ++ r = print v ++ s → Shared v ∧ r = s
  | .null, t, r, s, _, ht, _, _, h => by
    cases ht
    exact ⟨trivial, List.append_cancel_left h⟩
  | .bool true, t, r, s, _, ht, _, _, h => by
    cases ht
    exact ⟨trivial, List.append_cancel_left h⟩
  | .bool false, t, r, s, _, ht, _, _, h => by
    cases ht
    exact ⟨trivial, List.append_cancel_left h⟩
  | .num n, t, r, s, _, ht, hr, hs, h => by
    obtain ⟨rfl, e⟩ := Json.number_inj (Float64.reformat_number ht) Json.numberChar_toDigits hr hs
      (by simpa only [print] using h)
    exact ⟨ht, e⟩
  | .lit l, t, r, s, _, ht, hr, hs, h => by
    obtain ⟨rfl, e⟩ := Json.number_inj (Float64.reformat_number ht) l.number hr hs
      (by simpa only [print] using h)
    exact ⟨ht, e⟩
  | .str k, t, r, s, _, ht, _, _, h => by
    cases ht
    exact goQuote_inj (by simpa only [print] using h)
  | .arr [], t, r, s, _, ht, _, _, h => by
    cases ht
    exact ⟨trivial, List.append_cancel_left h⟩
  | .arr (x :: xs), t, r, s, sorted, ht, _, _, h => by
    simp only [goPrint, Option.bind_eq_bind, Option.bind_eq_some_iff] at ht
    obtain ⟨u, hu, us, hus, e⟩ := ht
    cases e
    simp only [print, List.cons_append, List.append_assoc, List.cons.injEq, true_and] at h
    obtain ⟨hx, h'⟩ := goPrint_inj x sorted.1 hu (stop_goItems hus) Json.stop_items h
    obtain ⟨hxs, e⟩ := goItems_inj xs sorted.2 hus h'
    exact ⟨⟨hx, hxs⟩, e⟩
  | .obj fs, t, r, s, sorted, ht, _, _, h => by
    simp only [goPrint, Option.bind_eq_bind, Option.bind_eq_some_iff] at ht
    obtain ⟨ts, hts, e⟩ := ht
    cases e
    rw [KeyMap.ofPairs_sorted (sorted.1.congr (goFields_keys hts))] at h
    match fs, hts with
    | [], hts =>
      cases hts
      exact ⟨trivial, List.append_cancel_left h⟩
    | (k, x) :: fs, hts =>
      simp only [goFields, Option.bind_eq_bind, Option.bind_eq_some_iff] at hts
      obtain ⟨u, hu, us, hus, e⟩ := hts
      cases e
      simp only [goObject, print, printField, List.cons_append, List.append_assoc, List.cons.injEq,
        true_and] at h
      obtain ⟨plain, h'⟩ := goQuote_inj h
      obtain ⟨hx, h''⟩ := goPrint_inj x sorted.2.1 hu stop_goTail Json.stop_fields
        (List.cons.inj h').2
      obtain ⟨hfs, e⟩ := goFields_inj fs sorted.2.2 hus h''
      exact ⟨⟨plain, hx, hfs⟩, e⟩

/-- Items with the same text are written alike. -/
theorem goItems_inj : ∀ (xs : List Json) {t r s : List Char}, sortedItems xs →
    goItems xs = some t → t ++ r = printItems xs ++ s → sharedItems xs ∧ r = s
  | [], t, r, s, _, ht, h => by
    cases ht
    exact ⟨trivial, List.append_cancel_left h⟩
  | x :: xs, t, r, s, sorted, ht, h => by
    simp only [goItems, Option.bind_eq_bind, Option.bind_eq_some_iff] at ht
    obtain ⟨u, hu, us, hus, e⟩ := ht
    cases e
    simp only [printItems, List.cons_append, List.append_assoc, List.cons.injEq, true_and] at h
    obtain ⟨hx, h'⟩ := goPrint_inj x sorted.1 hu (stop_goItems hus) Json.stop_items h
    obtain ⟨hxs, e⟩ := goItems_inj xs sorted.2 hus h'
    exact ⟨⟨hx, hxs⟩, e⟩

/-- Fields with the same text are written alike. -/
theorem goFields_inj : ∀ (fs : List (String × Json)) {ts : List (String × List Char)}
    {r s : List Char}, sortedFields fs → goFields fs = some ts →
    goTail ts ++ r = printFields fs ++ s → sharedFields fs ∧ r = s
  | [], ts, r, s, _, ht, h => by
    cases ht
    exact ⟨trivial, List.append_cancel_left h⟩
  | (k, x) :: fs, ts, r, s, sorted, ht, h => by
    simp only [goFields, Option.bind_eq_bind, Option.bind_eq_some_iff] at ht
    obtain ⟨u, hu, us, hus, e⟩ := ht
    cases e
    simp only [goTail, printFields, printField, List.cons_append, List.append_assoc,
      List.cons.injEq, true_and] at h
    obtain ⟨plain, h'⟩ := goQuote_inj h
    obtain ⟨hx, h''⟩ := goPrint_inj x sorted.1 hu stop_goTail Json.stop_fields (List.cons.inj h').2
    obtain ⟨hfs, e⟩ := goFields_inj fs sorted.2 hus h''
    exact ⟨⟨plain, hx, hfs⟩, e⟩

end

/-- Go writes a sorted value as `serde_json` does exactly when the value is shared. -/
theorem goPrint_eq_iff {v : Json} (sorted : v.Sorted) :
    goPrint v = some (print v) ↔ Shared v := by
  constructor
  · intro h
    exact (goPrint_inj v sorted h (r := []) (s := []) nofun nofun rfl).1
  · exact goPrint_shared v sorted

end K11CHaos
