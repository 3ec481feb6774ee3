import Mathlib.Tactic.Common
import K11CHaos.Lib.Bytes

/-!
# SHA-256

The hash function of byte strings and its lower-case hexadecimal text, `hashBytes`. Nothing below
this file looks inside it but for the shape of the text (`hashBytes_hex`): 64 characters, each a
digit or one of `a` to `f`.
-/

namespace K11CHaos

namespace Sha256

/-- The round constants. -/
def roundConstants : List UInt32 :=
  [0x428a2f98, 0x71374491, 0xb5c0fbcf, 0xe9b5dba5, 0x3956c25b, 0x59f111f1, 0x923f82a4, 0xab1c5ed5,
    0xd807aa98, 0x12835b01, 0x243185be, 0x550c7dc3, 0x72be5d74, 0x80deb1fe, 0x9bdc06a7, 0xc19bf174,
    0xe49b69c1, 0xefbe4786, 0x0fc19dc6, 0x240ca1cc, 0x2de92c6f, 0x4a7484aa, 0x5cb0a9dc, 0x76f988da,
    0x983e5152, 0xa831c66d, 0xb00327c8, 0xbf597fc7, 0xc6e00bf3, 0xd5a79147, 0x06ca6351, 0x14292967,
    0x27b70a85, 0x2e1b2138, 0x4d2c6dfc, 0x53380d13, 0x650a7354, 0x766a0abb, 0x81c2c92e, 0x92722c85,
    0xa2bfe8a1, 0xa81a664b, 0xc24b8b70, 0xc76c51a3, 0xd192e819, 0xd6990624, 0xf40e3585, 0x106aa070,
    0x19a4c116, 0x1e376c08, 0x2748774c, 0x34b0bcb5, 0x391c0cb3, 0x4ed8aa4a, 0x5b9cca4f, 0x682e6ff3,
    0x748f82ee, 0x78a5636f, 0x84c87814, 0x8cc70208, 0x90befffa, 0xa4506ceb, 0xbef9a3f7, 0xc67178f2]

/-- The chaining value. -/
structure State where
  a : UInt32
  b : UInt32
  c : UInt32
  d : UInt32
  e : UInt32
  f : UInt32
  g : UInt32
  h : UInt32

/-- The initial chaining value. -/
def initial : State :=
  ⟨0x6a09e667, 0xbb67ae85, 0x3c6ef372, 0xa54ff53a, 0x510e527f, 0x9b05688c, 0x1f83d9ab, 0x5be0cd19⟩

/-- Rotation to the right. -/
def rotr (x : UInt32) (n : UInt32) : UInt32 :=
  (x >>> n) ||| (x <<< (32 - n))

/-- A big-endian word. -/
def word (b : Bytes) : UInt32 :=
  b.foldl (fun w x => (w <<< 8) ||| x.toUInt32) 0

/-- The message words of a block. -/
def words (block : Bytes) : List UInt32 :=
  (List.range 16).map fun i => word (slice block (4 * i) 4)

/-- The next word of the message schedule from the last sixteen, oldest first. -/
def nextWord (w : List UInt32) : UInt32 :=
  let w0 := w.getD 0 0
  let w1 := w.getD 1 0
  let w9 := w.getD 9 0
  let w14 := w.getD 14 0
  let s0 := rotr w1 7 ^^^ rotr w1 18 ^^^ (w1 >>> 3)
  let s1 := rotr w14 17 ^^^ rotr w14 19 ^^^ (w14 >>> 10)
  w0 + s0 + w9 + s1

/-- One round with a constant and a schedule word. -/
def round (s : State) (k w : UInt32) : State :=
  let s1 := rotr s.e 6 ^^^ rotr s.e 11 ^^^ rotr s.e 25
  let ch := (s.e &&& s.f) ^^^ (~~~ s.e &&& s.g)
  let t1 := s.h + s1 + ch + k + w
  let s0 := rotr s.a 2 ^^^ rotr s.a 13 ^^^ rotr s.a 22
  let maj := (s.a &&& s.b) ^^^ (s.a &&& s.c) ^^^ (s.b &&& s.c)
  ⟨t1 + (s0 + maj), s.a, s.b, s.c, s.d + t1, s.e, s.f, s.g⟩

/-- The rounds with the given constants, over the window of the last sixteen words. -/
def rounds : List UInt32 → List UInt32 → State → State
  | [], _, s => s
  | k :: ks, w, s => rounds ks (w.drop 1 ++ [nextWord w]) (round s k (w.getD 0 0))

/-- The compression of one block. -/
def compress (s : State) (block : Bytes) : State :=
  let t := rounds roundConstants (words block) s
  ⟨s.a + t.a, s.b + t.b, s.c + t.c, s.d + t.d, s.e + t.e, s.f + t.f, s.g + t.g, s.h + t.h⟩

/-- The message with its terminator and its length in bits. -/
def padded (b : Bytes) : Bytes :=
  b ++ [0x80] ++ zeros ((119 - b.length % 64) % 64) ++ (toLe 8 (8 * b.length)).reverse

/-- The compression of `n` blocks. -/
def absorb : Nat → Bytes → State → State
  | 0, _, s => s
  | n + 1, b, s => absorb n (b.drop 64) (compress s (b.take 64))

/-- The bytes of a word, big-endian. -/
def wordBytes (w : UInt32) : Bytes :=
  (toLe 4 w.toNat).reverse

/-- The digest. -/
def digest (b : Bytes) : Bytes :=
  let p := padded b
  let s := absorb (p.length / 64) p initial
  [s.a, s.b, s.c, s.d, s.e, s.f, s.g, s.h].flatMap wordBytes

/-- A digest is 32 bytes. -/
lemma length_digest {b : Bytes} : (digest b).length = 32 := by
  simp [digest, wordBytes]

end Sha256

/-- The lower-case hexadecimal digits. -/
def hexDigits : List Char :=
  "0123456789abcdef".toList

/-- The hexadecimal characters of a byte string. -/
def hexChars (b : Bytes) : List Char :=
  b.flatMap fun x => [hexDigits.getD (x.toNat / 16) '0', hexDigits.getD (x.toNat % 16) '0']

/-- `fn hash_bytes`: the digest in lower-case hexadecimal. -/
def hashBytes (b : Bytes) : String :=
  String.ofList (hexChars (Sha256.digest b))

/-- 64 lower-case hexadecimal digits. -/
def IsHex64 (s : String) : Prop :=
  s.toList.length = 64 ∧ ∀ c ∈ s.toList, c ∈ hexDigits

instance (s : String) : Decidable (IsHex64 s) :=
  decidable_of_iff (s.toList.length = 64 ∧ s.toList.all (· ∈ hexDigits) = true)
    (by simp [IsHex64])

/-- A byte has two digits. -/
lemma length_hexChars {b : Bytes} : (hexChars b).length = 2 * b.length := by
  induction b with
  | nil => rfl
  | cons x b ih =>
    simp only [hexChars, List.flatMap_cons, List.length_append, List.length_cons,
      List.length_nil] at ih ⊢
    omega

/-- Bytes are written with hexadecimal digits. -/
lemma hexChars_mem {b : Bytes} : ∀ c ∈ hexChars b, c ∈ hexDigits := by
  have pick (n : Nat) : hexDigits.getD n '0' ∈ hexDigits := by
    rw [List.getD_eq_getElem?_getD]
    cases h : hexDigits[n]? with
    | none => decide
    | some c => exact List.mem_of_getElem? h
  intro c hc
  obtain ⟨x, _, hx⟩ := List.mem_flatMap.mp hc
  simp only [List.mem_cons, List.not_mem_nil, or_false] at hx
  obtain rfl | rfl := hx <;> exact pick _

/-- The text of a digest. -/
lemma hashBytes_hex (b : Bytes) : IsHex64 (hashBytes b) := by
  refine ⟨?_, ?_⟩
  · rw [hashBytes, String.toList_ofList, length_hexChars, Sha256.length_digest]
  · rw [hashBytes, String.toList_ofList]
    exact hexChars_mem

example : hashBytes [] = "e3b0c44298fc1c149afbf4c8996fb92427ae41e4649b934ca495991b7852b855" := by
  decide +kernel

attribute [irreducible] Sha256.digest

end K11CHaos
