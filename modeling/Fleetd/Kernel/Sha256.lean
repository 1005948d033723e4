import Fleetd.Kernel.Text

/-!
# SHA-256

The digest function behind `Sha256`, as the standard defines it: pad the message to whole
blocks of sixteen words, extend each block to sixty-four, and fold the rounds over the
running state. The control plane is stated over any digest; this one is what runs.
-/

namespace Fleetd

namespace Digest

/-- Arithmetic is modulo the size of a word. -/
def wordSize : Nat := 4294967296

/-- Rotation of a word to the right. -/
def rotateRight (n x : Nat) : Nat := (x >>> n) ||| ((x <<< (32 - n)) % wordSize)

/-- Three words combined bit by bit with exclusive or. -/
def xor3 (x y z : Nat) : Nat := (x ^^^ y) ^^^ z

/-- The first thirty-two bits of the fractional parts of the cube roots of the first
sixty-four primes. -/
def roundConstants : List Nat := [
  0x428a2f98, 0x71374491, 0xb5c0fbcf, 0xe9b5dba5, 0x3956c25b, 0x59f111f1, 0x923f82a4, 0xab1c5ed5,
  0xd807aa98, 0x12835b01, 0x243185be, 0x550c7dc3, 0x72be5d74, 0x80deb1fe, 0x9bdc06a7, 0xc19bf174,
  0xe49b69c1, 0xefbe4786, 0x0fc19dc6, 0x240ca1cc, 0x2de92c6f, 0x4a7484aa, 0x5cb0a9dc, 0x76f988da,
  0x983e5152, 0xa831c66d, 0xb00327c8, 0xbf597fc7, 0xc6e00bf3, 0xd5a79147, 0x06ca6351, 0x14292967,
  0x27b70a85, 0x2e1b2138, 0x4d2c6dfc, 0x53380d13, 0x650a7354, 0x766a0abb, 0x81c2c92e, 0x92722c85,
  0xa2bfe8a1, 0xa81a664b, 0xc24b8b70, 0xc76c51a3, 0xd192e819, 0xd6990624, 0xf40e3585, 0x106aa070,
  0x19a4c116, 0x1e376c08, 0x2748774c, 0x34b0bcb5, 0x391c0cb3, 0x4ed8aa4a, 0x5b9cca4f, 0x682e6ff3,
  0x748f82ee, 0x78a5636f, 0x84c87814, 0x8cc70208, 0x90befffa, 0xa4506ceb, 0xbef9a3f7, 0xc67178f2]

/-- The eight working words. -/
structure State where
  a : Nat
  b : Nat
  c : Nat
  d : Nat
  e : Nat
  f : Nat
  g : Nat
  h : Nat
  deriving DecidableEq, Repr

/-- The first thirty-two bits of the fractional parts of the square roots of the first eight
primes. -/
def initial : State :=
  ⟨0x6a09e667, 0xbb67ae85, 0x3c6ef372, 0xa54ff53a, 0x510e527f, 0x9b05688c, 0x1f83d9ab, 0x5be0cd19⟩

/-- One round with its constant and its message word. -/
def round (s : State) (constant word : Nat) : State :=
  let s1 := xor3 (rotateRight 6 s.e) (rotateRight 11 s.e) (rotateRight 25 s.e)
  let choice := (s.e &&& s.f) ^^^ ((wordSize - 1 - s.e) &&& s.g)
  let t1 := (s.h + s1 + choice + constant + word) % wordSize
  let s0 := xor3 (rotateRight 2 s.a) (rotateRight 13 s.a) (rotateRight 22 s.a)
  let majority := xor3 (s.a &&& s.b) (s.a &&& s.c) (s.b &&& s.c)
  let t2 := (s0 + majority) % wordSize
  ⟨(t1 + t2) % wordSize, s.a, s.b, s.c, (s.d + t1) % wordSize, s.e, s.f, s.g⟩

/-- The next word of a schedule, from the last sixteen of them. -/
def nextWord (window : List Nat) : Nat :=
  let w := fun n => window.getD n 0
  let s0 := xor3 (rotateRight 7 (w 1)) (rotateRight 18 (w 1)) (w 1 >>> 3)
  let s1 := xor3 (rotateRight 17 (w 14)) (rotateRight 19 (w 14)) (w 14 >>> 10)
  (w 0 + s0 + w 9 + s1) % wordSize

/-- The rounds of a block, driven by a window of sixteen words that slides along the
schedule. -/
def rounds : List Nat → State → List Nat → State
  | [], s, _ => s
  | constant :: rest, s, window =>
    rounds rest (round s constant (window.headD 0)) (window.tail ++ [nextWord window])

/-- The running state after one block. -/
def compress (s : State) (block : List Nat) : State :=
  let r := rounds roundConstants s block
  ⟨(s.a + r.a) % wordSize, (s.b + r.b) % wordSize, (s.c + r.c) % wordSize, (s.d + r.d) % wordSize,
    (s.e + r.e) % wordSize, (s.f + r.f) % wordSize, (s.g + r.g) % wordSize, (s.h + r.h) % wordSize⟩

/-- The bytes of a value, most significant first. -/
def bytesOf : Nat → Nat → List Nat
  | 0, _ => []
  | n + 1, value => bytesOf n (value / 256) ++ [value % 256]

/-- The message with its padding and its length in bits. -/
def pad (message : List Nat) : List Nat :=
  message ++ [0x80] ++ List.replicate ((119 - message.length % 64) % 64) 0 ++
    bytesOf 8 (8 * message.length)

/-- Bytes read as words. -/
def words : List Nat → List Nat
  | a :: b :: c :: d :: rest => (((a * 256 + b) * 256 + c) * 256 + d) :: words rest
  | _ => []

/-- Words folded into the state, one block of sixteen after the other. -/
def absorb : Nat → State → List Nat → State
  | 0, s, _ => s
  | blocks + 1, s, ws => absorb blocks (compress s (ws.take 16)) (ws.drop 16)

/-- One hexadecimal digit. -/
def hexDigit (n : Nat) : Char := hexDigits.getD n '0'

/-- A word in eight hexadecimal digits. -/
def hexWord (word : Nat) : List Char :=
  (bytesOf 4 word).flatMap fun byte => [hexDigit (byte / 16), hexDigit (byte % 16)]

/-- The lower-case hexadecimal digest of some bytes. -/
def sha256 (message : List UInt8) : String :=
  let ws := words (pad (message.map UInt8.toNat))
  let s := absorb (ws.length / 16) initial ws
  String.ofList ([s.a, s.b, s.c, s.d, s.e, s.f, s.g, s.h].flatMap hexWord)

set_option maxRecDepth 100000 in
example : sha256 (utf8Bytes "abc") =
    "ba7816bf8f01cfea414140de5dae2223b00361a396177a9cb410ff61f20015ad" := by decide +kernel

/-- Every digit is one of the hexadecimal ones. -/
theorem hexDigit_mem (n : Nat) : hexDigit n ∈ hexDigits := by
  by_cases hn : n < hexDigits.length
  · rw [hexDigit, List.getD_eq_getElem?_getD, List.getElem?_eq_getElem hn]
    exact List.getElem_mem hn
  · rw [hexDigit, List.getD_eq_getElem?_getD, List.getElem?_eq_none (by omega)]
    decide

/-- The number of bytes does not depend on the value. -/
theorem length_bytesOf (n value : Nat) : (bytesOf n value).length = n := by
  induction n generalizing value with
  | zero => rfl
  | succ n ih => rw [bytesOf, List.length_append, ih, List.length_singleton]

/-- A word has eight digits. -/
theorem length_hexWord (word : Nat) : (hexWord word).length = 8 := by
  rw [hexWord, List.length_flatMap]
  change ((bytesOf 4 word).map fun _ => 2).sum = 8
  rw [List.map_eq_replicate_iff.mpr fun _ _ => rfl, length_bytesOf]
  rfl

/-- The digits of a word. -/
theorem hexWord_subset (word : Nat) : hexWord word ⊆ hexDigits := by
  intro c hc
  obtain ⟨byte, _, hc⟩ := List.mem_flatMap.mp hc
  simp only [List.mem_cons, List.not_mem_nil, or_false] at hc
  rcases hc with rfl | rfl
  · exact hexDigit_mem _
  · exact hexDigit_mem _

end Digest

instance : Sha256 := ⟨Digest.sha256⟩

instance : LawfulSha256 where
  length bytes := by
    simp only [Sha256.hexDigest, Digest.sha256, String.toList_ofList, List.flatMap_cons,
      List.flatMap_nil, List.length_append, Digest.length_hexWord, List.length_nil]
  digits bytes c hc := by
    simp only [Sha256.hexDigest, Digest.sha256, String.toList_ofList] at hc
    obtain ⟨word, _, hc⟩ := List.mem_flatMap.mp hc
    exact Digest.hexWord_subset word hc

end Fleetd
