import Mathlib.Data.Set.Function
import QuantumAnalytics.Foundations.PyText

/-!
# SHA-256

The digest of a text, `hashlib.sha256(text.encode("utf-8")).hexdigest()`, as
FIPS 180-4 defines it. Words are natural numbers below `2 ^ 32`; the arithmetic
is written with the functions on `Nat` that the kernel evaluates on literals.

Proofs about the program use only that a digest consists of 64 lower-case
hexadecimal digits. Results that rest on different texts having different
digests say so, for the texts that the run in question hashes.
-/

namespace QuantumAnalytics
namespace Sha256

/-- The number of words. -/
def wordCount : Nat := 0x100000000

/-- A word written twice in a row: shifting it rotates the word. -/
def doubled (x : Nat) : Nat := Nat.mul x 0x100000001

/-- Addition of words. -/
def addWord (x y : Nat) : Nat := Nat.mod (Nat.add x y) wordCount

/-- The exclusive or of two rotations and a third word. -/
def mix (x first second third : Nat) : Nat :=
  Nat.xor
    (Nat.mod (Nat.xor (Nat.shiftRight (doubled x) first) (Nat.shiftRight (doubled x) second))
      wordCount)
    third

/-- A rotation to the right. -/
def rotate (x count : Nat) : Nat := Nat.mod (Nat.shiftRight (doubled x) count) wordCount

/-- `Σ₀`. -/
def bigSigma0 (x : Nat) : Nat := mix x 2 13 (rotate x 22)

/-- `Σ₁`. -/
def bigSigma1 (x : Nat) : Nat := mix x 6 11 (rotate x 25)

/-- `σ₀`. -/
def smallSigma0 (x : Nat) : Nat := mix x 7 18 (Nat.shiftRight x 3)

/-- `σ₁`. -/
def smallSigma1 (x : Nat) : Nat := mix x 17 19 (Nat.shiftRight x 10)

/-- `Ch`. -/
def choose (x y z : Nat) : Nat := Nat.xor z (Nat.land x (Nat.xor y z))

/-- `Maj`. -/
def majority (x y z : Nat) : Nat := Nat.lor (Nat.land x y) (Nat.land z (Nat.lor x y))

/-- The eight working words. -/
structure State where
  /-- The word `a`. -/
  a : Nat
  /-- The word `b`. -/
  b : Nat
  /-- The word `c`. -/
  c : Nat
  /-- The word `d`. -/
  d : Nat
  /-- The word `e`. -/
  e : Nat
  /-- The word `f`. -/
  f : Nat
  /-- The word `g`. -/
  g : Nat
  /-- The word `h`. -/
  h : Nat

/-- The initial hash value. -/
def initial : State where
  a := 0x6a09e667
  b := 0xbb67ae85
  c := 0x3c6ef372
  d := 0xa54ff53a
  e := 0x510e527f
  f := 0x9b05688c
  g := 0x1f83d9ab
  h := 0x5be0cd19

/-- The round constants. -/
def roundConstants : List Nat :=
  [0x428a2f98, 0x71374491, 0xb5c0fbcf, 0xe9b5dba5, 0x3956c25b, 0x59f111f1, 0x923f82a4, 0xab1c5ed5,
    0xd807aa98, 0x12835b01, 0x243185be, 0x550c7dc3, 0x72be5d74, 0x80deb1fe, 0x9bdc06a7, 0xc19bf174,
    0xe49b69c1, 0xefbe4786, 0x0fc19dc6, 0x240ca1cc, 0x2de92c6f, 0x4a7484aa, 0x5cb0a9dc, 0x76f988da,
    0x983e5152, 0xa831c66d, 0xb00327c8, 0xbf597fc7, 0xc6e00bf3, 0xd5a79147, 0x06ca6351, 0x14292967,
    0x27b70a85, 0x2e1b2138, 0x4d2c6dfc, 0x53380d13, 0x650a7354, 0x766a0abb, 0x81c2c92e, 0x92722c85,
    0xa2bfe8a1, 0xa81a664b, 0xc24b8b70, 0xc76c51a3, 0xd192e819, 0xd6990624, 0xf40e3585, 0x106aa070,
    0x19a4c116, 0x1e376c08, 0x2748774c, 0x34b0bcb5, 0x391c0cb3, 0x4ed8aa4a, 0x5b9cca4f, 0x682e6ff3,
    0x748f82ee, 0x78a5636f, 0x84c87814, 0x8cc70208, 0x90befffa, 0xa4506ceb, 0xbef9a3f7, 0xc67178f2]

/-- One round with its constant and its word of the message schedule. -/
def round (constant word : Nat) (state : State) : State :=
  let first := Nat.add (Nat.add (Nat.add (Nat.add state.h (bigSigma1 state.e))
    (choose state.e state.f state.g)) constant) word
  let second := Nat.add (bigSigma0 state.a) (majority state.a state.b state.c)
  { a := addWord first second
    b := state.a
    c := state.b
    d := state.c
    e := addWord state.d first
    f := state.e
    g := state.f
    h := state.g }

/-- The next word of the message schedule after the last sixteen. -/
def nextWord (words : List Nat) : Nat :=
  addWord (Nat.add (smallSigma1 (words.getD 14 0)) (words.getD 9 0))
    (Nat.add (smallSigma0 (words.getD 1 0)) (words.headD 0))

/-- The rounds, over a window of sixteen words of the message schedule. -/
def rounds : List Nat → List Nat → State → State
  | [], _, state => state
  | constant :: constants, words, state =>
      rounds constants (words.tail ++ [nextWord words]) (round constant (words.headD 0) state)

/-- Consecutive pieces of a list, with the length of the list as fuel. -/
def pieces (size : Nat) : Nat → List Nat → List (List Nat)
  | 0, _ => []
  | fuel + 1, items =>
      if items.isEmpty then [] else items.take size :: pieces size fuel (items.drop size)

/-- A big-endian number. -/
def ofBytes (bytes : List Nat) : Nat := bytes.foldl (fun total byte => 256 * total + byte) 0

/-- One block of 64 bytes. -/
def compress (state : State) (block : List Nat) : State :=
  let result := rounds roundConstants ((pieces 4 16 block).map ofBytes) state
  { a := addWord state.a result.a
    b := addWord state.b result.b
    c := addWord state.c result.c
    d := addWord state.d result.d
    e := addWord state.e result.e
    f := addWord state.f result.f
    g := addWord state.g result.g
    h := addWord state.h result.h }

/-- The message with its padding and its length in bits. -/
def padded (message : List Nat) : List Nat :=
  let bits := 8 * message.length
  message ++ 0x80 :: (List.replicate ((119 - message.length % 64) % 64) 0 ++
    (List.range 8).map fun index => bits / 256 ^ (7 - index) % 256)

/-- The eight hexadecimal digits of a word. -/
def hexWord (word : Nat) : List Char :=
  (List.range 8).map fun index => Nat.digitChar (word / 16 ^ (7 - index) % 16)

/-- The digest of a message as hexadecimal text. -/
def hexOfBytes (message : List Nat) : List Char :=
  let blocks := padded message
  let final := (pieces 64 blocks.length blocks).foldl compress initial
  [final.a, final.b, final.c, final.d, final.e, final.f, final.g, final.h].flatMap hexWord

/-- `hashlib.sha256(payload).hexdigest()`. -/
def hexdigestOfBytes (payload : List UInt8) : String :=
  String.ofList (hexOfBytes (payload.map UInt8.toNat))

/-- `hashlib.sha256(text.encode("utf-8")).hexdigest()`. -/
def hexdigest (text : String) : String := hexdigestOfBytes text.toByteArray.data.toList

/-- The digest of a text given by its characters. -/
def hexdigestOfChars (text : List Char) : String :=
  hexdigestOfBytes (text.flatMap String.utf8EncodeChar)

theorem hexdigestOfChars_eq (text : List Char) :
    hexdigestOfChars text = hexdigest (String.ofList text) := by
  unfold hexdigestOfChars hexdigest
  rw [String.toByteArray_ofList, List.utf8Encode, List.toList_data_toByteArray]

example : hexdigest "abc" = "ba7816bf8f01cfea414140de5dae2223b00361a396177a9cb410ff61f20015ad" := by
  decide +kernel

/-- A hexadecimal digit of a digest. -/
private theorem digitChar_isHex {n : Nat} (small : n < 16) :
    PyText.isHexChar (Nat.digitChar n) = true := by
  revert n
  decide

/-- A digest consists of 64 hexadecimal digits. -/
theorem isHexDigest_hexdigestOfBytes (payload : List UInt8) :
    PyText.isHexDigest (hexdigestOfBytes payload) = true := by
  have wordLength : ∀ word, (hexWord word).length = 8 := by
    intro word
    simp [hexWord]
  have wordHex : ∀ word, ∀ c ∈ hexWord word, PyText.isHexChar c = true := by
    intro word c present
    obtain ⟨index, _, rfl⟩ := List.mem_map.mp present
    exact digitChar_isHex (Nat.mod_lt _ (by decide))
  simp only [PyText.isHexDigest, hexdigestOfBytes, String.toList_ofList, hexOfBytes, List.flatMap_cons,
    List.flatMap_nil, List.append_nil, List.length_append, wordLength, Bool.and_eq_true,
    List.all_eq_true]
  refine ⟨rfl, ?_⟩
  intro c present
  simp only [List.mem_append] at present
  rcases present with h | h | h | h | h | h | h | h <;> exact wordHex _ c h

theorem isHexDigest_hexdigest (text : String) : PyText.isHexDigest (hexdigest text) = true :=
  isHexDigest_hexdigestOfBytes _

/-- Different texts of a collection have different digests. -/
def CollisionFree (texts : Set String) : Prop := Set.InjOn hexdigest texts

end Sha256
end QuantumAnalytics
