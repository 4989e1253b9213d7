/-
Module: BairuiPlatform.Foundations.Sha256
Purpose: SHA-256 of bytes, and of the UTF-8 bytes of a text, in hexadecimal.
Trusted boundary: human-reviewed constants
Main exports: sha256Bytes, sha256
-/
import Mathlib.Algebra.Group.Nat.Defs
import Mathlib.Data.List.GetD

namespace BairuiPlatform.Foundations

namespace Sha256

/-- The number of values of a 32-bit word. -/
def wordSize : Nat := 4294967296

/-- A word rotated to the right. -/
def rotateRight (count word : Nat) : Nat :=
  (word >>> count ||| word <<< (32 - count)) % wordSize

/-- The eight working words. -/
structure State where
  a : Nat
  b : Nat
  c : Nat
  d : Nat
  e : Nat
  f : Nat
  g : Nat
  h : Nat

/-- The initial hash value. -/
def initial : State :=
  { a := 0x6a09e667, b := 0xbb67ae85, c := 0x3c6ef372, d := 0xa54ff53a
    e := 0x510e527f, f := 0x9b05688c, g := 0x1f83d9ab, h := 0x5be0cd19 }

/-- The round constants. -/
def constants : List Nat :=
  [0x428a2f98, 0x71374491, 0xb5c0fbcf, 0xe9b5dba5, 0x3956c25b, 0x59f111f1, 0x923f82a4,
    0xab1c5ed5, 0xd807aa98, 0x12835b01, 0x243185be, 0x550c7dc3, 0x72be5d74, 0x80deb1fe,
    0x9bdc06a7, 0xc19bf174, 0xe49b69c1, 0xefbe4786, 0x0fc19dc6, 0x240ca1cc, 0x2de92c6f,
    0x4a7484aa, 0x5cb0a9dc, 0x76f988da, 0x983e5152, 0xa831c66d, 0xb00327c8, 0xbf597fc7,
    0xc6e00bf3, 0xd5a79147, 0x06ca6351, 0x14292967, 0x27b70a85, 0x2e1b2138, 0x4d2c6dfc,
    0x53380d13, 0x650a7354, 0x766a0abb, 0x81c2c92e, 0x92722c85, 0xa2bfe8a1, 0xa81a664b,
    0xc24b8b70, 0xc76c51a3, 0xd192e819, 0xd6990624, 0xf40e3585, 0x106aa070, 0x19a4c116,
    0x1e376c08, 0x2748774c, 0x34b0bcb5, 0x391c0cb3, 0x4ed8aa4a, 0x5b9cca4f, 0x682e6ff3,
    0x748f82ee, 0x78a5636f, 0x84c87814, 0x8cc70208, 0x90befffa, 0xa4506ceb, 0xbef9a3f7,
    0xc67178f2]

/-- The value of a function at a number. The number is evaluated first, so that an
evaluation does not carry it along as a term. -/
def strictly {α : Type} (number : Nat) (next : Nat → α) : α :=
  match number with
  | 0 => next 0
  | previous + 1 => next (previous + 1)

example {α : Type} (number : Nat) (next : Nat → α) : strictly number next = next number := by
  cases number <;> rfl

/-- One round, with its constant and its word of the message schedule. -/
def State.round {α : Type} (state : State) (constant word : Nat) (next : State → α) : α :=
  match state with
  | { a, b, c, d, e, f, g, h } =>
    let sigma1 := rotateRight 6 e ^^^ rotateRight 11 e ^^^ rotateRight 25 e
    let choice := (e &&& f) ^^^ ((e ^^^ (wordSize - 1)) &&& g)
    let sigma0 := rotateRight 2 a ^^^ rotateRight 13 a ^^^ rotateRight 22 a
    let majority := (a &&& b) ^^^ (a &&& c) ^^^ (b &&& c)
    strictly (h + sigma1 + choice + constant + word) fun first =>
    strictly ((first + (sigma0 + majority)) % wordSize) fun newA =>
    strictly ((d + first) % wordSize) fun newE =>
    next { a := newA, b := a, c := b, d := c, e := newE, f := e, g := f, h := g }

/-- A word of a number that packs words, counted from the last one. -/
def wordAt (place packed : Nat) : Nat :=
  (packed >>> (32 * place)) % wordSize

/-- The window of the message schedule after its next word: sixteen words, packed. -/
def advance (window : Nat) : Nat :=
  strictly (wordAt 14 window) fun early => strictly (wordAt 1 window) fun late =>
  let sigma0 := rotateRight 7 early ^^^ rotateRight 18 early ^^^ (early >>> 3)
  let sigma1 := rotateRight 17 late ^^^ rotateRight 19 late ^^^ (late >>> 10)
  (window <<< 32) % (wordSize ^ 16) +
    (sigma1 + wordAt 6 window + sigma0 + wordAt 15 window) % wordSize

/-- The rounds of one block. -/
def rounds {α : Type} (next : State → α) : List Nat → Nat → State → α
  | [], _, state => next state
  | constant :: rest, window, state =>
      state.round constant (wordAt 15 window) fun state =>
        strictly (advance window) fun window => rounds next rest window state

/-- The hash value after a block. -/
def State.add (state block : State) : State :=
  { a := (state.a + block.a) % wordSize, b := (state.b + block.b) % wordSize
    c := (state.c + block.c) % wordSize, d := (state.d + block.d) % wordSize
    e := (state.e + block.e) % wordSize, f := (state.f + block.f) % wordSize
    g := (state.g + block.g) % wordSize, h := (state.h + block.h) % wordSize }

/-- The hash value after the last blocks of a message. -/
def blocks (message : Nat) : Nat → State → State
  | 0, state => state
  | count + 1, state =>
      strictly ((message >>> (512 * count)) % (wordSize ^ 16)) fun block =>
      rounds (fun after => blocks message count (state.add after)) constants block state

/-- The UTF-8 bytes of a character. -/
def utf8 (c : Char) : List Nat :=
  let code := c.toNat
  if code < 128 then [code]
  else if code < 2048 then [192 + code / 64, 128 + code % 64]
  else if code < 65536 then [224 + code / 4096, 128 + code / 64 % 64, 128 + code % 64]
  else [240 + code / 262144, 128 + code / 4096 % 64, 128 + code / 64 % 64, 128 + code % 64]

/-- Bytes after a number, as one number. -/
def packed : List Nat → Nat → Nat
  | [], number => number
  | byte :: bytes, number => strictly (number * 256 + byte) fun number => packed bytes number

/-- The eight hexadecimal digits of a word. -/
def hexWord (word : Nat) : List Char :=
  [28, 24, 20, 16, 12, 8, 4, 0].map fun shift =>
    ("0123456789abcdef".toList).getD ((word >>> shift) % 16) '0'

end Sha256

open Sha256 in
/-- `createHash("sha256").update(bytes).digest("hex")`. -/
def sha256Bytes (bytes : List Nat) : String :=
  -- A single bit, zeros up to a multiple of 512 bits, and the number of bits.
  let zeros := (119 - bytes.length % 64) % 64
  let message := (((packed bytes 0 <<< 8) + 128) <<< (8 * zeros + 64)) + 8 * bytes.length
  let hash := strictly message fun message =>
    blocks message ((bytes.length + zeros + 9) / 64) initial
  String.ofList ([hash.a, hash.b, hash.c, hash.d, hash.e, hash.f, hash.g, hash.h].flatMap hexWord)

/-- `createHash("sha256").update(text).digest("hex")`, from the characters of the text. -/
def sha256 (text : List Char) : String :=
  sha256Bytes (text.flatMap Sha256.utf8)

example : sha256 ['a', 'b', 'c'] =
    "ba7816bf8f01cfea414140de5dae2223b00361a396177a9cb410ff61f20015ad" := by
  decide +kernel

theorem Sha256.mem_hexWord {word : Nat} {c : Char} (member : c ∈ Sha256.hexWord word) :
    c ∈ "0123456789abcdef".toList := by
  unfold Sha256.hexWord at member
  obtain ⟨shift, -, rfl⟩ := List.mem_map.mp member
  have small : (word >>> shift) % 16 < "0123456789abcdef".toList.length :=
    Nat.mod_lt _ (by decide)
  rw [List.getD_eq_getElem _ _ small]
  exact List.getElem_mem small

/-- A digest is written in hexadecimal digits. -/
theorem mem_sha256Bytes {bytes : List Nat} {c : Char} (member : c ∈ (sha256Bytes bytes).toList) :
    c ∈ "0123456789abcdef".toList := by
  unfold sha256Bytes at member
  rw [String.toList_ofList] at member
  obtain ⟨word, -, digit⟩ := List.mem_flatMap.mp member
  exact Sha256.mem_hexWord digit

theorem length_sha256Bytes (bytes : List Nat) : (sha256Bytes bytes).toList.length = 64 := by
  unfold sha256Bytes
  rw [String.toList_ofList]
  rfl

end BairuiPlatform.Foundations
