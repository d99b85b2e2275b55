import Mathlib

/-! # SHA-1 and SHA-256

`hashlib.sha1(text.encode("utf-8")).hexdigest()` on natural numbers: the message is padded to blocks
of 64 bytes, each block is expanded to 80 words and mixed into five 32-bit state words. SHA-256 pads
in the same way, expands a block to 64 words and has eight state words.
-/

namespace ReconcileFlow

namespace Sha1

def rotateLeft (count word : ℕ) : ℕ := (word <<< count ||| word >>> (32 - count)) % 2 ^ 32

/-- The bytes of a number, most significant first. -/
def bigEndian (width value : ℕ) : List ℕ :=
  (List.range width).reverse.map fun i => value >>> (8 * i) % 256

/-- The word made of some bytes, most significant first. -/
def ofBytes (bytes : List ℕ) : ℕ := bytes.foldl (fun word byte => word * 256 + byte) 0

/-- The first `count` chunks of a list. -/
def chunks (size : ℕ) : ℕ → List ℕ → List (List ℕ)
  | 0, _ => []
  | count + 1, items => items.take size :: chunks size count (items.drop size)

def pad (message : List ℕ) : List ℕ :=
  message ++ 128 :: List.replicate ((119 - message.length % 64) % 64) 0 ++
    bigEndian 8 (8 * message.length)

/-- The 80 words of a block; the list grows at its front. -/
def schedule (block : List ℕ) : List ℕ :=
  let words := ((chunks 4 16 block).map ofBytes).reverse
  ((List.range 64).foldl (fun recent _ =>
    rotateLeft 1 (recent[2]! ^^^ recent[7]! ^^^ recent[13]! ^^^ recent[15]!) :: recent) words).reverse

structure Words where
  a : ℕ
  b : ℕ
  c : ℕ
  d : ℕ
  e : ℕ

/-- The round function and constant of a round. -/
def mix (words : Words) (round : ℕ) : ℕ × ℕ :=
  let ⟨_, b, c, d, _⟩ := words
  if round < 20 then ((b &&& c) ||| ((b ^^^ (2 ^ 32 - 1)) &&& d), 0x5A827999)
  else if round < 40 then (b ^^^ c ^^^ d, 0x6ED9EBA1)
  else if round < 60 then ((b &&& c) ||| (b &&& d) ||| (c &&& d), 0x8F1BBCDC)
  else (b ^^^ c ^^^ d, 0xCA62C1D6)

def step (words : Words) (scheduled : ℕ × ℕ) : Words :=
  let mixed := mix words scheduled.2
  { a := (rotateLeft 5 words.a + mixed.1 + words.e + mixed.2 + scheduled.1) % 2 ^ 32
    b := words.a
    c := rotateLeft 30 words.b
    d := words.c
    e := words.d }

def block (words : Words) (bytes : List ℕ) : Words :=
  let mixed := (schedule bytes).zipIdx.foldl step words
  { a := (words.a + mixed.a) % 2 ^ 32
    b := (words.b + mixed.b) % 2 ^ 32
    c := (words.c + mixed.c) % 2 ^ 32
    d := (words.d + mixed.d) % 2 ^ 32
    e := (words.e + mixed.e) % 2 ^ 32 }

def initial : Words := ⟨0x67452301, 0xEFCDAB89, 0x98BADCFE, 0x10325476, 0xC3D2E1F0⟩

end Sha1

open Sha1 in
/-- The hexadecimal SHA-1 digest of a text. -/
@[irreducible] def sha1Hex (text : String) : String :=
  let message := text.toList.flatMap fun c => (String.utf8EncodeChar c).map UInt8.toNat
  let bytes := pad message
  let words := (chunks 64 (bytes.length / 64) bytes).foldl block initial
  String.ofList <| ([words.a, words.b, words.c, words.d, words.e].flatMap (bigEndian 4)).flatMap
    fun byte => [Nat.digitChar (byte / 16), Nat.digitChar (byte % 16)]

example : sha1Hex "abc" = "a9993e364706816aba3e25717850c26c9cd0d89d" := by decide +kernel

namespace Sha256

open Sha1 (bigEndian ofBytes chunks pad)

def rotateRight (count word : ℕ) : ℕ := (word >>> count ||| word <<< (32 - count)) % 2 ^ 32

/-- The constants of the 64 rounds. -/
def constants : List ℕ :=
  [0x428A2F98, 0x71374491, 0xB5C0FBCF, 0xE9B5DBA5, 0x3956C25B, 0x59F111F1, 0x923F82A4,
    0xAB1C5ED5, 0xD807AA98, 0x12835B01, 0x243185BE, 0x550C7DC3, 0x72BE5D74, 0x80DEB1FE,
    0x9BDC06A7, 0xC19BF174, 0xE49B69C1, 0xEFBE4786, 0x0FC19DC6, 0x240CA1CC, 0x2DE92C6F,
    0x4A7484AA, 0x5CB0A9DC, 0x76F988DA, 0x983E5152, 0xA831C66D, 0xB00327C8, 0xBF597FC7,
    0xC6E00BF3, 0xD5A79147, 0x06CA6351, 0x14292967, 0x27B70A85, 0x2E1B2138, 0x4D2C6DFC,
    0x53380D13, 0x650A7354, 0x766A0ABB, 0x81C2C92E, 0x92722C85, 0xA2BFE8A1, 0xA81A664B,
    0xC24B8B70, 0xC76C51A3, 0xD192E819, 0xD6990624, 0xF40E3585, 0x106AA070, 0x19A4C116,
    0x1E376C08, 0x2748774C, 0x34B0BCB5, 0x391C0CB3, 0x4ED8AA4A, 0x5B9CCA4F, 0x682E6FF3,
    0x748F82EE, 0x78A5636F, 0x84C87814, 0x8CC70208, 0x90BEFFFA, 0xA4506CEB, 0xBEF9A3F7,
    0xC67178F2]

/-- The 64 words of a block; the list grows at its front. -/
def schedule (block : List ℕ) : List ℕ :=
  let words := ((chunks 4 16 block).map ofBytes).reverse
  ((List.range 48).foldl (fun recent _ =>
    let near := recent[1]!
    let far := recent[14]!
    let mixNear := rotateRight 17 near ^^^ rotateRight 19 near ^^^ near >>> 10
    let mixFar := rotateRight 7 far ^^^ rotateRight 18 far ^^^ far >>> 3
    (mixNear + recent[6]! + mixFar + recent[15]!) % 2 ^ 32 :: recent) words).reverse

structure Words where
  a : ℕ
  b : ℕ
  c : ℕ
  d : ℕ
  e : ℕ
  f : ℕ
  g : ℕ
  h : ℕ

/-- One round on a scheduled word and the constant of the round. -/
def step (words : Words) (scheduled : ℕ × ℕ) : Words :=
  let ⟨a, b, c, d, e, f, g, h⟩ := words
  let choice := (e &&& f) ^^^ ((e ^^^ (2 ^ 32 - 1)) &&& g)
  let majority := (a &&& b) ^^^ (a &&& c) ^^^ (b &&& c)
  let added := h + (rotateRight 6 e ^^^ rotateRight 11 e ^^^ rotateRight 25 e) + choice +
    scheduled.2 + scheduled.1
  let mixed := (rotateRight 2 a ^^^ rotateRight 13 a ^^^ rotateRight 22 a) + majority
  ⟨(added + mixed) % 2 ^ 32, a, b, c, (d + added) % 2 ^ 32, e, f, g⟩

def Words.toList (words : Words) : List ℕ :=
  [words.a, words.b, words.c, words.d, words.e, words.f, words.g, words.h]

def block (words : Words) (bytes : List ℕ) : Words :=
  let mixed := ((schedule bytes).zip constants).foldl step words
  { a := (words.a + mixed.a) % 2 ^ 32
    b := (words.b + mixed.b) % 2 ^ 32
    c := (words.c + mixed.c) % 2 ^ 32
    d := (words.d + mixed.d) % 2 ^ 32
    e := (words.e + mixed.e) % 2 ^ 32
    f := (words.f + mixed.f) % 2 ^ 32
    g := (words.g + mixed.g) % 2 ^ 32
    h := (words.h + mixed.h) % 2 ^ 32 }

def initial : Words :=
  ⟨0x6A09E667, 0xBB67AE85, 0x3C6EF372, 0xA54FF53A, 0x510E527F, 0x9B05688C,
    0x1F83D9AB, 0x5BE0CD19⟩

end Sha256

open Sha1 Sha256 in
/-- The hexadecimal SHA-256 digest of a byte string. -/
@[irreducible] def sha256Hex (message : List UInt8) : String :=
  let bytes := pad (message.map UInt8.toNat)
  let words := (chunks 64 (bytes.length / 64) bytes).foldl Sha256.block Sha256.initial
  String.ofList <| (words.toList.flatMap (bigEndian 4)).flatMap
    fun byte => [Nat.digitChar (byte / 16), Nat.digitChar (byte % 16)]

example : sha256Hex [97, 98, 99] =
    "ba7816bf8f01cfea414140de5dae2223b00361a396177a9cb410ff61f20015ad" := by decide +kernel

end ReconcileFlow
