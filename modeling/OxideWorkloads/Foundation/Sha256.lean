/-
SHA-256 on byte lists, so that statements about an arbitrary digest can be
evaluated at the real one.
-/

import Mathlib.Data.Vector.Defs

namespace Foundation
namespace Sha256

/-- The first 32 bits of the fractional parts of the cube roots of the first
64 primes. -/
def roundConstants : List UInt32 :=
  [0x428a2f98, 0x71374491, 0xb5c0fbcf, 0xe9b5dba5, 0x3956c25b, 0x59f111f1,
    0x923f82a4, 0xab1c5ed5, 0xd807aa98, 0x12835b01, 0x243185be, 0x550c7dc3,
    0x72be5d74, 0x80deb1fe, 0x9bdc06a7, 0xc19bf174, 0xe49b69c1, 0xefbe4786,
    0x0fc19dc6, 0x240ca1cc, 0x2de92c6f, 0x4a7484aa, 0x5cb0a9dc, 0x76f988da,
    0x983e5152, 0xa831c66d, 0xb00327c8, 0xbf597fc7, 0xc6e00bf3, 0xd5a79147,
    0x06ca6351, 0x14292967, 0x27b70a85, 0x2e1b2138, 0x4d2c6dfc, 0x53380d13,
    0x650a7354, 0x766a0abb, 0x81c2c92e, 0x92722c85, 0xa2bfe8a1, 0xa81a664b,
    0xc24b8b70, 0xc76c51a3, 0xd192e819, 0xd6990624, 0xf40e3585, 0x106aa070,
    0x19a4c116, 0x1e376c08, 0x2748774c, 0x34b0bcb5, 0x391c0cb3, 0x4ed8aa4a,
    0x5b9cca4f, 0x682e6ff3, 0x748f82ee, 0x78a5636f, 0x84c87814, 0x8cc70208,
    0x90befffa, 0xa4506ceb, 0xbef9a3f7, 0xc67178f2]

/-- The eight working words. -/
structure Words where
  a : UInt32
  b : UInt32
  c : UInt32
  d : UInt32
  e : UInt32
  f : UInt32
  g : UInt32
  h : UInt32

def initial : Words :=
  { a := 0x6a09e667
    b := 0xbb67ae85
    c := 0x3c6ef372
    d := 0xa54ff53a
    e := 0x510e527f
    f := 0x9b05688c
    g := 0x1f83d9ab
    h := 0x5be0cd19 }

def rotateRight (word count : UInt32) : UInt32 :=
  word >>> count ||| word <<< (32 - count)

def roundStep (words : Words) (input : UInt32 × UInt32) : Words :=
  let sum1 := rotateRight words.e 6 ^^^ rotateRight words.e 11 ^^^
    rotateRight words.e 25
  let choice := (words.e &&& words.f) ^^^ (~~~words.e &&& words.g)
  let first := words.h + sum1 + choice + input.1 + input.2
  let sum0 := rotateRight words.a 2 ^^^ rotateRight words.a 13 ^^^
    rotateRight words.a 22
  let majority := (words.a &&& words.b) ^^^ (words.a &&& words.c) ^^^
    (words.b &&& words.c)
  { a := first + (sum0 + majority)
    b := words.a
    c := words.b
    d := words.c
    e := words.d + first
    f := words.e
    g := words.f
    h := words.g }

/-- Extend the message schedule, newest word first. -/
def extend : Nat → List UInt32 → List UInt32
  | 0, schedule => schedule
  | count + 1, schedule =>
      let back := fun distance => schedule.getD (distance - 1) 0
      let low := rotateRight (back 15) 7 ^^^ rotateRight (back 15) 18 ^^^
        back 15 >>> 3
      let high := rotateRight (back 2) 17 ^^^ rotateRight (back 2) 19 ^^^
        back 2 >>> 10
      extend count ((back 16 + low + back 7 + high) :: schedule)

def compress (words : Words) (block : List UInt32) : Words :=
  let schedule := (extend 48 block.reverse).reverse
  let last := (roundConstants.zip schedule).foldl roundStep words
  { a := words.a + last.a
    b := words.b + last.b
    c := words.c + last.c
    d := words.d + last.d
    e := words.e + last.e
    f := words.f + last.f
    g := words.g + last.g
    h := words.h + last.h }

/-- A number in big-endian bytes. -/
def bigEndian (width value : Nat) : List UInt8 :=
  ((List.range width).map (fun index =>
    UInt8.ofNat (value >>> (8 * index)))).reverse

/-- The message, a one bit, zeros and the length in bits. -/
def padded (message : List UInt8) : List UInt8 :=
  message ++ 0x80 :: (List.replicate ((119 - message.length % 64) % 64) 0 ++
    bigEndian 8 (8 * message.length))

def toWord (bytes : List UInt8) : UInt32 :=
  bytes.foldl (fun word byte => word <<< 8 ||| byte.toUInt32) 0

/-- Cut a list into pieces of one size; `fuel` bounds their number. -/
def pieces {α : Type} (size : Nat) : Nat → List α → List (List α)
  | 0, _ => []
  | fuel + 1, items =>
      if items = [] then []
      else items.take size :: pieces size fuel (items.drop size)

def words (words : Words) : List UInt32 :=
  [words.a, words.b, words.c, words.d, words.e, words.f, words.g, words.h]

def digestWords (message : List UInt8) : Words :=
  let bytes := padded message
  (pieces 64 bytes.length bytes).foldl (fun current block =>
    compress current ((pieces 4 16 block).map toWord)) initial

/-- The digest of a message. -/
def digest (message : List UInt8) : Vector UInt8 32 :=
  let final := digestWords message
  ⟨((words final).flatMap (fun word => bigEndian 4 word.toNat)).toArray, by
    simp [words, bigEndian]⟩

example : (digest [0x61, 0x62, 0x63]).toList.take 4 =
    [0xba, 0x78, 0x16, 0xbf] := by decide +kernel

end Sha256
end Foundation
