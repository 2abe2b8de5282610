import Mathlib

/-!
# SHA-256

The message digest of FIPS 180-4, on lists of bytes: padding to whole blocks, the message
schedule, the 64 rounds of the compression function, and the eight words of the result in
big-endian order. Everything is structural recursion on the message, so a digest of a given
message can be computed by the kernel.
-/
namespace Sha256

/-- The round constants. -/
def roundConstants : List UInt32 :=
  [0x428a2f98, 0x71374491, 0xb5c0fbcf, 0xe9b5dba5, 0x3956c25b, 0x59f111f1,
    0x923f82a4, 0xab1c5ed5, 0xd807aa98, 0x12835b01, 0x243185be, 0x550c7dc3,
    0x72be5d74, 0x80deb1fe, 0x9bdc06a7, 0xc19bf174, 0xe49b69c1, 0xefbe4786,
    0x0fc19dc6, 0x240ca1cc, 0x2de92c6f, 0x4a7484aa, 0x5cb0a9dc, 0x76f988da,
    0x983e5152, 0xa831c66d, 0xb00327c8, 0xbf597fc7, 0xc6e00bf3, 0xd5a79147,
    0x06ca6351, 0x14292967, 0x27b70a85, 0x2e1b2138, 0x4d2c6dfc, 0x53380d13,
    0x650a7354, 0x766a0abb, 0x81c2c92e, 0x92722c85, 0xa2bfe8a1, 0xa81a664b,
    0xc24b8b70, 0xc76c51a3, 0xd192e819, 0xd6990624, 0xf40e3585, 0x106aa070,
    0x19a4c116, 0x1e376c08, 0x2748774c, 0x34b0bcb5, 0x391c0cb3, 0x4ed8aa4a,
    0x5b9cca4f, 0x682e6ff3, 0x748f82ee, 0x78a5636f, 0x84c87814, 0x8cc70208,
    0x90befffa, 0xa4506ceb, 0xbef9a3f7, 0xc67178f2]

/-- The eight working variables. -/
structure State where
  /-- Variables of the compression function, in the order of the standard. -/
  (a b c d e f g h : UInt32)

/-- The initial hash value. -/
def initial : State :=
  ⟨0x6a09e667, 0xbb67ae85, 0x3c6ef372, 0xa54ff53a, 0x510e527f, 0x9b05688c, 0x1f83d9ab,
    0x5be0cd19⟩

/-- Rotation to the right. -/
def rotateRight (word : UInt32) (count : UInt32) : UInt32 :=
  (word >>> count) ||| (word <<< (32 - count))

/-- One bit set, zeros up to eight bytes before a block boundary, and the length in bits. -/
def pad (message : List UInt8) : List UInt8 :=
  message ++ 0x80 :: List.replicate ((119 - message.length % 64) % 64) 0 ++
    (List.range 8).map fun index => UInt8.ofNat (message.length * 8 / 256 ^ (7 - index))

/-- Bytes as big-endian words; the last bytes of an incomplete word are dropped. -/
def words : List UInt8 → List UInt32
  | first :: second :: third :: fourth :: rest =>
    ((first.toUInt32 <<< 24) ||| (second.toUInt32 <<< 16) ||| (third.toUInt32 <<< 8) |||
      fourth.toUInt32) :: words rest
  | _ => []

/-- Extend the message schedule, kept newest first, by a number of words. -/
def extend : Nat → List UInt32 → List UInt32
  | 0, schedule => schedule
  | count + 1, schedule =>
    let fifteen := schedule.getD 14 0
    let two := schedule.getD 1 0
    let low := rotateRight fifteen 7 ^^^ rotateRight fifteen 18 ^^^ (fifteen >>> 3)
    let high := rotateRight two 17 ^^^ rotateRight two 19 ^^^ (two >>> 10)
    extend count ((schedule.getD 15 0 + low + schedule.getD 6 0 + high) :: schedule)

/-- One round, with its constant and its word of the schedule. -/
def round (state : State) (constant word : UInt32) : State :=
  let high := rotateRight state.e 6 ^^^ rotateRight state.e 11 ^^^ rotateRight state.e 25
  let choice := (state.e &&& state.f) ^^^ ((~~~state.e) &&& state.g)
  let first := state.h + high + choice + constant + word
  let low := rotateRight state.a 2 ^^^ rotateRight state.a 13 ^^^ rotateRight state.a 22
  let majority := (state.a &&& state.b) ^^^ (state.a &&& state.c) ^^^ (state.b &&& state.c)
  ⟨first + (low + majority), state.a, state.b, state.c, state.d + first, state.e, state.f,
    state.g⟩

/-- Compress one block of sixteen words into the hash value. -/
def compress (state : State) (block : List UInt32) : State :=
  let schedule := (extend 48 block.reverse).reverse
  let last := (roundConstants.zip schedule).foldl (fun state pair => round state pair.1 pair.2)
    state
  ⟨state.a + last.a, state.b + last.b, state.c + last.c, state.d + last.d, state.e + last.e,
    state.f + last.f, state.g + last.g, state.h + last.h⟩

/-- Compress a number of blocks in order. -/
def compressAll : Nat → State → List UInt32 → State
  | 0, state, _ => state
  | count + 1, state, message =>
    compressAll count (compress state (message.take 16)) (message.drop 16)

/-- The four bytes of a word, high byte first. -/
def bytes (word : UInt32) : Vector UInt8 4 :=
  #v[(word >>> 24).toUInt8, (word >>> 16).toUInt8, (word >>> 8).toUInt8, word.toUInt8]

/-- The digest: always 32 bytes. -/
def digest (message : List UInt8) : Vector UInt8 32 :=
  let padded := words (pad message)
  let state := compressAll (padded.length / 16) initial padded
  bytes state.a ++ bytes state.b ++ bytes state.c ++ bytes state.d ++ bytes state.e ++
    bytes state.f ++ bytes state.g ++ bytes state.h

end Sha256
