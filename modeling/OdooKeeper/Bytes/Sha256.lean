import OdooKeeper.Bytes

/-! # SHA-256

The secure hash algorithm with a 256-bit digest. -/

namespace OdooKeeper.Bytes.Sha256

/-! ## Constants -/

/-- One word for each round: the fraction bits of the cube roots of the first 64 primes. -/
def roundWords : List UInt32 :=
  [0x428a2f98, 0x71374491, 0xb5c0fbcf, 0xe9b5dba5, 0x3956c25b, 0x59f111f1, 0x923f82a4, 0xab1c5ed5,
   0xd807aa98, 0x12835b01, 0x243185be, 0x550c7dc3, 0x72be5d74, 0x80deb1fe, 0x9bdc06a7, 0xc19bf174,
   0xe49b69c1, 0xefbe4786, 0x0fc19dc6, 0x240ca1cc, 0x2de92c6f, 0x4a7484aa, 0x5cb0a9dc, 0x76f988da,
   0x983e5152, 0xa831c66d, 0xb00327c8, 0xbf597fc7, 0xc6e00bf3, 0xd5a79147, 0x06ca6351, 0x14292967,
   0x27b70a85, 0x2e1b2138, 0x4d2c6dfc, 0x53380d13, 0x650a7354, 0x766a0abb, 0x81c2c92e, 0x92722c85,
   0xa2bfe8a1, 0xa81a664b, 0xc24b8b70, 0xc76c51a3, 0xd192e819, 0xd6990624, 0xf40e3585, 0x106aa070,
   0x19a4c116, 0x1e376c08, 0x2748774c, 0x34b0bcb5, 0x391c0cb3, 0x4ed8aa4a, 0x5b9cca4f, 0x682e6ff3,
   0x748f82ee, 0x78a5636f, 0x84c87814, 0x8cc70208, 0x90befffa, 0xa4506ceb, 0xbef9a3f7, 0xc67178f2]

structure Chain where
  a : UInt32
  b : UInt32
  c : UInt32
  d : UInt32
  e : UInt32
  f : UInt32
  g : UInt32
  h : UInt32

/-- Fraction bits of the square roots of the first eight primes. -/
def Chain.start : Chain :=
  ⟨0x6a09e667, 0xbb67ae85, 0x3c6ef372, 0xa54ff53a, 0x510e527f, 0x9b05688c, 0x1f83d9ab, 0x5be0cd19⟩

/-! ## One block -/

def rotate (x : UInt32) (n : UInt32) : UInt32 := (x >>> n) ||| (x <<< (32 - n))

/-- The words of the schedule in reverse order, extended `count` times. -/
def extend (newestFirst : List UInt32) : Nat → List UInt32
  | 0 => newestFirst
  | count + 1 =>
    let ago (n : Nat) : UInt32 := newestFirst.getD (n - 1) 0
    let s0 := rotate (ago 15) 7 ^^^ rotate (ago 15) 18 ^^^ (ago 15 >>> 3)
    let s1 := rotate (ago 2) 17 ^^^ rotate (ago 2) 19 ^^^ (ago 2 >>> 10)
    extend ((ago 16 + s0 + ago 7 + s1) :: newestFirst) count

/-- One round with a round word and a schedule word. -/
def Chain.round (v : Chain) (k w : UInt32) : Chain :=
  let s1 := rotate v.e 6 ^^^ rotate v.e 11 ^^^ rotate v.e 25
  let choice := (v.e &&& v.f) ^^^ (~~~v.e &&& v.g)
  let t1 := v.h + s1 + choice + k + w
  let s0 := rotate v.a 2 ^^^ rotate v.a 13 ^^^ rotate v.a 22
  let majority := (v.a &&& v.b) ^^^ (v.a &&& v.c) ^^^ (v.b &&& v.c)
  ⟨t1 + (s0 + majority), v.a, v.b, v.c, v.d + t1, v.e, v.f, v.g⟩

def words : Bytes → List UInt32
  | a :: b :: c :: d :: rest =>
    ((a.toUInt32 <<< 24) ||| (b.toUInt32 <<< 16) ||| (c.toUInt32 <<< 8) ||| d.toUInt32) ::
      words rest
  | _ => []

/-- Mixes one block of sixteen words into the chaining value. -/
def Chain.absorb (v : Chain) (block : List UInt32) : Chain :=
  let schedule := (extend block.reverse 48).reverse
  let mixed := (roundWords.zip schedule).foldl (fun v (k, w) => v.round k w) v
  ⟨v.a + mixed.a, v.b + mixed.b, v.c + mixed.c, v.d + mixed.d,
    v.e + mixed.e, v.f + mixed.f, v.g + mixed.g, v.h + mixed.h⟩

/-! ## The whole message -/

/-- The message, a one bit, zeros up to a block boundary, and the length in bits. -/
def pad (message : Bytes) : Bytes :=
  let zeros := (119 - message.length % 64) % 64
  message ++ 0x80 :: List.replicate zeros 0 ++ ofNatBig 8 (message.length * 8)

def Chain.absorbAll (v : Chain) (count : Nat) (message : List UInt32) : Chain :=
  match count with
  | 0 => v
  | count + 1 => (v.absorb (message.take 16)).absorbAll count (message.drop 16)

def Chain.bytes (v : Chain) : Bytes :=
  [v.a, v.b, v.c, v.d, v.e, v.f, v.g, v.h].flatMap fun w => ofNatBig 4 w.toNat

def digest (message : Bytes) : Bytes :=
  let padded := pad message
  (Chain.start.absorbAll (padded.length / 64) (words padded)).bytes

end OdooKeeper.Bytes.Sha256
