import ArchiveCatalog.Text.Digits

namespace ArchiveCatalog.Sha256

structure Chain where
  a : UInt32
  b : UInt32
  c : UInt32
  d : UInt32
  e : UInt32
  f : UInt32
  g : UInt32
  h : UInt32
  deriving DecidableEq, Inhabited

def Chain.initial : Chain :=
  ⟨0x6a09e667, 0xbb67ae85, 0x3c6ef372, 0xa54ff53a, 0x510e527f, 0x9b05688c, 0x1f83d9ab, 0x5be0cd19⟩

def Chain.words (chain : Chain) : List UInt32 :=
  [chain.a, chain.b, chain.c, chain.d, chain.e, chain.f, chain.g, chain.h]

def Chain.add (x y : Chain) : Chain :=
  ⟨x.a + y.a, x.b + y.b, x.c + y.c, x.d + y.d, x.e + y.e, x.f + y.f, x.g + y.g, x.h + y.h⟩

def roundConstants : List UInt32 :=
  [0x428a2f98, 0x71374491, 0xb5c0fbcf, 0xe9b5dba5, 0x3956c25b, 0x59f111f1, 0x923f82a4, 0xab1c5ed5,
   0xd807aa98, 0x12835b01, 0x243185be, 0x550c7dc3, 0x72be5d74, 0x80deb1fe, 0x9bdc06a7, 0xc19bf174,
   0xe49b69c1, 0xefbe4786, 0x0fc19dc6, 0x240ca1cc, 0x2de92c6f, 0x4a7484aa, 0x5cb0a9dc, 0x76f988da,
   0x983e5152, 0xa831c66d, 0xb00327c8, 0xbf597fc7, 0xc6e00bf3, 0xd5a79147, 0x06ca6351, 0x14292967,
   0x27b70a85, 0x2e1b2138, 0x4d2c6dfc, 0x53380d13, 0x650a7354, 0x766a0abb, 0x81c2c92e, 0x92722c85,
   0xa2bfe8a1, 0xa81a664b, 0xc24b8b70, 0xc76c51a3, 0xd192e819, 0xd6990624, 0xf40e3585, 0x106aa070,
   0x19a4c116, 0x1e376c08, 0x2748774c, 0x34b0bcb5, 0x391c0cb3, 0x4ed8aa4a, 0x5b9cca4f, 0x682e6ff3,
   0x748f82ee, 0x78a5636f, 0x84c87814, 0x8cc70208, 0x90befffa, 0xa4506ceb, 0xbef9a3f7, 0xc67178f2]

def rotateRight (word amount : UInt32) : UInt32 :=
  (word >>> amount) ||| (word <<< (32 - amount))

/-- One more word of the message schedule, from the sixteen before it. -/
def extend (schedule : Array UInt32) : Array UInt32 :=
  let word (back : Nat) : UInt32 := schedule.getD (schedule.size - back) 0
  let w15 := word 15
  let w2 := word 2
  let s0 := rotateRight w15 7 ^^^ rotateRight w15 18 ^^^ (w15 >>> 3)
  let s1 := rotateRight w2 17 ^^^ rotateRight w2 19 ^^^ (w2 >>> 10)
  schedule.push (word 16 + s0 + word 7 + s1)

def schedule (block : Array UInt32) : List UInt32 :=
  (48).fold (fun _ _ words => extend words) block |>.toList

def round (x : Chain) (input : UInt32 × UInt32) : Chain :=
  let s1 := rotateRight x.e 6 ^^^ rotateRight x.e 11 ^^^ rotateRight x.e 25
  let choice := (x.e &&& x.f) ^^^ (~~~x.e &&& x.g)
  let t1 := x.h + s1 + choice + input.1 + input.2
  let s0 := rotateRight x.a 2 ^^^ rotateRight x.a 13 ^^^ rotateRight x.a 22
  let majority := (x.a &&& x.b) ^^^ (x.a &&& x.c) ^^^ (x.b &&& x.c)
  ⟨t1 + (s0 + majority), x.a, x.b, x.c, x.d + t1, x.e, x.f, x.g⟩

def compress (chain : Chain) (block : Array UInt32) : Chain :=
  chain.add ((roundConstants.zip (schedule block)).foldl round chain)

/-- The message with a one bit, zeros up to eight bytes before a whole block, and its length in
bits. -/
def pad (message : List UInt8) : List UInt8 :=
  let length := message.length
  let zeros := (119 - length % 64) % 64
  message ++ 0x80 :: List.replicate zeros 0 ++ Text.lastBytes 8 (length * 8)

/-- What is left over between blocks: the chaining value, the whole words of the open block, and
the bytes of the open word with their number. -/
structure Intake where
  chain : Chain
  words : Array UInt32
  bits : UInt32
  bytes : Nat

/-- Take one byte, and mix in the block that it completes. -/
def Intake.step (intake : Intake) (byte : UInt8) : Intake :=
  let bits := (intake.bits <<< 8) ||| byte.toUInt32
  if intake.bytes < 3 then { intake with bits, bytes := intake.bytes + 1 }
  else
    let words := intake.words.push bits
    if words.size < 16 then ⟨intake.chain, words, 0, 0⟩
    else ⟨compress intake.chain words, #[], 0, 0⟩

def digest (message : List UInt8) : List UInt8 :=
  let taken := (pad message).foldl Intake.step ⟨Chain.initial, #[], 0, 0⟩
  taken.chain.words.flatMap fun (word : UInt32) =>
    [(word >>> 24).toUInt8, (word >>> 16).toUInt8, (word >>> 8).toUInt8, word.toUInt8]

def hexDigest (message : List UInt8) : List Char := Text.hexOfBytes (digest message)

end ArchiveCatalog.Sha256
