/-! The SHA-256 digest of a list of bytes. -/
namespace SpatialFilter.Sha256

structure Words where
  a : UInt32
  b : UInt32
  c : UInt32
  d : UInt32
  e : UInt32
  f : UInt32
  g : UInt32
  h : UInt32

def initial : Words :=
  ⟨0x6a09e667,0xbb67ae85,0x3c6ef372,0xa54ff53a,0x510e527f,0x9b05688c,0x1f83d9ab,0x5be0cd19⟩

def roundConstants : List UInt32 :=
  [0x428a2f98,0x71374491,0xb5c0fbcf,0xe9b5dba5,0x3956c25b,0x59f111f1,0x923f82a4,0xab1c5ed5,
   0xd807aa98,0x12835b01,0x243185be,0x550c7dc3,0x72be5d74,0x80deb1fe,0x9bdc06a7,0xc19bf174,
   0xe49b69c1,0xefbe4786,0x0fc19dc6,0x240ca1cc,0x2de92c6f,0x4a7484aa,0x5cb0a9dc,0x76f988da,
   0x983e5152,0xa831c66d,0xb00327c8,0xbf597fc7,0xc6e00bf3,0xd5a79147,0x06ca6351,0x14292967,
   0x27b70a85,0x2e1b2138,0x4d2c6dfc,0x53380d13,0x650a7354,0x766a0abb,0x81c2c92e,0x92722c85,
   0xa2bfe8a1,0xa81a664b,0xc24b8b70,0xc76c51a3,0xd192e819,0xd6990624,0xf40e3585,0x106aa070,
   0x19a4c116,0x1e376c08,0x2748774c,0x34b0bcb5,0x391c0cb3,0x4ed8aa4a,0x5b9cca4f,0x682e6ff3,
   0x748f82ee,0x78a5636f,0x84c87814,0x8cc70208,0x90befffa,0xa4506ceb,0xbef9a3f7,0xc67178f2]

def rotateRight (x : UInt32) (n : UInt32) : UInt32 := (x >>> n) ||| (x <<< (32 - n))

def bigEndian (width n : Nat) : List UInt8 :=
  ((List.range width).map fun i => UInt8.ofNat (n >>> (8 * i))).reverse

/-- A one bit, zeros up to a block less eight bytes, and the length in bits. -/
def pad (bytes : List UInt8) : List UInt8 :=
  let zeros := (119 - bytes.length % 64) % 64
  bytes ++ 0x80 :: List.replicate zeros 0 ++ bigEndian 8 (8 * bytes.length)

def wordAt (block : List UInt8) (i : Nat) : UInt32 :=
  ((block.drop (4 * i)).take 4).foldl (fun word byte => (word <<< 8) ||| byte.toUInt32) 0

/-- The next word of the schedule, from the last sixteen, of which the latest comes first. -/
def nextWord (latest : List UInt32) : UInt32 :=
  let far := latest.getD 14 0
  let near := latest.getD 1 0
  let s0 := rotateRight far 7 ^^^ rotateRight far 18 ^^^ (far >>> 3)
  let s1 := rotateRight near 17 ^^^ rotateRight near 19 ^^^ (near >>> 10)
  latest.getD 15 0 + s0 + latest.getD 6 0 + s1

def schedule (block : List UInt8) : List UInt32 :=
  let first := ((List.range 16).map (wordAt block)).reverse
  ((List.range 48).foldl (fun latest _ => nextWord latest :: latest) first).reverse

def round (w : Words) (step : UInt32 × UInt32) : Words :=
  let s1 := rotateRight w.e 6 ^^^ rotateRight w.e 11 ^^^ rotateRight w.e 25
  let choice := (w.e &&& w.f) ^^^ ((~~~ w.e) &&& w.g)
  let t1 := w.h + s1 + choice + step.1 + step.2
  let s0 := rotateRight w.a 2 ^^^ rotateRight w.a 13 ^^^ rotateRight w.a 22
  let majority := (w.a &&& w.b) ^^^ (w.a &&& w.c) ^^^ (w.b &&& w.c)
  ⟨t1 + (s0 + majority),w.a,w.b,w.c,w.d + t1,w.e,w.f,w.g⟩

def compress (w : Words) (block : List UInt8) : Words :=
  let v := (roundConstants.zip (schedule block)).foldl round w
  ⟨w.a + v.a,w.b + v.b,w.c + v.c,w.d + v.d,w.e + v.e,w.f + v.f,w.g + v.g,w.h + v.h⟩

def compressBlocks : Nat → Words → List UInt8 → Words
  | 0,w,_ => w
  | count + 1,w,bytes => compressBlocks count (compress w (bytes.take 64)) (bytes.drop 64)

def digest (bytes : List UInt8) : List UInt32 :=
  let padded := pad bytes
  let w := compressBlocks (padded.length / 64) initial padded
  [w.a,w.b,w.c,w.d,w.e,w.f,w.g,w.h]

def hexWord (word : UInt32) : List Char :=
  (List.range 8).map fun i => Nat.digitChar (word.toNat >>> (4 * (7 - i)) % 16)

def hex (bytes : List UInt8) : String := String.ofList ((digest bytes).flatMap hexWord)

end SpatialFilter.Sha256
