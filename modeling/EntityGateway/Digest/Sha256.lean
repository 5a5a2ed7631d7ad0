/-!
# SHA-256

The SHA-256 digest of a byte list, as the standard defines it: the message is padded with a
one bit, zeros and its bit length to a whole number of 64-byte blocks; each block is expanded
to 64 schedule words and compressed into the eight-word state, starting from the standard
initial state; the digest is the final state written big-endian.

`Sha256.prefixValue n bytes` reads the first `n` digest bytes as a big-endian number, the way
stable identifiers are derived from texts.
-/

namespace EntityGateway

namespace Sha256

/-- The round constants. -/
def roundConstants : Array UInt32 := #[
  0x428a2f98, 0x71374491, 0xb5c0fbcf, 0xe9b5dba5, 0x3956c25b, 0x59f111f1, 0x923f82a4, 0xab1c5ed5,
  0xd807aa98, 0x12835b01, 0x243185be, 0x550c7dc3, 0x72be5d74, 0x80deb1fe, 0x9bdc06a7, 0xc19bf174,
  0xe49b69c1, 0xefbe4786, 0x0fc19dc6, 0x240ca1cc, 0x2de92c6f, 0x4a7484aa, 0x5cb0a9dc, 0x76f988da,
  0x983e5152, 0xa831c66d, 0xb00327c8, 0xbf597fc7, 0xc6e00bf3, 0xd5a79147, 0x06ca6351, 0x14292967,
  0x27b70a85, 0x2e1b2138, 0x4d2c6dfc, 0x53380d13, 0x650a7354, 0x766a0abb, 0x81c2c92e, 0x92722c85,
  0xa2bfe8a1, 0xa81a664b, 0xc24b8b70, 0xc76c51a3, 0xd192e819, 0xd6990624, 0xf40e3585, 0x106aa070,
  0x19a4c116, 0x1e376c08, 0x2748774c, 0x34b0bcb5, 0x391c0cb3, 0x4ed8aa4a, 0x5b9cca4f, 0x682e6ff3,
  0x748f82ee, 0x78a5636f, 0x84c87814, 0x8cc70208, 0x90befffa, 0xa4506ceb, 0xbef9a3f7, 0xc67178f2]

/-- The initial state. -/
def initial : Array UInt32 :=
  #[0x6a09e667, 0xbb67ae85, 0x3c6ef372, 0xa54ff53a, 0x510e527f, 0x9b05688c, 0x1f83d9ab, 0x5be0cd19]

def rotr (x : UInt32) (n : UInt32) : UInt32 := (x >>> n) ||| (x <<< (32 - n))

/-- The message padded to whole blocks: a `0x80` byte, zeros, and the bit length as eight
big-endian bytes. -/
def padding (input : List UInt8) : List UInt8 :=
  let zeros := (119 - input.length % 64) % 64
  let bits := 8 * input.length
  input ++ [0x80] ++ List.replicate zeros 0 ++
    (List.range 8).reverse.map fun i => (bits / Nat.pow 2 (8 * i) % 256).toUInt8

/-- The big-endian words of a block. -/
def words : List UInt8 → List UInt32
  | a :: b :: c :: d :: rest =>
    ((a.toUInt32 <<< 24) ||| (b.toUInt32 <<< 16) ||| (c.toUInt32 <<< 8) ||| d.toUInt32) :: words rest
  | _ => []

/-- The 64 schedule words of a block's 16 words. -/
def schedule (block : List UInt32) : Array UInt32 :=
  (List.range 48).foldl (fun (w : Array UInt32) i =>
    let t := i + 16
    let w15 := w.getD (t - 15) 0
    let w2 := w.getD (t - 2) 0
    let s0 := rotr w15 7 ^^^ rotr w15 18 ^^^ (w15 >>> 3)
    let s1 := rotr w2 17 ^^^ rotr w2 19 ^^^ (w2 >>> 10)
    w.push (s1 + w.getD (t - 7) 0 + s0 + w.getD (t - 16) 0)) block.toArray

/-- One round of compression on the working variables. -/
def round (w : Array UInt32) (v : Array UInt32) (t : Nat) : Array UInt32 :=
  let a := v.getD 0 0
  let b := v.getD 1 0
  let c := v.getD 2 0
  let d := v.getD 3 0
  let e := v.getD 4 0
  let f := v.getD 5 0
  let g := v.getD 6 0
  let h := v.getD 7 0
  let s1 := rotr e 6 ^^^ rotr e 11 ^^^ rotr e 25
  let ch := (e &&& f) ^^^ (~~~e &&& g)
  let t1 := h + s1 + ch + roundConstants.getD t 0 + w.getD t 0
  let s0 := rotr a 2 ^^^ rotr a 13 ^^^ rotr a 22
  let maj := (a &&& b) ^^^ (a &&& c) ^^^ (b &&& c)
  let t2 := s0 + maj
  #[t1 + t2, a, b, c, d + t1, e, f, g]

/-- The state after one 64-byte block. -/
def compress (state : Array UInt32) (block : List UInt8) : Array UInt32 :=
  let w := schedule (words block)
  let v := (List.range 64).foldl (round w) state
  (List.range 8).toArray.map fun i => state.getD i 0 + v.getD i 0

/-- The state after the blocks of a padded message, one block per unit of fuel. -/
def blocks : Nat → List UInt8 → Array UInt32 → Array UInt32
  | 0, _, state => state
  | n + 1, bytes, state =>
    if bytes.isEmpty then state else blocks n (bytes.drop 64) (compress state (bytes.take 64))

/-- The digest of a byte list. -/
def hash (input : List UInt8) : List UInt8 :=
  let padded := padding input
  let final := blocks (padded.length / 64) padded initial
  final.toList.flatMap fun (x : UInt32) => [(x >>> 24).toUInt8, (x >>> 16).toUInt8, (x >>> 8).toUInt8, x.toUInt8]

/-- The first `n` digest bytes of a text's UTF-8 bytes, read as a big-endian number. -/
def prefixValue (n : Nat) (text : String) : Nat :=
  ((hash text.toUTF8.toList).take n).foldl (fun acc b => 256 * acc + b.toNat) 0

end Sha256

end EntityGateway
