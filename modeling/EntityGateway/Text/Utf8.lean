/-!
# Decoding UTF-8

`decodeLossy` reads bytes as UTF-8, putting one replacement character `U+FFFD` in place of each
maximal invalid part: a byte that cannot start a character, or a started character cut short
by a byte that cannot continue it (the cutting byte then starts afresh) or by the end of the
input. This is the decoding recommended by the Unicode standard for ill-formed input.
`decodeStrict?` refuses such input instead.
-/

namespace EntityGateway

namespace Utf8

/-- Whether a byte continues a character. -/
def isContinuation (b : UInt8) : Bool := 0x80 ≤ b && b ≤ 0xBF

/-- The allowed range of the second byte after a lead byte, and the number of bytes of the
character; none for a byte that cannot lead. -/
def leadInfo (b : UInt8) : Option (UInt8 × UInt8 × Nat) :=
  if b ≤ 0x7F then some (0, 0, 1)
  else if 0xC2 ≤ b && b ≤ 0xDF then some (0x80, 0xBF, 2)
  else if b = 0xE0 then some (0xA0, 0xBF, 3)
  else if (0xE1 ≤ b && b ≤ 0xEC) || b = 0xEE || b = 0xEF then some (0x80, 0xBF, 3)
  else if b = 0xED then some (0x80, 0x9F, 3)
  else if b = 0xF0 then some (0x90, 0xBF, 4)
  else if 0xF1 ≤ b && b ≤ 0xF3 then some (0x80, 0xBF, 4)
  else if b = 0xF4 then some (0x80, 0x8F, 4)
  else none

/-- The code point of a well-formed sequence. -/
def codePoint : List UInt8 → Nat
  | [a] => a.toNat
  | [a, b] => (a.toNat % 32) * 64 + b.toNat % 64
  | [a, b, c] => ((a.toNat % 16) * 64 + b.toNat % 64) * 64 + c.toNat % 64
  | [a, b, c, d] => (((a.toNat % 8) * 64 + b.toNat % 64) * 64 + c.toNat % 64) * 64 + d.toNat % 64
  | _ => 0xFFFD

/-- How many bytes of a character starting the list are well formed, and whether they make
the whole character. -/
def validPrefix (bs : List UInt8) : Nat × Bool :=
  match bs with
  | [] => (0, false)
  | b :: rest =>
    match leadInfo b with
    | none => (0, false)
    | some (_, _, 1) => (1, true)
    | some (lo, hi, n) =>
      match rest with
      | [] => (1, false)
      | c :: more =>
        if c < lo || c > hi then (1, false)
        else
          let tail := (more.take (n - 2))
          let good := (tail.takeWhile isContinuation).length
          if good = n - 2 then (n, true) else (2 + good, false)

/-- Decode with one unit of fuel per byte. -/
def decodeWith : Nat → List UInt8 → List Char
  | 0, _ => []
  | _, [] => []
  | fuel + 1, bs@(_ :: _) =>
    match validPrefix bs with
    | (n, true) => Char.ofNat (codePoint (bs.take n)) :: decodeWith fuel (bs.drop n)
    | (n, false) => '�' :: decodeWith fuel (bs.drop (max n 1))

/-- Bytes read as UTF-8, each maximal invalid part replaced by `U+FFFD`. -/
def decodeLossy (bs : List UInt8) : String := String.ofList (decodeWith bs.length bs)

/-- Decode with one unit of fuel per byte, failing at the first invalid part. -/
def decodeStrictWith : Nat → List UInt8 → Option (List Char)
  | 0, _ => some []
  | _, [] => some []
  | fuel + 1, bs@(_ :: _) =>
    match validPrefix bs with
    | (n, true) => (decodeStrictWith fuel (bs.drop n)).map (Char.ofNat (codePoint (bs.take n)) :: ·)
    | (_, false) => none

/-- Bytes read as UTF-8; `none` when they hold an invalid part. -/
def decodeStrict? (bs : List UInt8) : Option String := (decodeStrictWith bs.length bs).map String.ofList

end Utf8

end EntityGateway
