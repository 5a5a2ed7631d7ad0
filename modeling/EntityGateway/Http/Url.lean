import EntityGateway.Text.Utf8
import EntityGateway.Http.Params

/-!
# Decoding the parts of a request target

A path segment is read by percent-decoding it; the query is a list of `name=value` pairs joined
by `&`, where empty pairs are skipped, a pair without `=` has the empty value, and each side is
read by first turning `+` into a blank and then percent-decoding. Percent-decoding replaces each `%` followed by two hex
digits by the byte they spell, keeps any other `%` as it is, and reads the bytes as UTF-8,
replacing what is not.
-/

namespace EntityGateway

namespace Url

/-- The value of a byte that is a hex digit. -/
def hexValue? (b : UInt8) : Option Nat :=
  if 0x30 ≤ b && b ≤ 0x39 then some (b.toNat - 0x30)
  else if 0x41 ≤ b && b ≤ 0x46 then some (b.toNat - 0x41 + 10)
  else if 0x61 ≤ b && b ≤ 0x66 then some (b.toNat - 0x61 + 10)
  else none

/-- Each `%` and two hex digits replaced by the byte they spell. -/
def percentDecodeBytes : List UInt8 → List UInt8
  | [] => []
  | b :: rest@(h :: l :: more) =>
    if b = 0x25 then
      match hexValue? h, hexValue? l with
      | some hi, some lo => UInt8.ofNat (16 * hi + lo) :: percentDecodeBytes more
      | _, _ => b :: percentDecodeBytes rest
    else b :: percentDecodeBytes rest
  | b :: rest => b :: percentDecodeBytes rest

/-- A percent-encoded text, decoded. -/
def percentDecode (text : String) : String :=
  Utf8.decodeLossy (percentDecodeBytes text.toUTF8.toList)

/-- A form-encoded text, decoded: `+` is a blank. -/
def formDecode (text : String) : String :=
  percentDecode (String.ofList (text.toList.map fun c => if c = '+' then ' ' else c))

/-- The name and value of one form-encoded pair. -/
def formPair (piece : String) : String × String :=
  match piece.splitOn "=" with
  | [] => ("", "")
  | [name] => (formDecode name, "")
  | name :: rest => (formDecode name, formDecode ("=".intercalate rest))

/-- The pairs of a form-encoded text, empty pieces skipped. -/
def formPairs (text : String) : List (String × String) :=
  ((text.splitOn "&").filter (· ≠ "")).map formPair

end Url

end EntityGateway
