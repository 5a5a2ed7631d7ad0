import EntityGateway.Json.Basic
import EntityGateway.Decimal.Scaled

/-!
# Reading JSON

`Json.parse` reads one JSON value, with blanks (space, tab, line feed, carriage return) around
it, and reports the first fault with the line and column of the byte where it was found, as in
`key must be a string at line 1 column 2`. Columns count bytes from the start of the line.

The faults and where they are found:

* a fault at a character not yet taken (a missing value, comma, colon or key, a trailing comma
  or trailing characters) names the column of that character;
* a fault found on taking a character (a wrong letter in `null`, a bad escape, a control
  character in a string) names the column just after the byte taken;
* an unexpected end names the column after the last byte.

Numbers follow the 64-bit reading of `Number`: an integer without fraction or exponent is exact
when it fits. `-0` and every other number become a binary64 by `Binary64.scaleByTen` from the
significand that the first digits leave in 64 bits and the power of ten of the rest; a number
beyond the binary64 range is a fault. Arrays and objects nest at most 127 deep. Of two members with one key
the later wins.
-/

namespace EntityGateway

namespace Json

/-- What a reader can find wrong with a JSON text. -/
inductive SyntaxFault where
  | eofInList
  | eofInObject
  | eofInString
  | eofInValue
  | expectedColon
  | expectedListCommaOrEnd
  | expectedObjectCommaOrEnd
  | expectedIdent
  | expectedValue
  | invalidEscape
  | invalidNumber
  | numberOutOfRange
  | controlCharacter
  | keyMustBeString
  | loneLeadingSurrogate
  | trailingComma
  | trailingCharacters
  | unexpectedEndOfHexEscape
  | recursionLimit
  deriving DecidableEq, Repr

/-- The wording of a fault. -/
def SyntaxFault.text : SyntaxFault → String
  | .eofInList => "EOF while parsing a list"
  | .eofInObject => "EOF while parsing an object"
  | .eofInString => "EOF while parsing a string"
  | .eofInValue => "EOF while parsing a value"
  | .expectedColon => "expected `:`"
  | .expectedListCommaOrEnd => "expected `,` or `]`"
  | .expectedObjectCommaOrEnd => "expected `,` or `\x7d`"
  | .expectedIdent => "expected ident"
  | .expectedValue => "expected value"
  | .invalidEscape => "invalid escape"
  | .invalidNumber => "invalid number"
  | .numberOutOfRange => "number out of range"
  | .controlCharacter => "control character (\\u0000-\\u001F) found while parsing a string"
  | .keyMustBeString => "key must be a string"
  | .loneLeadingSurrogate => "lone leading surrogate in hex escape"
  | .trailingComma => "trailing comma"
  | .trailingCharacters => "trailing characters"
  | .unexpectedEndOfHexEscape => "unexpected end of hex escape"
  | .recursionLimit => "recursion limit exceeded"

/-- A fault and the byte offset whose line and column the message names. -/
structure SyntaxError where
  fault : SyntaxFault
  offset : Nat
  deriving Repr

/-- A text being read: its characters and the byte offset of each. -/
structure Reader where
  chars : Array Char
  offsets : Array Nat

namespace Reader

/-- A reader over a text. -/
def ofString (s : String) : Reader :=
  let cs := s.toList.toArray
  let offs := cs.foldl (fun (acc : Array Nat × Nat) c => (acc.1.push acc.2, acc.2 + c.utf8Size))
    (#[], 0)
  ⟨cs, offs.1.push offs.2⟩

/-- The number of bytes of the text. -/
def size (r : Reader) : Nat := r.offsets.back?.getD 0

/-- The byte offset of the character at index `i`. -/
def offset (r : Reader) (i : Nat) : Nat := r.offsets[i]?.getD r.size

/-- The character at index `i`. -/
def peek (r : Reader) (i : Nat) : Option Char := r.chars[i]?

/-- A fault at the character `i`, not yet taken. -/
def ahead (r : Reader) (f : SyntaxFault) (i : Nat) : SyntaxError :=
  ⟨f, min r.size (r.offset i + 1)⟩

/-- A fault found on taking the first byte of character `i`. -/
def taken (r : Reader) (f : SyntaxFault) (i : Nat) : SyntaxError := ⟨f, r.offset i + 1⟩

/-- A fault at the end of the text. -/
def atEnd (r : Reader) (f : SyntaxFault) : SyntaxError := ⟨f, r.size⟩

/-- The first index at or after `i` that holds no blank. -/
def skipBlank (r : Reader) (i : Nat) : Nat :=
  if h : i < r.chars.size then
    let c := r.chars[i]
    if c = ' ' ∨ c = '\n' ∨ c = '\t' ∨ c = '\r' then r.skipBlank (i + 1) else i
  else i
  termination_by r.chars.size - i

/-- The index after the run of ASCII digits that starts at `i`. -/
def skipDigits (r : Reader) (i : Nat) : Nat :=
  if h : i < r.chars.size then
    if r.chars[i].isDigit then r.skipDigits (i + 1) else i
  else i
  termination_by r.chars.size - i

/-- The characters from `i` to `j`. -/
def slice (r : Reader) (i j : Nat) : String := String.ofList (r.chars.extract i j).toList

/-- The digits of a text, as numbers. -/
def digitValues (ds : String) : List Nat := ds.toList.map (·.toNat - 48)

/-- The largest value of 64 bits. -/
def u64Max : Nat := Nat.pow 2 64 - 1

/-- The significand that integer digits leave in 64 bits, the power of ten of the digits that
did not fit, and whether any did not: digits are taken while the significand stays within 64
bits, and from the first that does not fit on, each digit raises the power by one. -/
def integerPart : List Nat → Nat → Int → Bool → Nat × Int × Bool
  | [], m, e, long => (m, e, long)
  | d :: ds, m, e, long =>
    if long || u64Max < 10 * m + d then integerPart ds m (e + 1) true
    else integerPart ds (10 * m + d) e false

/-- Integer digits leave a significand below `2 ^ 64`. -/
theorem integerPart_lt {ds : List Nat} {m m' : Nat} {e e' : Int} {long long' : Bool}
    (h : integerPart ds m e long = (m', e', long')) (hm : m ≤ u64Max) : m' < Nat.pow 2 64 := by
  induction ds generalizing m e long with
  | nil =>
    simp only [integerPart, Prod.mk.injEq] at h
    have : 0 < Nat.pow 2 64 := Nat.two_pow_pos 64
    unfold u64Max at hm
    omega
  | cons d ds ih =>
    simp only [integerPart] at h
    split at h
    · exact ih h hm
    · -- the digit was taken, so the significand still fits
      rename_i hfit
      exact ih h (by simp at hfit; omega)

/-- Fraction digits taken into a significand while it stays within 64 bits, each lowering the
power of ten by one; from the first that does not fit on, the digits are dropped. -/
def fractionPart : List Nat → Nat → Int → Nat × Int
  | [], m, e => (m, e)
  | d :: ds, m, e => if u64Max < 10 * m + d then (m, e) else fractionPart ds (10 * m + d) (e - 1)

/-- An exponent's value, or the position among its digits of the first digit that takes it
past `2 ^ 31 - 1`; the first digit is always taken. -/
def exponentValue : List Nat → Except Nat Nat
  | [] => .ok 0
  | d :: ds => go ds d 1
where
  go : List Nat → Nat → Nat → Except Nat Nat
    | [], v, _ => .ok v
    | d :: ds, v, p => if Nat.pow 2 31 - 1 < 10 * v + d then .error p else go ds (10 * v + d) (p + 1)

/-- A power of ten kept within 32 bits, saturating at either end. -/
def saturate32 (e : Int) : Int := max (-(Nat.pow 2 31 : Int)) (min e ((Nat.pow 2 31 : Int) - 1))

/-- The float of a sign, a significand and a power of ten, or the out-of-range fault after the
number, which ends at `stop`. -/
def floatOf (r : Reader) (positive : Bool) (m : Nat) (e : Int) (stop : Nat) : Except SyntaxError Number :=
  match Binary64.scaleByTen m e with
  | some x => .ok (.float { x with neg := !positive })
  | none => .error ⟨.numberOutOfRange, r.offset stop⟩

/-- The number of integer digits alone, ending at `stop`: exact when it fits, except `-0`. -/
def integerOf (r : Reader) (positive : Bool) (intDigits : String) (stop : Nat) : Except SyntaxError Number :=
  match h : integerPart (digitValues intDigits) 0 0 false with
  | (m, e, long) =>
    if long then r.floatOf positive m e stop
    else if positive then .ok (.nat m (integerPart_lt h (Nat.zero_le _)))
    else if h0 : m = 0 then .ok (.float ⟨true, 0, 0⟩)
    else if hm : m ≤ Nat.pow 2 63 then .ok (.neg (-(m : Int)) (by omega) (by omega))
    else r.floatOf positive m 0 stop

/-- The significand and power of ten of integer and fraction digits. -/
def decimalParts (intDigits fracDigits : String) : Nat × Int :=
  let (m, e, _) := integerPart (digitValues intDigits) 0 0 false
  fractionPart (digitValues fracDigits) m e

/-- Read the exponent that starts after the `e` at `i`, of a number with significand `m` and
power of ten `e0`. An exponent past 32 bits makes the number zero, or out of range when it is
positive and the significand is not zero. -/
def exponent (r : Reader) (positive : Bool) (m : Nat) (e0 : Int) (i : Nat) :
    Except SyntaxError (Number × Nat) :=
  let (negExp, j) :=
    match r.peek i with
    | some '+' => (false, i + 1)
    | some '-' => (true, i + 1)
    | _ => (false, i)
  match r.peek j with
  | none => .error (r.atEnd .eofInValue)
  | some c =>
    if c.isDigit then
      let k := r.skipDigits j
      match exponentValue (digitValues (r.slice j k)) with
      | .ok v =>
        let e := saturate32 (if negExp then e0 - v else e0 + v)
        (r.floatOf positive m e k).map (·, k)
      | .error p =>
        if m ≠ 0 ∧ !negExp then .error (r.taken .numberOutOfRange (j + p))
        else .ok (.float ⟨!positive, 0, 0⟩, k)
    else .error (r.taken .invalidNumber j)

/-- Read what follows the integer digits of a number, from `i`. -/
def numberTail (r : Reader) (positive : Bool) (i : Nat) (intDigits : String) :
    Except SyntaxError (Number × Nat) :=
  match r.peek i with
  | some '.' =>
    let j := r.skipDigits (i + 1)
    if j = i + 1 then
      match r.peek j with
      | some _ => .error (r.ahead .invalidNumber j)
      | none => .error (r.ahead .eofInValue j)
    else
      let (m, e) := decimalParts intDigits (r.slice (i + 1) j)
      match r.peek j with
      | some 'e' | some 'E' => r.exponent positive m e (j + 1)
      | _ => (r.floatOf positive m e j).map (·, j)
  | some 'e' | some 'E' =>
    let (m, e) := decimalParts intDigits ""
    r.exponent positive m e (i + 1)
  | _ => (r.integerOf positive intDigits i).map (·, i)

/-- Read a number whose digits start at `i`. -/
def number (r : Reader) (positive : Bool) (i : Nat) : Except SyntaxError (Number × Nat) :=
  match r.peek i with
  | none => .error (r.atEnd .eofInValue)
  | some '0' =>
    match r.peek (i + 1) with
    | some c => if c.isDigit then .error (r.ahead .invalidNumber (i + 1))
                else r.numberTail positive (i + 1) "0"
    | none => r.numberTail positive (i + 1) "0"
  | some c =>
    if c.isDigit then
      let j := r.skipDigits i
      r.numberTail positive j (r.slice i j)
    else .error (r.taken .invalidNumber i)

/-- The value of a hex digit. -/
def hexValue (c : Char) : Option Nat :=
  if c.isDigit then some (c.toNat - 48)
  else if 'a' ≤ c ∧ c ≤ 'f' then some (c.toNat - 87)
  else if 'A' ≤ c ∧ c ≤ 'F' then some (c.toNat - 55)
  else none

/-- Read the four hex digits of a `\u` escape at `i`. -/
def hex4 (r : Reader) (i : Nat) : Except SyntaxError (Nat × Nat) :=
  if r.size < r.offset i + 4 then .error (r.atEnd .eofInString)
  else
    let digits := [r.peek i, r.peek (i + 1), r.peek (i + 2), r.peek (i + 3)].map
      fun c => c.bind hexValue
    match digits with
    | [some a, some b, some c, some d] => .ok (((a * 16 + b) * 16 + c) * 16 + d, i + 4)
    | _ => .error ⟨.invalidEscape, r.offset i + 4⟩

/-- Read the escape whose letter is at `i`; answers the characters it stands for. -/
def escape (r : Reader) (i : Nat) : Except SyntaxError (List Char × Nat) :=
  match r.peek i with
  | none => .error (r.atEnd .eofInString)
  | some '"' => .ok (['"'], i + 1)
  | some '\\' => .ok (['\\'], i + 1)
  | some '/' => .ok (['/'], i + 1)
  | some 'b' => .ok ([Char.ofNat 8], i + 1)
  | some 'f' => .ok ([Char.ofNat 12], i + 1)
  | some 'n' => .ok (['\n'], i + 1)
  | some 'r' => .ok (['\r'], i + 1)
  | some 't' => .ok (['\t'], i + 1)
  | some 'u' => do
    let (n, j) ← r.hex4 (i + 1)
    if 0xDC00 ≤ n ∧ n ≤ 0xDFFF then .error ⟨.loneLeadingSurrogate, r.offset j⟩
    else if 0xD800 ≤ n ∧ n ≤ 0xDBFF then
      match r.peek j with
      | none => .error (r.atEnd .eofInString)
      | some '\\' =>
        match r.peek (j + 1) with
        | none => .error (r.atEnd .eofInString)
        | some 'u' => do
          let (n2, k) ← r.hex4 (j + 2)
          if n2 < 0xDC00 ∨ 0xDFFF < n2 then .error ⟨.loneLeadingSurrogate, r.offset k⟩
          else .ok ([Char.ofNat ((n - 0xD800) * 1024 + (n2 - 0xDC00) + 0x10000)], k)
        | some _ => .error (r.taken .unexpectedEndOfHexEscape (j + 1))
      | some _ => .error (r.taken .unexpectedEndOfHexEscape j)
    else .ok ([Char.ofNat n], j)
  | some _ => .error (r.taken .invalidEscape i)

/-- Read the rest of a string from `i`, after its opening quote; `acc` holds what was read,
reversed. -/
def stringRest (r : Reader) (i : Nat) (acc : List Char) : Except SyntaxError (String × Nat) :=
  if h : i < r.chars.size then
    let c := r.chars[i]
    if c = '"' then .ok (String.ofList acc.reverse, i + 1)
    else if c = '\\' then
      match r.escape (i + 1) with
      | .error e => .error e
      | .ok (cs, j) =>
        if i < j then r.stringRest j (cs.reverse ++ acc) else .error (r.atEnd .eofInString)
    else if c.toNat < 32 then .error (r.taken .controlCharacter i)
    else r.stringRest (i + 1) (c :: acc)
  else .error (r.atEnd .eofInString)
  termination_by r.chars.size - i
  decreasing_by all_goals omega

/-- Check the letters of `null`, `true` or `false` after the first. -/
def ident (r : Reader) (letters : List Char) (i : Nat) : Except SyntaxError Nat :=
  match letters with
  | [] => .ok i
  | l :: ls =>
    match r.peek i with
    | none => .error (r.atEnd .eofInValue)
    | some c => if c = l then r.ident ls (i + 1) else .error (r.taken .expectedIdent i)

mutual

/-- Read a value at `i` or after blanks; `depth` containers are open around it. Every step
spends one unit of `fuel`. -/
def value (r : Reader) (fuel depth i : Nat) : Except SyntaxError (Json × Nat) :=
  match fuel with
  | 0 => .error (r.atEnd .recursionLimit)
  | fuel + 1 =>
    let i := r.skipBlank i
    match r.peek i with
    | none => .error (r.ahead .eofInValue i)
    | some 'n' => (r.ident ['u', 'l', 'l'] (i + 1)).map (.null, ·)
    | some 't' => (r.ident ['r', 'u', 'e'] (i + 1)).map (.bool true, ·)
    | some 'f' => (r.ident ['a', 'l', 's', 'e'] (i + 1)).map (.bool false, ·)
    | some '-' => (r.number false (i + 1)).map fun (n, j) => (.number n, j)
    | some '"' => (r.stringRest (i + 1) []).map fun (s, j) => (.string s, j)
    | some '[' =>
      if depth + 1 = 128 then .error (r.ahead .recursionLimit i)
      else (r.items fuel (depth + 1) (i + 1) true []).map fun (xs, j) => (.array xs, j + 1)
    | some '{' =>
      if depth + 1 = 128 then .error (r.ahead .recursionLimit i)
      else (r.members fuel (depth + 1) (i + 1) true []).map fun (ms, j) => (.object ms, j + 1)
    | some c =>
      if c.isDigit then (r.number true i).map fun (n, j) => (.number n, j)
      else .error (r.ahead .expectedValue i)

/-- Read array items from `i` up to the closing bracket, whose index is answered; `acc` holds
the items read, reversed. -/
def items (r : Reader) (fuel depth i : Nat) (first : Bool) (acc : List Json) :
    Except SyntaxError (List Json × Nat) :=
  match fuel with
  | 0 => .error (r.atEnd .recursionLimit)
  | fuel + 1 =>
    let i := r.skipBlank i
    match r.peek i with
    | some ']' => .ok (acc.reverse, i)
    | some ',' =>
      if first then
        match r.value fuel depth i with
        | .ok (v, j) => r.items fuel depth j false (v :: acc)
        | .error e => .error e
      else
        let j := r.skipBlank (i + 1)
        match r.peek j with
        | some ']' => .error (r.ahead .trailingComma j)
        | none => .error (r.ahead .eofInValue j)
        | some _ =>
          match r.value fuel depth j with
          | .ok (v, k) => r.items fuel depth k false (v :: acc)
          | .error e => .error e
    | some _ =>
      if first then
        match r.value fuel depth i with
        | .ok (v, j) => r.items fuel depth j false (v :: acc)
        | .error e => .error e
      else .error (r.ahead .expectedListCommaOrEnd i)
    | none => .error (r.ahead .eofInList i)

/-- Read one member whose key's opening quote is at `i`, then the members after it. -/
def member (r : Reader) (fuel depth i : Nat) (acc : List (String × Json)) :
    Except SyntaxError (List (String × Json) × Nat) :=
  match fuel with
  | 0 => .error (r.atEnd .recursionLimit)
  | fuel + 1 =>
    match r.stringRest (i + 1) [] with
    | .error e => .error e
    | .ok (k, j) =>
      let j := r.skipBlank j
      match r.peek j with
      | some ':' =>
        match r.value fuel depth (j + 1) with
        | .ok (v, m) => r.members fuel depth m false (insertMember k v acc)
        | .error e => .error e
      | some _ => .error (r.ahead .expectedColon j)
      | none => .error (r.ahead .eofInObject j)

/-- Read object members from `i` up to the closing brace, whose index is answered; `acc` holds
the members read, sorted. -/
def members (r : Reader) (fuel depth i : Nat) (first : Bool) (acc : List (String × Json)) :
    Except SyntaxError (List (String × Json) × Nat) :=
  match fuel with
  | 0 => .error (r.atEnd .recursionLimit)
  | fuel + 1 =>
    let i := r.skipBlank i
    match r.peek i with
    | some '\x7d' => .ok (acc, i)
    | some ',' =>
      if first then .error (r.ahead .keyMustBeString i)
      else
        let j := r.skipBlank (i + 1)
        match r.peek j with
        | some '"' => r.member fuel depth j acc
        | some '\x7d' => .error (r.ahead .trailingComma j)
        | some _ => .error (r.ahead .keyMustBeString j)
        | none => .error (r.ahead .eofInValue j)
    | some '"' =>
      if first then r.member fuel depth i acc
      else .error (r.ahead .expectedObjectCommaOrEnd i)
    | some _ =>
      if first then .error (r.ahead .keyMustBeString i)
      else .error (r.ahead .expectedObjectCommaOrEnd i)
    | none => .error (r.ahead .eofInObject i)

end

/-- Read a whole text as one value with nothing but blanks after it. -/
def document (r : Reader) : Except SyntaxError Json := do
  let (v, i) ← r.value (4 * r.chars.size + 8) 0 0
  let j := r.skipBlank i
  if j < r.chars.size then .error (r.ahead .trailingCharacters j) else .ok v

/-- The line and column of a byte offset: lines count from 1, columns count the bytes after
the last line feed before the offset. -/
def lineColumn (r : Reader) (offset : Nat) : Nat × Nat :=
  let step := fun (acc : Nat × Nat) (p : Char × Nat) =>
    if p.2 < offset ∧ p.1 = '\n' then (acc.1 + 1, p.2 + 1) else acc
  let (line, start) := (r.chars.toList.zip r.offsets.toList).foldl step (1, 0)
  (line, offset - start)

/-- The message of a fault: its wording, then its line and column. -/
def message (r : Reader) (e : SyntaxError) : String :=
  let (line, col) := r.lineColumn e.offset
  e.fault.text ++ " at line " ++ toString line ++ " column " ++ toString col

end Reader

/-- Read a JSON text. The error is the fault's message. -/
def parse (s : String) : Except String Json :=
  let r := Reader.ofString s
  match r.document with
  | .ok v => .ok v
  | .error e => .error (r.message e)

end Json

end EntityGateway
