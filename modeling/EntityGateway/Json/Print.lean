import EntityGateway.Json.Basic
import EntityGateway.Text.Printable

/-!
# Writing JSON

`Json.compact` writes a value with no blanks: object members in their sorted order, strings with
`"` and `\` escaped, the control characters below `U+0020` written as `\b`, `\t`, `\n`, `\f`,
`\r` or `\u00XX` with lower-case hex digits, and every other character as itself.
`Json.pretty` writes the same tokens over indented lines.

`debugQuote` gives the quoted form in which messages show a text: between double quotes,
with `\`, `"` and the control characters escaped in the style `\n`, `\u{1b}`.
-/

namespace EntityGateway

/-- The lower-case hex digit of a number below 16. -/
def hexDigit (n : Nat) : Char :=
  if n < 10 then Char.ofNat (48 + n) else Char.ofNat (87 + n)

/-- Two lower-case hex digits of a byte. -/
def hex2 (n : Nat) : String := String.ofList [hexDigit (n / 16 % 16), hexDigit (n % 16)]

/-- The escaped form of one character inside a JSON string. -/
def jsonEscape (c : Char) : String :=
  if c = '"' then "\\\""
  else if c = '\\' then "\\\\"
  else if c = '\n' then "\\n"
  else if c = '\r' then "\\r"
  else if c = '\t' then "\\t"
  else if c.toNat = 8 then "\\b"
  else if c.toNat = 12 then "\\f"
  else if c.toNat < 32 then "\\u00" ++ hex2 c.toNat
  else c.toString

/-- A text as a JSON string literal. -/
def jsonQuote (s : String) : String :=
  "\"" ++ String.join (s.toList.map jsonEscape) ++ "\""

namespace Json

mutual

/-- The compact text of a value. -/
def compact : Json → String
  | .null => "null"
  | .bool b => if b then "true" else "false"
  | .number n => n.text
  | .string s => jsonQuote s
  | .array xs => "[" ++ compactItems xs ++ "]"
  | .object ms => "\x7b" ++ compactMembers ms ++ "\x7d"

/-- The compact texts of items, separated by commas. -/
def compactItems : List Json → String
  | [] => ""
  | [x] => compact x
  | x :: xs => compact x ++ "," ++ compactItems xs

/-- The compact texts of members, separated by commas. -/
def compactMembers : List (String × Json) → String
  | [] => ""
  | [(k, v)] => jsonQuote k ++ ":" ++ compact v
  | (k, v) :: ms => jsonQuote k ++ ":" ++ compact v ++ "," ++ compactMembers ms

end

mutual

/-- The indented text of a value whose line starts after `indent`: each item and member of a
non-empty array or object on a line of its own, two blanks further in, a blank after each
colon, and the closing bracket back at `indent`. -/
def pretty (indent : String) : Json → String
  | .array [] => "[]"
  | .object [] => "\x7b\x7d"
  | .array xs => "[\n" ++ prettyItems (indent ++ "  ") xs ++ "\n" ++ indent ++ "]"
  | .object ms => "\x7b\n" ++ prettyMembers (indent ++ "  ") ms ++ "\n" ++ indent ++ "\x7d"
  | j => compact j

/-- Indented items, one a line. -/
def prettyItems (indent : String) : List Json → String
  | [] => ""
  | [x] => indent ++ pretty indent x
  | x :: xs => indent ++ pretty indent x ++ ",\n" ++ prettyItems indent xs

/-- Indented members, one a line. -/
def prettyMembers (indent : String) : List (String × Json) → String
  | [] => ""
  | [(k, v)] => indent ++ jsonQuote k ++ ": " ++ pretty indent v
  | (k, v) :: ms => indent ++ jsonQuote k ++ ": " ++ pretty indent v ++ ",\n" ++ prettyMembers indent ms

end

end Json

/-- Hex digits of a number, most significant first, without leading zeros. -/
def hexDigits (n : Nat) : String := String.ofList ((Nat.toDigits 16 n))

/-- The escaped form of one character inside a quoted message text: a backslash before `"` and
`\`, the short escapes `\n`, `\r`, `\t` and `\0`, and `\u{..}` with the code point for a
character that would not show or would join the one before it. -/
def debugEscape (c : Char) : String :=
  if c = '"' then "\\\""
  else if c = '\\' then "\\\\"
  else if c = '\n' then "\\n"
  else if c = '\r' then "\\r"
  else if c = '\t' then "\\t"
  else if c.toNat = 0 then "\\0"
  else if c.showsAsCode then "\\u\x7b" ++ hexDigits c.toNat ++ "\x7d"
  else c.toString

/-- A text between double quotes, as messages show it. -/
def debugQuote (s : String) : String :=
  "\"" ++ String.join (s.toList.map debugEscape) ++ "\""

end EntityGateway
