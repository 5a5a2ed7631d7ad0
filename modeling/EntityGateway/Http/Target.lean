import EntityGateway.Http.Url

/-!
# Request lines

A request names a method and a target, and both are checked before the request goes anywhere.

* `Http.isMethodToken`: a method is a non-empty run of token characters (`Http.tokenChar`).
  Case counts: `get` is a method of its own, not `GET`.
* `RequestTarget.parse` reads a target in one of four forms: `*`; a path starting with `/`, then
  an optional query after the first `?`; an absolute form `scheme://authority` followed by a
  path and query, where nothing at all after `://` is an empty target; or an authority alone.
  A fragment after `#` is cut off unread. Each part
  allows its own characters (`Http.pathChar`, `Http.queryChar`, `Http.authorityChar`), and any
  other is refused. Characters beyond ASCII are allowed in the path and the query. An authority
  holds at most one port colon outside brackets, balanced brackets, no `%` outside its user
  part, and something after its `@`. A fault is worded as the refusal says it
  (`TargetFault.text`).

A scheme written `http` or `https` in any case is shown in lower case; any other scheme is shown
as written.
-/

namespace EntityGateway

namespace Http

/-- A character of a token, as a method is spelt: an ASCII letter or digit, or one of
``!#$%&'*+-.^_`|~``. -/
def tokenChar (c : Char) : Bool :=
  c.isAlphanum ||
    [0x21, 0x23, 0x24, 0x25, 0x26, 0x27, 0x2A, 0x2B, 0x2D, 0x2E, 0x5E, 0x5F, 0x60, 0x7C,
      0x7E].contains c.toNat

/-- The text is a method: a non-empty run of token characters. -/
def isMethodToken (method : String) : Bool :=
  !method.isEmpty && method.toList.all tokenChar

/-- A character allowed as written in a path: the visible ASCII characters other than
`#`, `<`, `>`, `?` and the backquote, and every character beyond ASCII. -/
def pathChar (c : Char) : Bool :=
  let n := c.toNat
  0x80 ≤ n || (0x21 ≤ n && n ≤ 0x7E && n != 0x23 && n != 0x3C && n != 0x3E && n != 0x3F &&
    n != 0x60)

/-- A character allowed as written in a query: the visible ASCII characters other than `"`,
`#`, `<` and `>`, and every character beyond ASCII. -/
def queryChar (c : Char) : Bool :=
  let n := c.toNat
  0x80 ≤ n || (0x21 ≤ n && n ≤ 0x7E && n != 0x22 && n != 0x23 && n != 0x3C && n != 0x3E)

/-- A character that may stand in an authority as it is: ASCII letters and digits and
`!$&'()*+,-.;=_~`, besides the marks `:`, `@`, `[` and `]`, which have their own rules. -/
def authorityChar (c : Char) : Bool :=
  c.isAlphanum ||
    [0x21, 0x24, 0x26, 0x27, 0x28, 0x29, 0x2A, 0x2B, 0x2C, 0x2D, 0x2E, 0x3B, 0x3D, 0x5F,
      0x7E].contains c.toNat

/-- A character of a scheme: an ASCII letter or digit, `+`, `-`, `.` or `~`. -/
def schemeChar (c : Char) : Bool :=
  c.isAlphanum || c = '+' || c = '-' || c = '.' || c = '~'

end Http

/-- Why a target is refused. -/
inductive TargetFault where
  | empty
  | tooLong
  | invalidChar
  | invalidAuthority
  | invalidFormat
  | schemeTooLong
  deriving DecidableEq, Repr

/-- The wording of a fault. -/
def TargetFault.text : TargetFault → String
  | .empty => "empty string"
  | .tooLong => "uri too long"
  | .invalidChar => "invalid uri character"
  | .invalidAuthority => "invalid authority"
  | .invalidFormat => "invalid format"
  | .schemeTooLong => "scheme too long"

/-- A request target, read: the scheme and authority as a link shows them (empty for a target
that has none), the path and the query. -/
structure RequestTarget where
  origin : String
  path : String
  query : Option String
  deriving DecidableEq, Repr

namespace RequestTarget

/-- The longest target, in bytes. -/
def maxLength : Nat := 65534

/-- The longest scheme. -/
def maxSchemeLength : Nat := 64

/-- A query up to a `#`, each character checked. -/
def readQuery : List Char → Except TargetFault (List Char)
  | [] => .ok []
  | c :: rest =>
    if c = '#' then .ok []
    else if Http.queryChar c then (c :: ·) <$> readQuery rest
    else .error .invalidChar

/-- A path up to a `?` or a `#`, then the query after a `?`, each character checked. -/
def readPath : List Char → Except TargetFault (List Char × Option (List Char))
  | [] => .ok ([], none)
  | c :: rest =>
    if c = '?' then (fun q => ([], some q)) <$> readQuery rest
    else if c = '#' then .ok ([], none)
    else if Http.pathChar c then (fun (p, q) => (c :: p, q)) <$> readPath rest
    else .error .invalidChar

/-- What is learnt of an authority while reading it. -/
structure AuthorityScan where
  /-- Colons since the last `@` or `]`. -/
  colons : Nat := 0
  /-- A `[` was read. -/
  opened : Bool := false
  /-- A `]` was read. -/
  closed : Bool := false
  /-- A `%` was read since the last `@` or `]`. -/
  percent : Bool := false
  /-- The position of the last `@`. -/
  lastAt : Option Nat := none

/-- Read an authority from position `i` on, to the first `/`, `?` or `#` or the end; the
answer is where it ends, with what was learnt. -/
def scanAuthority : List Char → Nat → AuthorityScan → Except TargetFault (Nat × AuthorityScan)
  | [], i, a => .ok (i, a)
  | c :: rest, i, a =>
    if c = '/' ∨ c = '?' ∨ c = '#' then .ok (i, a)
    else if c = ':' then
      if 8 ≤ a.colons then .error .invalidAuthority
      else scanAuthority rest (i + 1) { a with colons := a.colons + 1 }
    else if c = '[' then
      if a.percent || a.opened then .error .invalidAuthority
      else scanAuthority rest (i + 1) { a with opened := true }
    else if c = ']' then
      if !a.opened || a.closed then .error .invalidAuthority
      else scanAuthority rest (i + 1) { a with closed := true, colons := 0, percent := false }
    else if c = '@' then
      scanAuthority rest (i + 1) { a with lastAt := some i, colons := 0, percent := false }
    else if c = '%' then scanAuthority rest (i + 1) { a with percent := true }
    else if Http.authorityChar c then scanAuthority rest (i + 1) a
    else .error .invalidChar

/-- The length of the authority at the front of a text, once its rules are checked. -/
def authorityEnd (cs : List Char) : Except TargetFault Nat := do
  let (n, a) ← scanAuthority cs 0 {}
  if a.opened != a.closed then throw .invalidAuthority
  if 1 < a.colons then throw .invalidAuthority
  if 0 < n ∧ a.lastAt = some (n - 1) then throw .invalidAuthority
  if a.percent then throw .invalidAuthority
  return n

/-- A scheme as a link shows it: `http` and `https` in lower case, any other as written. -/
def schemeText (scheme : String) : String :=
  let lower := String.ofList (scheme.toList.map Char.toLower)
  if lower = "http" ∨ lower = "https" then lower else scheme

/-- The scheme of a text that starts with one and `://` (from position `i` of a run of scheme
characters), and what follows the `://`. -/
def schemeFrom : List Char → Nat → List Char → Except TargetFault (Option (String × List Char))
  | [], _, _ => .ok none
  | c :: rest, i, seen =>
    if c = ':' then
      if rest.take 2 = ['/', '/'] then
        if maxSchemeLength < i then .error .schemeTooLong
        else .ok (some (String.ofList seen.reverse, rest.drop 2))
      else .ok none
    else if Http.schemeChar c then schemeFrom rest (i + 1) (c :: seen)
    else .ok none

/-- The scheme in front of a text and what follows its `://`, if it has one: `http://` and
`https://` in any case, or a run of scheme characters and `://` in a text of more than three
bytes. -/
def scheme? (cs : List Char) : Except TargetFault (Option (String × List Char)) :=
  let lower := cs.map Char.toLower
  if lower.take 7 = "http://".toList then .ok (some ("http", cs.drop 7))
  else if lower.take 8 = "https://".toList then .ok (some ("https", cs.drop 8))
  else if 3 < (String.ofList cs).utf8ByteSize then schemeFrom cs 0 []
  else .ok none

/-- Read a target. -/
def parse (target : String) : Except TargetFault RequestTarget :=
  let cs := target.toList
  if maxLength < target.utf8ByteSize then .error .tooLong
  else
    match cs with
    | [] => .error .empty
    | ['/'] => .ok ⟨"", "/", none⟩
    | ['*'] => .ok ⟨"", "*", none⟩
    | [c] => do
      let n ← authorityEnd [c]
      if n ≠ 1 then throw .invalidChar
      return ⟨String.ofList [c], "", none⟩
    | '/' :: _ => do
      let (path, query) ← readPath cs
      return ⟨"", String.ofList path, query.map String.ofList⟩
    | _ => do
      match ← scheme? cs with
      | none =>
        let n ← authorityEnd cs
        if n ≠ cs.length then throw .invalidFormat
        return ⟨target, "", none⟩
      | some (scheme, rest) =>
        if rest.isEmpty then throw .empty
        let n ← authorityEnd rest
        if n = 0 then throw .invalidFormat
        let (path, query) ← readPath (rest.drop n)
        return ⟨schemeText scheme ++ "://" ++ String.ofList (rest.take n),
          (if path.isEmpty then "/" else String.ofList path), query.map String.ofList⟩

/-- The target as a link to the request itself. -/
def link (t : RequestTarget) : String :=
  t.origin ++ t.path ++ (t.query.map ("?" ++ ·)).getD ""

/-- The segments of the path, as written: what stands between its slashes; none when the path
does not start with a slash. -/
def segments? (t : RequestTarget) : Option (List String) :=
  match t.path.splitOn "/" with
  | "" :: rest => some rest
  | _ => none

/-- The query parameters, decoded. -/
def params (t : RequestTarget) : QueryParams :=
  ⟨Url.formPairs (t.query.getD "")⟩

end RequestTarget

end EntityGateway
