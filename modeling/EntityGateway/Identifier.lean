import EntityGateway.Error
import EntityGateway.Json.Decode
import EntityGateway.Json.Parse
import EntityGateway.Json.Print
import EntityGateway.Text.Case

/-!
# Entity identifiers

An entity is named either by its id or by one of its records: a data source and a record id.
The data source is stored trimmed and upper-cased (`EntityIdentifier.ofRecord`).

`EntityIdentifier.parse` reads the text forms:

* a 64-bit integer, with an optional sign: an entity id;
* a JSON object `{"src": DS, "id": RID}` (or with `dataSource` and `recordId`): a record;
* a delimiter that is neither a letter nor a digit, then the data source, the delimiter again,
  and the record id, as in `:CUSTOMERS:1001` or `|WATCHLIST|A|B`.

`EntityIdentifier.ofJson` reads a JSON value: a number, a record object or a text.
`EntityIdentifier.display` writes an id in decimal and a record as the compact object
`{"id":RID,"src":DS}`.

`Identifiers` is a set of identifiers that keeps the order of first insertion.
-/

namespace EntityGateway

/-- A name of an entity. -/
inductive EntityIdentifier where
  /-- One of the entity's records. -/
  | record (dataSource recordId : String)
  /-- The entity's id. -/
  | entity (id : Int)
  deriving DecidableEq, Repr

/-- The two kinds of identifier. -/
inductive IdentifierKind where
  | record
  | entity
  deriving DecidableEq, Repr

/-- The parts of a list before and after the first occurrence of `d`. -/
def splitAtFirst? [BEq α] (xs : List α) (d : α) : Option (List α × List α) :=
  match xs with
  | [] => none
  | x :: rest =>
    if x == d then some ([], rest)
    else (splitAtFirst? rest d).map fun (a, b) => (x :: a, b)

namespace EntityIdentifier

/-- A record identifier, with the data source trimmed and upper-cased. -/
def ofRecord (dataSource recordId : String) : EntityIdentifier :=
  .record dataSource.trimBlank.upper recordId

/-- The kind of an identifier. -/
def kind : EntityIdentifier → IdentifierKind
  | .record _ _ => .record
  | .entity _ => .entity

/-- The data source of a record identifier. -/
def dataSource? : EntityIdentifier → Option String
  | .record ds _ => some ds
  | .entity _ => none

/-- The text of an identifier: an id in decimal, a record as a compact JSON object. -/
def display : EntityIdentifier → String
  | .entity id => toString id
  | .record ds rid => "\x7b\"id\":" ++ jsonQuote rid ++ ",\"src\":" ++ jsonQuote ds ++ "\x7d"

/-- The value of a signed decimal integer of 64 bits: an optional sign, then ASCII digits. -/
def parseInt64? (s : String) : Option Int :=
  let (negative, digits) :=
    match s.toList with
    | '-' :: ds => (true, ds)
    | '+' :: ds => (false, ds)
    | ds => (false, ds)
  if digits.isEmpty || !digits.all Char.isDigit then none
  else
    let n : Nat := digits.foldl (fun n c => 10 * n + (c.toNat - 48)) 0
    let v : Int := if negative then -(n : Int) else n
    if -(Nat.pow 2 63 : Int) ≤ v ∧ v < (Nat.pow 2 63 : Int) then some v else none

/-- The text of a record member: a text as it is, a number in its JSON form. -/
def memberText? : Json → Option String
  | .string s => some s
  | .number n => some n.text
  | _ => none

/-- The first of the given members that is a text or a number. -/
def firstMember? (ms : List (String × Json)) (names : List String) : Option String :=
  names.findSome? fun n => (ms.lookup n).bind memberText?

/-- Read a record identifier from the members of a JSON object. -/
def ofMembers (ms : List (String × Json)) : Except GatewayError EntityIdentifier :=
  let fault := GatewayError.invalid
    ("record identifier needs a data source and record id: " ++ (Json.object ms).compact)
  match firstMember? ms ["src", "dataSource"], firstMember? ms ["id", "recordId"] with
  | some ds, some rid => if ds.trimBlank ≠ "" ∧ rid ≠ "" then .ok (ofRecord ds rid) else .error fault
  | _, _ => .error fault

/-- The fault of a text that is no identifier. -/
def unrecognized (text : String) : GatewayError := .invalid ("unrecognized entity identifier: " ++ text)

/-- Read the delimited record form: a delimiter that is neither a letter nor a digit, the data
source, the delimiter again, and the record id. -/
def delimited (t : String) : Except GatewayError EntityIdentifier :=
  match t.toList with
  | d :: rest =>
    if d.isAlnum then .error (unrecognized t)
    else
      match splitAtFirst? rest d with
      | some (ds, rid) =>
        if (String.ofList ds).trimBlank ≠ "" ∧ rid ≠ [] then .ok (ofRecord (String.ofList ds) (String.ofList rid))
        else .error (unrecognized t)
      | none => .error (unrecognized t)
  | [] => .error (unrecognized t)

/-- Read an identifier from its text form. -/
def parse (text : String) : Except GatewayError EntityIdentifier :=
  let t := text.trimBlank
  if t = "" then .error (.invalid "empty entity identifier")
  else if t.startsWith "\x7b" then
    match Json.parse t with
    | .error e => .error (.invalid ("malformed record identifier " ++ t ++ ": " ++ e))
    | .ok (.object ms) => ofMembers ms
    | .ok j => .error (unrecognized j.compact)
  else
    match parseInt64? t with
    | some id => .ok (.entity id)
    | none => delimited t

/-- Read an identifier from a JSON value: a number is an entity id, a text is read by `parse`,
an object is a record. -/
def ofJson : Json → Except GatewayError EntityIdentifier
  | .number n =>
    match n.toInt64? with
    | some id => .ok (.entity id)
    | none => .error (.invalid ("entity id out of range: " ++ n.text))
  | .string s => parse s
  | .object ms => ofMembers ms
  | j => .error (unrecognized j.compact)

end EntityIdentifier

/-- A set of identifiers in the order they were first inserted. -/
structure Identifiers where
  items : List EntityIdentifier
  deriving DecidableEq, Repr

namespace Identifiers

/-- The empty set. -/
def empty : Identifiers := ⟨[]⟩

/-- Add an identifier at the end unless it is already present. -/
def insert (s : Identifiers) (i : EntityIdentifier) : Identifiers :=
  if s.items.contains i then s else ⟨s.items ++ [i]⟩

/-- Add identifiers in order. -/
def insertAll (s : Identifiers) (is : List EntityIdentifier) : Identifiers := is.foldl insert s

/-- The set of the given identifiers, in first-seen order. -/
def ofList (is : List EntityIdentifier) : Identifiers := empty.insertAll is

/-- Read identifiers from JSON values, in order; the first that fails ends the reading. -/
def ofJsonList (vs : List Json) : Except GatewayError Identifiers := do
  let is ← vs.mapM EntityIdentifier.ofJson
  return ofList is

/-- Read a list parameter: a JSON array of identifier values, one JSON record object, or
identifiers separated by commas. Blank text is the empty set. -/
def parse (text : String) : Except GatewayError Identifiers :=
  let t := text.trimBlank
  if t = "" then .ok empty
  else if t.startsWith "[" then
    match Json.parse t with
    | .error e => .error (.invalid ("malformed identifier list " ++ t ++ ": " ++ e))
    | .ok (.array vs) => ofJsonList vs
    | .ok j => .error (.invalid ("malformed identifier list " ++ t ++ ": " ++
        Decoder.invalidType j "a sequence"))
  else if t.startsWith "\x7b" then
    (EntityIdentifier.parse t).map fun i => ofList [i]
  else do
    let tokens := ((t.splitOn ",").map String.trimBlank).filter (· ≠ "")
    let is ← tokens.mapM EntityIdentifier.parse
    return ofList is

/-- The one kind of all identifiers, `none` for the empty set; mixed kinds are an error naming
`what`. -/
def homogeneousKind (s : Identifiers) (what : String) : Except GatewayError (Option IdentifierKind) :=
  match s.items with
  | [] => .ok none
  | i :: rest =>
    if rest.all (·.kind == i.kind) then .ok (some i.kind)
    else .error (.invalid (what ++ " must be all entity ids or all record identifiers"))

end Identifiers

/-- Two identifiers used as a pair must be of one kind; the error names `what`. -/
def ensureSameKind (a b : EntityIdentifier) (what : String) : Except GatewayError Unit :=
  if a.kind = b.kind then .ok ()
  else .error (.invalid (what ++ " must both be entity ids or both be record identifiers"))

end EntityGateway
