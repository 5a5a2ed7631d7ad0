import EntityGateway.Json.Print
import EntityGateway.Sorted

/-!
# Typed reading of JSON values

A `Decoder α` reads a value of type `α` from a JSON value, or names what is wrong with it in the
wording of the engine's payload contract:

* `invalid type: string "x", expected i64` when the value is of the wrong kind;
* `invalid value: integer `300`, expected u8` when a number is out of the type's range;
* `missing field `ENTITY_ID`` when a required member is absent;
* `unknown variant `MAYBE`, expected one of `A`, `B`` for an unknown name of an enumeration;
* `invalid length 0, expected struct X with 2 elements` for a record given as a short array.

A record (`Decoder.record`) is read from an object or, positionally, from an array. From an
object, the first member in key order whose value fails names the fault; failing that, the
first required field in declaration order that is absent. Unknown members are ignored. A record
with a `flattened` part reads the members that are not its own fields as that part.
-/

namespace EntityGateway

/-- A reader of typed values from JSON values. -/
abbrev Decoder (α : Type) := Json → Except String α

namespace Decoder

/-- How a message names a value that was not expected. -/
def describe : Json → String
  | .null => "null"
  | .bool b => "boolean `" ++ toString b ++ "`"
  | .number (.nat n _) => "integer `" ++ toString n ++ "`"
  | .number (.neg n _ _) => "integer `" ++ toString n ++ "`"
  | .number (.float x) => "floating point `" ++ x.jsonText ++ "`"
  | .string s => "string " ++ debugQuote s
  | .array _ => "sequence"
  | .object _ => "map"

/-- The fault of a value of the wrong kind. -/
def invalidType (j : Json) (expected : String) : String :=
  "invalid type: " ++ describe j ++ ", expected " ++ expected

/-- The fault of a value outside the expected range. -/
def invalidValue (what expected : String) : String :=
  "invalid value: " ++ what ++ ", expected " ++ expected

/-- The fault of an absent required field. -/
def missingField (name : String) : String := "missing field `" ++ name ++ "`"

/-- The fault of a sequence of the wrong length. -/
def invalidLength (n : Nat) (expected : String) : String :=
  "invalid length " ++ toString n ++ ", expected " ++ expected

/-- The fault of an unknown name of an enumeration. -/
def unknownVariant (name : String) (known : List String) : String :=
  let quoted := known.map fun k => "`" ++ k ++ "`"
  "unknown variant `" ++ name ++ "`, " ++
    match quoted with
    | [] => "there are no variants"
    | [k] => "expected " ++ k
    | ks => "expected one of " ++ ", ".intercalate ks

/-- A text. -/
def string : Decoder String
  | .string s => .ok s
  | j => .error (invalidType j "a string")

/-- A truth value. -/
def bool : Decoder Bool
  | .bool b => .ok b
  | j => .error (invalidType j "a boolean")

/-- An integer within `[lo, hi]`, named `name` in messages. -/
def intIn (name : String) (lo hi : Int) : Decoder Int
  | .number (.nat n _) =>
    if (n : Int) ≤ hi then .ok n else .error (invalidValue ("integer `" ++ toString n ++ "`") name)
  | .number (.neg n _ _) =>
    if lo ≤ n then .ok n else .error (invalidValue ("integer `" ++ toString n ++ "`") name)
  | j => .error (invalidType j name)

/-- A 64-bit signed integer. -/
def i64 : Decoder Int := intIn "i64" (-(Nat.pow 2 63 : Int)) ((Nat.pow 2 63 : Int) - 1)

/-- A 32-bit signed integer. -/
def i32 : Decoder Int := intIn "i32" (-(Nat.pow 2 31 : Int)) ((Nat.pow 2 31 : Int) - 1)

/-- A 64-bit unsigned integer. -/
def u64 : Decoder Nat := fun j => (intIn "u64" 0 ((Nat.pow 2 64 : Int) - 1) j).map Int.toNat

/-- A count. -/
def usize : Decoder Nat := fun j => (intIn "usize" 0 ((Nat.pow 2 64 : Int) - 1) j).map Int.toNat

/-- An 8-bit unsigned integer. -/
def u8 : Decoder Nat := fun j => (intIn "u8" 0 255 j).map Int.toNat

/-- A list, item by item. -/
def list (d : Decoder α) : Decoder (List α)
  | .array xs => xs.mapM d
  | j => .error (invalidType j "a sequence")

/-- A map from texts, member by member in key order. -/
def map (d : Decoder α) : Decoder (List (String × α))
  | .object ms => ms.mapM fun (k, v) => (d v).map (k, ·)
  | j => .error (invalidType j "a map")

/-- A map from texts into an ordered map, member by member: of two members of one key the later
wins. -/
def ascendingMap (d : Decoder α) : Decoder (AscendingMap String α) := fun j =>
  (map d j).map AscendingMap.ofList

/-- A value that may be `null`. -/
def option (d : Decoder α) : Decoder (Option α)
  | .null => .ok none
  | j => (d j).map some

/-- One of the named constants of an enumeration: a text, or an object with the name as its one
key and `null` as its value. -/
def enum (cases : List (String × α)) : Decoder α
  | .string s =>
    match cases.lookup s with
    | some a => .ok a
    | none => .error (unknownVariant s (cases.map (·.1)))
  | .object [(k, v)] =>
    match cases.lookup k with
    | some a => if v.isNull then .ok a else .error (invalidType v "unit")
    | none => .error (unknownVariant k (cases.map (·.1)))
  | .object _ => .error (invalidValue "map" "map with a single key")
  | j => .error (invalidType j "string or map")

/-- The fault of a decoding, if it fails. -/
def faultOf (r : Except String α) : Option String :=
  match r with
  | .ok _ => none
  | .error e => some e

/-- When a record may lack a field: `required` fields never, `optional` fields (that stand for
an absent value) when read from an object, `defaulted` fields always. -/
inductive Presence where
  | required
  | optional
  | defaulted
  deriving DecidableEq

/-- A field of a record: its name, when it may be absent, and the fault of reading a value. -/
structure Field where
  name : String
  presence : Presence
  fault : Json → Option String

/-- A field read by `d`. -/
def field (name : String) (presence : Presence) (d : Decoder α) : Field :=
  ⟨name, presence, fun j => faultOf (d j)⟩

/-- The first fault of a record read from members: the first member in key order whose value
fails, else the first required field in declaration order that is absent. -/
def membersFault (fields : List Field) (ms : List (String × Json)) : Option String :=
  let present := (ms.filterMap fun (k, v) => (fields.find? (·.name == k)).map (·, v))
  match present.findSome? fun (f, v) => f.fault v with
  | some e => some e
  | none =>
    (fields.find? fun f => f.presence == .required && (ms.lookup f.name).isNone).map
      fun f => missingField f.name

/-- The first fault of a record read from an array: fields in declaration order, an absent
field that is not defaulted ending the reading; then the array must not be longer. -/
def itemsFault (name : String) (fields : List Field) (xs : List Json) : Option String :=
  let n := fields.length
  let expected := "struct " ++ name ++ " with " ++ toString n ++ (if n = 1 then " element" else " elements")
  let rec go : Nat → List Field → List Json → Option String
    | _, [], rest => if rest.isEmpty then none
                     else some (invalidLength xs.length "fewer elements in array")
    | i, f :: fs, x :: rest => match f.fault x with
      | some e => some e
      | none => go (i + 1) fs rest
    | i, f :: fs, [] => if f.presence == .defaulted then go (i + 1) fs [] else some (invalidLength i expected)
  go 0 fields xs

/-- A record named `name` with the given fields, built by `build` from its members. -/
def record (name : String) (fields : List Field) (build : List (String × Json) → Except String α) :
    Decoder α
  | .object ms =>
    match build ms with
    | .ok a => .ok a
    | .error e => .error ((membersFault fields ms).getD e)
  | .array xs =>
    match itemsFault name fields xs with
    | some e => .error e
    | none => build ((fields.zip xs).map fun (f, x) => (f.name, x))
  | j => .error (invalidType j ("struct " ++ name))

/-- A record named `name` whose own fields are `fields` and whose other members form a part
read by `part`; `build` gets the members and the part. Only an object is such a record. -/
def recordWithPart (name : String) (fields : List Field) (part : Decoder β)
    (build : List (String × Json) → β → Except String α) : Decoder α
  | .object ms =>
    let rest := ms.filter fun (k, _) => !(fields.any (·.name == k))
    let result := do
      let p ← part (.object rest)
      build ms p
    match result with
    | .ok a => .ok a
    | .error e =>
      match membersFault fields ms with
      | some f => .error f
      | none => .error ((faultOf (part (.object rest))).getD e)
  | j => .error (invalidType j ("struct " ++ name))

/-- The value of a required member. -/
def req (ms : List (String × Json)) (name : String) (d : Decoder α) : Except String α :=
  match ms.lookup name with
  | some v => d v
  | none => .error (missingField name)

/-- The value of a member that stands for an absent value when absent or `null`. -/
def opt (ms : List (String × Json)) (name : String) (d : Decoder α) : Except String (Option α) :=
  match ms.lookup name with
  | some v => option d v
  | none => .ok none

/-- The value of a member, or `default` when absent. -/
def dflt (ms : List (String × Json)) (name : String) (d : Decoder α) (default : α) :
    Except String α :=
  match ms.lookup name with
  | some v => d v
  | none => .ok default

end Decoder

end EntityGateway
