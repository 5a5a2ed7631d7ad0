import EntityGateway.Identifier
import EntityGateway.Projection.Options

/-!
# Query parameters

A request's query parameters are kept as the list of name and value pairs they were given in,
because several may repeat. A single value is the last one given; a required value must not be
blank; a flag is blank, `true`, `1` or `yes` for true and `false`, `0` or `no` for false, in any
case and around blanks; a number is a `u32` written in decimal, possibly after a `+`.
Rendering options are read from `detailLevel`, `featureMode`, `withRelated` (or
`withRelationships`) and three flags.
-/

namespace EntityGateway

/-- The query parameters of a request, in the order given. -/
structure QueryParams where
  pairs : List (String × String)
  deriving DecidableEq, Repr

/-- A decimal `u32`, possibly signed with `+`. -/
def parseU32? (text : String) : Option Nat :=
  let digits := match text.toList with
    | '+' :: rest => rest
    | cs => cs
  if digits.isEmpty || !digits.all Char.isDigit then none
  else
    let n := digits.foldl (fun n c => 10 * n + (c.toNat - '0'.toNat)) 0
    if n < Nat.pow 2 32 then some n else none

namespace QueryParams

/-- The last value given for a name. -/
def get (q : QueryParams) (name : String) : Option String :=
  (q.pairs.reverse.find? (·.1 = name)).map (·.2)

/-- Every value given for a name, in order. -/
def all (q : QueryParams) (name : String) : List String :=
  (q.pairs.filter (·.1 = name)).map (·.2)

/-- The last value of a name, which must not be blank. -/
def required (q : QueryParams) (name : String) : Except GatewayError String :=
  match q.get name with
  | some v => if v.trimBlank.isEmpty then .error (.invalid ("missing required parameter: " ++ name)) else .ok v
  | none => .error (.invalid ("missing required parameter: " ++ name))

/-- A switch, `default` when not given. -/
def flag (q : QueryParams) (name : String) (default : Bool) : Except GatewayError Bool :=
  match q.get name with
  | none => .ok default
  | some v =>
    match v.trimBlank.lower with
    | "" | "true" | "1" | "yes" => .ok true
    | "false" | "0" | "no" => .ok false
    | other => .error (.invalid (name ++ " must be true or false: " ++ other))

/-- A count, `default` when not given. -/
def number (q : QueryParams) (name : String) (default : Nat) : Except GatewayError Nat :=
  match q.get name with
  | none => .ok default
  | some v =>
    match parseU32? v.trimBlank with
    | some n => .ok n
    | none => .error (.invalid (name ++ " must be a non-negative integer: " ++ v))

/-- Whether the engine's own payload is to be returned too. -/
def withRaw (q : QueryParams) : Except GatewayError Bool := q.flag "withRaw" false

/-- The identifier a required parameter names. -/
def identifier (q : QueryParams) (name : String) : Except GatewayError EntityIdentifier := do
  EntityIdentifier.parse (← q.required name)

/-- The identifiers of a repeated single-identifier parameter and of a list parameter, merged
in the order first met. -/
def identifiers (q : QueryParams) (single list : String) : Except GatewayError Identifiers := do
  let s ← (q.all single).foldlM (fun s v => do return s.insert (← EntityIdentifier.parse v)) Identifiers.empty
  (q.all list).foldlM (fun s v => do return s.insertAll (← Identifiers.parse v).items) s

/-- The rendering options of a request, relationships shown by `defaultMode` unless asked. -/
def projection (q : QueryParams) (defaultMode : RelationshipMode) : Except GatewayError RenderOptions := do
  let level ← match q.get "detailLevel" with
    | some t => DetailLevel.parse t
    | none => pure .verbose
  let features ← match q.get "featureMode" with
    | some t => FeatureMode.parse t
    | none => pure .withDuplicates
  let relationships ← match (q.get "withRelated").orElse fun _ => q.get "withRelationships" with
    | some t => RelationshipMode.parse t
    | none => pure defaultMode
  return { detailLevel := level, featureMode := features, relationshipMode := relationships,
           forceMinimal := ← q.flag "forceMinimal" false,
           withFeatureStats := ← q.flag "withFeatureStats" false,
           withInternalFeatures := ← q.flag "withInternalFeatures" false }

end QueryParams

end EntityGateway
