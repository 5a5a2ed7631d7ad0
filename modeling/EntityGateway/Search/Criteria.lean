import EntityGateway.Error
import EntityGateway.Sorted
import EntityGateway.Json.Parse
import EntityGateway.Json.Print
import EntityGateway.Text.Case

/-!
# Search criteria

Search criteria map attribute codes to sets of values; several values of one code are
alternatives, a candidate matching any of them counts. Codes are trimmed and upper-cased,
values trimmed, and a blank code or value is skipped. Both are kept in ascending order, which is
the order the engine receives them in.

Criteria are read from a JSON object (a value or a list of values per code; strings and numbers
count, `null` is skipped), from JSON text, or from one `KEY:VALUE` pair.
-/

namespace EntityGateway

/-- Attribute codes and the alternative values of each, both in ascending order. -/
structure SearchCriteria where
  attributes : List (String × List String) := []
  deriving DecidableEq, Repr

namespace SearchCriteria

/-- Add one value of an attribute; blank ones are skipped. -/
def insert (c : SearchCriteria) (code value : String) : SearchCriteria :=
  let a := code.trimBlank.upper
  let v := value.trimBlank
  if a.isEmpty || v.isEmpty then c
  else ⟨updateAscending a [] (insertAscending v) c.attributes⟩

/-- Add the values of one member of a criteria object. -/
def mergeValues (c : SearchCriteria) (code : String) : List Json → Except GatewayError SearchCriteria
  | [] => .ok c
  | .string s :: rest => mergeValues (c.insert code s) code rest
  | .number n :: rest => mergeValues (c.insert code n.text) code rest
  | .null :: rest => mergeValues c code rest
  | other :: _ =>
    .error (.invalid ("unsupported value for search attribute " ++ code ++ ": " ++ other.compact))

/-- Add the members of a JSON object of attribute codes and values or lists of values. -/
def mergeJson (c : SearchCriteria) (j : Json) : Except GatewayError SearchCriteria :=
  match j with
  | .object ms =>
    ms.foldlM (fun c (a, v) => match v with
      | .array items => c.mergeValues a items
      | single => c.mergeValues a [single]) c
  | other => .error (.invalid ("search criteria must be a JSON object: " ++ other.compact))

/-- Add the criteria of JSON text; blank text adds nothing. -/
def mergeJsonText (c : SearchCriteria) (text : String) : Except GatewayError SearchCriteria :=
  if text.trimBlank.isEmpty then .ok c
  else
    match Json.parse text with
    | .ok j => c.mergeJson j
    | .error e => .error (.invalid ("malformed search criteria: " ++ e))

/-- Add one `KEY:VALUE` pair, split at the first colon; neither side may be blank. -/
def mergePair (c : SearchCriteria) (pair : String) : Except GatewayError SearchCriteria :=
  match pair.toList.span (· ≠ ':') with
  | (before, _ :: after) =>
    let a := String.ofList before
    let v := String.ofList after
    if a.trimBlank.isEmpty || v.trimBlank.isEmpty then
      .error (.invalid ("search attribute must look like KEY:VALUE: " ++ pair))
    else .ok (c.insert a v)
  | (_, []) => .error (.invalid ("search attribute must look like KEY:VALUE: " ++ pair))

def isEmpty (c : SearchCriteria) : Bool := c.attributes.isEmpty

/-- The number of attribute codes. -/
def size (c : SearchCriteria) : Nat := c.attributes.length

/-- The form the engine receives: each code with the list of its values. -/
def engineValue (c : SearchCriteria) : Json :=
  .object (c.attributes.map fun (a, vs) => (a, Json.strings vs))

end SearchCriteria

end EntityGateway
