import EntityGateway.Digest.Sha256
import EntityGateway.Json.Print
import EntityGateway.Sorted

/-!
# Engine configurations

A configuration is a JSON document naming the data sources, the feature types with their
attribute classes, and the attributes with the feature type each feeds. `defaultConfig` is the
stock document for a set of data sources. A configuration is known by `configIdOf`, the first
six bytes of the SHA-256 digest of its compact text, so the same document always has the same
id.

`EngineSettings` is what an engine reads from a document: the data sources, the attribute class
of each feature type and the feature type of each attribute; entries that lack a text are
skipped, and a later entry for the same code wins.
-/

namespace EntityGateway

/-- The stock feature types and their attribute classes. -/
def stockFeatureTypes : List (String × String) :=
  [("NAME", "NAME"), ("ADDRESS", "ADDRESS"), ("PHONE", "PHONE"), ("DOB", "CHARACTERISTIC"),
   ("GENDER", "CHARACTERISTIC"), ("EMAIL", "IDENTIFIER"), ("SSN", "IDENTIFIER"),
   ("PASSPORT", "IDENTIFIER"), ("DRLIC", "IDENTIFIER")]

/-- The stock attributes and the feature type of each. -/
def stockAttributes : List (String × String) :=
  [("NAME_FULL", "NAME"), ("NAME_ORG", "NAME"), ("ADDR_FULL", "ADDRESS"), ("PHONE_NUMBER", "PHONE"),
   ("DATE_OF_BIRTH", "DOB"), ("GENDER", "GENDER"), ("EMAIL_ADDRESS", "EMAIL"), ("SSN_NUMBER", "SSN"),
   ("PASSPORT_NUMBER", "PASSPORT"), ("DRIVERS_LICENSE_NUMBER", "DRLIC")]

/-- The configuration registering the given data sources (in ascending order) with the stock
feature types and attributes. -/
def defaultConfig (dataSources : List String) : Json :=
  Json.obj [("DATA_SOURCES", Json.strings dataSources),
    ("FEATURE_TYPES", .array (stockFeatureTypes.map fun (t, c) =>
      Json.obj [("FTYPE_CODE", .string t), ("ATTR_CLASS", .string c)])),
    ("ATTRIBUTES", .array (stockAttributes.map fun (a, t) =>
      Json.obj [("ATTR_CODE", .string a), ("FTYPE_CODE", .string t)]))]

/-- The stable id of a configuration document. -/
def configIdOf (document : Json) : Int := Sha256.prefixValue 6 document.compact

/-- What an engine reads from its configuration document. -/
structure EngineSettings where
  document : Json
  /-- The data sources, ascending. -/
  dataSources : List String
  /-- The attribute class of each feature type, by type. -/
  attributeClasses : List (String × String)
  /-- The feature type of each attribute, by attribute code. -/
  attributes : List (String × String)
  deriving Repr

namespace EngineSettings

/-- The entries of a list member of the document. -/
def entries (document : Json) (key : String) : List Json :=
  match document.get? key with
  | some (.array xs) => xs
  | _ => []

/-- The text members `a` and `b` of each entry that has both, a later entry winning. -/
def pairs (es : List Json) (a b : String) : List (String × String) :=
  es.foldl (fun acc e =>
    match (e.get? a).bind Json.str?, (e.get? b).bind Json.str? with
    | some x, some y => updateAscending x y (fun _ => y) acc
    | _, _ => acc) []

def ofDocument (document : Json) : EngineSettings :=
  { document,
    dataSources := (entries document "DATA_SOURCES").foldl (fun acc v =>
      match v with
      | .string s => insertAscending s acc
      | _ => acc) [],
    attributeClasses := pairs (entries document "FEATURE_TYPES") "FTYPE_CODE" "ATTR_CLASS",
    attributes := pairs (entries document "ATTRIBUTES") "ATTR_CODE" "FTYPE_CODE" }

end EngineSettings

end EntityGateway
