import EntityGateway.Service.Lookup
import EntityGateway.Sorted

/-!
# The configuration catalog

What the active configuration registers: its data sources and its attribute types. The
configuration document is read as a catalog (absent lists read as empty). An attribute type is
internal when its code or its feature type is a key type; it takes the attribute class of its
feature type. The listing can be narrowed to one attribute class or feature type (compared
trimmed and upper-cased) and leaves out internal types unless asked.
-/

namespace EntityGateway

open Decoder

/-- A feature type of a configuration. -/
structure CatalogFeatureType where
  code : String
  attributeClass : Option String

/-- An attribute of a configuration. -/
structure CatalogAttribute where
  code : String
  featureType : Option String

/-- What a configuration document registers. -/
structure Catalog where
  dataSources : List String
  featureTypes : List CatalogFeatureType
  attributes : List CatalogAttribute

namespace Catalog

def decode : Decoder Catalog :=
  let featureType : Decoder CatalogFeatureType :=
    record "RawFeatureType" [field "FTYPE_CODE" .required string, field "ATTR_CLASS" .defaulted (option string)]
      fun ms => do return ⟨← req ms "FTYPE_CODE" string, ← opt ms "ATTR_CLASS" string⟩
  let attr : Decoder CatalogAttribute :=
    record "RawAttribute" [field "ATTR_CODE" .required string, field "FTYPE_CODE" .defaulted (option string)]
      fun ms => do return ⟨← req ms "ATTR_CODE" string, ← opt ms "FTYPE_CODE" string⟩
  record "RawConfig"
    [field "DATA_SOURCES" .defaulted (list string), field "FEATURE_TYPES" .defaulted (list featureType),
     field "ATTRIBUTES" .defaulted (list attr)]
    fun ms => do
      return ⟨← dflt ms "DATA_SOURCES" (list string) [], ← dflt ms "FEATURE_TYPES" (list featureType) [],
        ← dflt ms "ATTRIBUTES" (list attr) []⟩

end Catalog

/-- A shown attribute type. -/
structure AttributeTypeView where
  code : String
  featureType : Option String
  attributeClass : Option String
  internal : Bool
  deriving DecidableEq, Repr

def AttributeTypeView.toJson (v : AttributeTypeView) : Json :=
  Json.objOf [some ("attributeCode", .string v.code), v.featureType.map fun t => ("featureType", .string t),
    v.attributeClass.map fun c => ("attributeClass", .string c), some ("internal", .bool v.internal)]

/-- What an attribute type listing keeps. -/
structure AttributeTypeFilter where
  attributeClass : Option String := none
  featureType : Option String := none
  withInternal : Bool := false

namespace AttributeTypeFilter

/-- A filter with its codes trimmed and upper-cased. -/
def make (attributeClass featureType : Option String) (withInternal : Bool) : AttributeTypeFilter :=
  ⟨attributeClass.map fun c => c.trimBlank.upper, featureType.map fun t => t.trimBlank.upper, withInternal⟩

def accepts (f : AttributeTypeFilter) (v : AttributeTypeView) : Bool :=
  (f.withInternal || !v.internal) &&
    (match f.attributeClass with
     | some c => v.attributeClass == some c
     | none => true) &&
    (match f.featureType with
     | some t => v.featureType == some t
     | none => true)

end AttributeTypeFilter

/-- A data source as clients see it. -/
def dataSourceJson (code : String) : Json :=
  Json.obj [("dataSource", Json.obj [("dataSourceCode", .string code)])]

/-- Attribute types as clients see them. -/
def attributeTypesJson (vs : List AttributeTypeView) : Json :=
  Json.obj [("attributeTypes", .array (vs.map AttributeTypeView.toJson))]

namespace Service

/-- The active configuration as a catalog, and its document. -/
def catalog (e : Engine σ) : Service σ (Catalog × Json) := do
  let document ← call e.exportConfig
  return (← lift ((Catalog.decode document).mapError fun m => .malformed ("config payload: " ++ m)), document)

/-- A registered data source, its code trimmed and upper-cased. -/
def dataSource (e : Engine σ) (code : String) : Service σ (Answer String) := do
  let code := code.trimBlank.upper
  let (c, _) ← catalog e
  if !c.dataSources.contains code then lift (.error (.notFound ("data source " ++ code)))
  return ⟨code, Json.obj [("DATA_SOURCE_CODE", .string code)]⟩

/-- The attribute types the filter keeps, in configuration order. -/
def attributeTypes (e : Engine σ) (f : AttributeTypeFilter) : Service σ (Answer (List AttributeTypeView)) := do
  let (c, document) ← catalog e
  let classes := c.featureTypes.foldl (fun acc t => updateAscending t.code t.attributeClass (fun _ => t.attributeClass) acc) []
  let views := c.attributes.map fun a =>
    { code := a.code, featureType := a.featureType,
      attributeClass := a.featureType.bind fun t => (classes.lookup t).bind id,
      internal := Projection.isInternalFeature a.code || (a.featureType.map Projection.isInternalFeature).getD false
      : AttributeTypeView }
  return ⟨views.filter f.accepts, (document.get? "ATTRIBUTES").getD .null⟩

end Service

end EntityGateway
