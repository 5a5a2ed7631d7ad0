import EntityGateway.Error
import EntityGateway.Text.Case

/-!
# Rendering options and engine flags

A request chooses how much of an entity to show: a `DetailLevel`, a `FeatureMode`, a
`RelationshipMode`, and three switches. Each choice is read from text by trimming and
upper-casing it.

`RenderOptions.engineFlags` asks the engine for what the options render and nothing more: records
unless the level is `summary`; with `forceMinimal` only that and, unless relationships are off,
the related entities; otherwise features (with their statistics and internal features when
asked) unless the feature mode is `none`, record data at the `verbose` level, related entities
for `summarized`, and their details too for `full`.
-/

namespace EntityGateway

/-- How much of an entity to show. -/
inductive DetailLevel where
  | minimal
  | brief
  | summary
  | verbose
  deriving DecidableEq, Repr

namespace DetailLevel

/-- Read a level from text. -/
def parse (text : String) : Except GatewayError DetailLevel :=
  match text.trimBlank.upper with
  | "MINIMAL" => .ok .minimal
  | "BRIEF" => .ok .brief
  | "SUMMARY" => .ok .summary
  | "VERBOSE" => .ok .verbose
  | other => .error (.invalid ("detailLevel must be one of MINIMAL, BRIEF, SUMMARY, VERBOSE: " ++ other))

/-- Every level but `minimal` shows names and record summaries. -/
def showsName (l : DetailLevel) : Bool := l != .minimal

/-- Every level but `summary` lists the records. -/
def showsRecords (l : DetailLevel) : Bool := l != .summary

/-- The `summary` and `verbose` levels show when an entity was last seen. -/
def showsLastSeen (l : DetailLevel) : Bool := l == .summary || l == .verbose

/-- The level's name. -/
def code : DetailLevel → String
  | .minimal => "MINIMAL"
  | .brief => "BRIEF"
  | .summary => "SUMMARY"
  | .verbose => "VERBOSE"

end DetailLevel

/-- Which features to show. -/
inductive FeatureMode where
  | none
  | representative
  | withDuplicates
  deriving DecidableEq, Repr

namespace FeatureMode

/-- Read a mode from text. -/
def parse (text : String) : Except GatewayError FeatureMode :=
  match text.trimBlank.upper with
  | "NONE" => .ok .none
  | "REPRESENTATIVE" => .ok .representative
  | "WITH_DUPLICATES" => .ok .withDuplicates
  | other => .error (.invalid ("featureMode must be one of NONE, REPRESENTATIVE, WITH_DUPLICATES: " ++ other))

/-- The mode's name. -/
def code : FeatureMode → String
  | .none => "NONE"
  | .representative => "REPRESENTATIVE"
  | .withDuplicates => "WITH_DUPLICATES"

end FeatureMode

/-- How to show related entities. -/
inductive RelationshipMode where
  | none
  | summarized
  | full
  deriving DecidableEq, Repr

namespace RelationshipMode

/-- Read a mode from text; `FALSE` is `none` and `TRUE` is `summarized`. -/
def parse (text : String) : Except GatewayError RelationshipMode :=
  match text.trimBlank.upper with
  | "NONE" | "FALSE" => .ok .none
  | "PARTIAL" | "TRUE" => .ok .summarized
  | "FULL" => .ok .full
  | other => .error (.invalid ("relationship mode must be NONE, PARTIAL, FULL or a boolean: " ++ other))

/-- The mode's name. -/
def code : RelationshipMode → String
  | .none => "NONE"
  | .summarized => "PARTIAL"
  | .full => "FULL"

end RelationshipMode

/-- What an engine is asked to include in an entity's data. -/
structure EngineFlags where
  features : Bool := false
  records : Bool := false
  recordData : Bool := false
  featureStats : Bool := false
  internalFeatures : Bool := false
  related : Bool := false
  relatedDetails : Bool := false
  deriving DecidableEq, Repr

namespace EngineFlags

/-- The flags as bits: 1 features, 2 records, 4 record data, 8 feature statistics, 16 internal
features, 32 related entities, 64 their details. -/
def bits (f : EngineFlags) : Nat :=
  (if f.features then 1 else 0) + (if f.records then 2 else 0) + (if f.recordData then 4 else 0) +
  (if f.featureStats then 8 else 0) + (if f.internalFeatures then 16 else 0) +
  (if f.related then 32 else 0) + (if f.relatedDetails then 64 else 0)

/-- The flags of a number's bits. -/
def ofBits (n : Nat) : EngineFlags :=
  ⟨n.testBit 0, n.testBit 1, n.testBit 2, n.testBit 3, n.testBit 4, n.testBit 5, n.testBit 6⟩

/-- Every flag set in `g` is set in `f`. -/
def contains (f g : EngineFlags) : Bool :=
  (!g.features || f.features) && (!g.records || f.records) && (!g.recordData || f.recordData) &&
    (!g.featureStats || f.featureStats) && (!g.internalFeatures || f.internalFeatures) &&
    (!g.related || f.related) && (!g.relatedDetails || f.relatedDetails)

end EngineFlags

/-- How one request renders entities. -/
structure RenderOptions where
  detailLevel : DetailLevel := .verbose
  featureMode : FeatureMode := .withDuplicates
  forceMinimal : Bool := false
  withFeatureStats : Bool := false
  withInternalFeatures : Bool := false
  relationshipMode : RelationshipMode := .summarized
  deriving DecidableEq, Repr

namespace RenderOptions

/-- The engine flags asking for exactly what the options render. -/
def engineFlags (o : RenderOptions) : EngineFlags :=
  let records := o.detailLevel.showsRecords
  let related := o.relationshipMode != RelationshipMode.none
  if o.forceMinimal then ⟨false, records, false, false, false, related, false⟩
  else
    let features := o.featureMode != FeatureMode.none
    ⟨features, records, o.detailLevel == DetailLevel.verbose, features && o.withFeatureStats,
      features && o.withInternalFeatures, related, o.relationshipMode == RelationshipMode.full⟩

end RenderOptions

end EntityGateway
