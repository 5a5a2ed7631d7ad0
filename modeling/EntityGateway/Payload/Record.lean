import EntityGateway.Payload.Entity

/-!
# Record payloads

What an engine answers about one record: the record as stored, the entity it resolves to, and
the record's feature values by type exactly as it stated them.
-/

namespace EntityGateway

open Decoder

/-- A stored record, the entity it resolves to and its stated feature values. -/
structure RecordData where
  entityId : Int
  record : EntityRecord
  values : List (String × List String)
  deriving DecidableEq, Repr

namespace RecordData

def decode : Decoder RecordData :=
  recordWithPart "RawRecordData"
    [field "ENTITY_ID" .required i64, field "JSON_DATA" .defaulted (map (list string))]
    EntityRecord.decode
    fun ms r => do
      return ⟨← req ms "ENTITY_ID" i64, r, ← dflt ms "JSON_DATA" (map (list string)) []⟩

def toJson (d : RecordData) : Json :=
  Json.objOf (some ("ENTITY_ID", Json.int d.entityId) :: d.record.members ++
    [some ("JSON_DATA", .object (d.values.map fun (k, vs) => (k, Json.strings vs)))])

end RecordData

end EntityGateway
