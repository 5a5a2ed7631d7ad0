/-!
# Errors of the gateway

An engine reports a failure as a numeric code and a message (`EngineFailure`). The gateway turns
the codes of an unknown entity (37), an unknown record (33) and an unknown data source (2207)
into `GatewayError.notFound` with the engine's message, and every other code into
`GatewayError.engine` (`GatewayError.ofFailure`). `GatewayError.message` gives each error's
wording and `GatewayError.status` its HTTP status.
-/

namespace EntityGateway

/-- A failure reported by an engine. -/
structure EngineFailure where
  code : Int
  message : String
  deriving DecidableEq, Repr

namespace EngineFailure

/-- The code of an unknown data source. -/
def unknownDataSourceCode : Int := 2207

/-- The code of an unknown entity. -/
def unknownEntityCode : Int := 37

/-- The code of an unknown record. -/
def unknownRecordCode : Int := 33

/-- The code of an unknown or missing configuration. -/
def configurationCode : Int := 7221

/-- The engine knows no entity of this id. -/
def unknownEntity (id : Int) : EngineFailure :=
  ⟨unknownEntityCode, "Unknown resolved entity value '" ++ toString id ++ "'"⟩

/-- The engine knows no such record. -/
def unknownRecord (dataSource recordId : String) : EngineFailure :=
  ⟨unknownRecordCode, "Unknown record: dsrc[" ++ dataSource ++ "], record[" ++ recordId ++ "]"⟩

/-- The engine knows no such data source. -/
def unknownDataSource (dataSource : String) : EngineFailure :=
  ⟨unknownDataSourceCode, "Unknown data source: '" ++ dataSource ++ "'"⟩

end EngineFailure

/-- What a gateway call can fail with. -/
inductive GatewayError where
  /-- A looked-up thing does not exist. -/
  | notFound (what : String)
  /-- The request itself is wrong. -/
  | invalid (what : String)
  /-- The engine failed with a code that is not a lookup miss. -/
  | engine (code : Int) (message : String)
  /-- The engine answered with a payload of the wrong shape. -/
  | malformed (what : String)
  /-- No engine could take the request. -/
  | unavailable (what : String)
  /-- The engine answered with an entity that has neither records nor a record summary, which
  its contract rules out. -/
  | contractViolation (entityId : Int)
  deriving DecidableEq, Repr

namespace GatewayError

/-- The error of an engine failure. -/
def ofFailure (f : EngineFailure) : GatewayError :=
  if f.code = EngineFailure.unknownEntityCode ∨ f.code = EngineFailure.unknownRecordCode ∨
      f.code = EngineFailure.unknownDataSourceCode then .notFound f.message
  else .engine f.code f.message

/-- The wording of an error. -/
def message : GatewayError → String
  | .notFound t => "Not found: " ++ t
  | .invalid t => "Invalid argument: " ++ t
  | .engine c m => "Engine failure (" ++ toString c ++ "): " ++ m
  | .malformed t => "Malformed engine payload: " ++ t
  | .unavailable t => "Engine pool unavailable: " ++ t
  | .contractViolation id =>
    "engine contract violation: entity " ++ toString id ++ " has neither records nor a record summary"

/-- The HTTP status of an error. -/
def status : GatewayError → Nat
  | .notFound _ => 404
  | .invalid _ => 400
  | _ => 500

/-- The engine's code, for an engine failure. -/
def engineCode? : GatewayError → Option Int
  | .engine c _ => some c
  | _ => none

end GatewayError

end EntityGateway
