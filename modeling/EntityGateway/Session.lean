import EntityGateway.Engine.Pool
import EntityGateway.Store.Sample

/-!
# Sessions on a local repository

A session holds a repository and the configuration of the engine working on it. The engine
starts with the repository's default configuration (registering the default configuration of
no data sources when there is none) and keeps it until it is reinitialized: registering a new
default does not change it.

A session also serves requests over a pool of further engines on the same repository, started
when the first request comes in.

`Session.runService` runs a gateway service against the session's engine.
-/

namespace EntityGateway

/-- A repository, the configuration its engine runs with, and the pool serving requests. -/
structure Session where
  repo : Repository
  configId : Int
  settings : EngineSettings
  /-- How many engines the pool starts with. -/
  poolSize : Nat := 2
  /-- The pool, once started. -/
  pool : Option EnginePool := none

namespace Session

/-- The engine of a session. -/
def engine (s : Session) : LocalEngine := ⟨s.repo, s.configId, s.settings⟩

/-- A session on a repository, its engine started. -/
def ofRepository (repo : Repository) : Session :=
  let (repo, e) := LocalEngine.start repo
  { repo, configId := e.configId, settings := e.settings }

/-- A fresh repository with a fixture imported, if any, and the session on it. -/
def create (fixture : Option RepositoryFixture) : Session × Option ImportStats :=
  match fixture with
  | some f =>
    let (repo, stats) := Repository.importFixture {} f
    (ofRepository repo, some stats)
  | none => (ofRepository {}, none)

/-- Run a service against the session's engine. -/
def runService (s : Session) (svc : Service LocalEngine α) : Except GatewayError α × Session :=
  let (r, e) := (svc.run).run s.engine
  (r, { s with configId := e.configId, settings := e.settings })

/-- Import a fixture into the session's repository. -/
def importFixture (s : Session) (f : RepositoryFixture) : ImportStats × Session :=
  let (repo, stats) := s.repo.importFixture f
  (stats, { s with repo })

/-- Register a configuration, possibly as the default. -/
def registerConfig (s : Session) (document : Json) (makeDefault : Bool) : Int × Session :=
  let (repo, id) := s.repo.registerConfig document makeDefault
  (id, { s with repo })

/-- Make a configuration the default; fails when none is registered. -/
def setDefaultConfig (s : Session) (id : Int) : Except String Session :=
  (s.repo.setDefaultConfig id).map fun repo => { s with repo }

/-- Switch the engine to a registered configuration. -/
def activateConfig (s : Session) (id : Int) : Except EngineFailure Session :=
  (s.engine.activateConfig id).map fun e => { s with configId := e.configId, settings := e.settings }

end Session

end EntityGateway
