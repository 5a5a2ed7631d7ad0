import EntityGateway.Engine.Local

/-!
# Engine pools

A pool holds several engines on one repository. An engine apart from its repository is the
configuration it runs with, so the pool keeps only those. Requests taken one at a time always
go to the engine on top of the pool, which returns there when the request is done.

`EnginePool.refresh` brings every engine to the repository's current default configuration and
counts those it had to switch; with no default registered it fails at the first engine, before
switching any.
-/

namespace EntityGateway

/-- The configuration an engine runs with: a registered configuration and its settings. -/
structure EngineConfig where
  configId : Int
  settings : EngineSettings

namespace EngineConfig

/-- The engine running with this configuration on a repository. -/
def onRepository (c : EngineConfig) (repo : Repository) : LocalEngine := ⟨repo, c.configId, c.settings⟩

/-- The configuration an engine runs with. -/
def ofEngine (e : LocalEngine) : EngineConfig := ⟨e.configId, e.settings⟩

end EngineConfig

/-- Engines on one repository; the first is on top. -/
structure EnginePool where
  engines : List EngineConfig

namespace EnginePool

/-- Start `size` engines in turn, the last started on top; the first of them registers the
default configuration of no data sources as default when there is none. A pool needs at least
one engine. -/
def start (repo : Repository) (size : Nat) : Except GatewayError (Repository × EnginePool) :=
  if size = 0 then .error (.invalid "engine pool needs at least one handle")
  else
    let (repo, engines) := (List.range size).foldl (fun (acc : Repository × List EngineConfig) _ =>
      let (repo, e) := LocalEngine.start acc.1
      (repo, EngineConfig.ofEngine e :: acc.2)) (repo, [])
    .ok (repo, ⟨engines⟩)

/-- Run a service on the engine on top of the pool. -/
def execute (p : EnginePool) (repo : Repository) (svc : Service LocalEngine α) :
    Except GatewayError α × EnginePool :=
  match p.engines with
  | [] => (.error (.unavailable "no engine handle available"), p)
  | c :: rest =>
    let (r, e) := svc.run.run (c.onRepository repo)
    (r, ⟨EngineConfig.ofEngine e :: rest⟩)

/-- Switch one engine to the default configuration when it runs another, counting the switch. -/
def refreshOne (repo : Repository) (c : EngineConfig) : Except GatewayError (EngineConfig × Nat) := do
  let e := c.onRepository repo
  let default ← (e.defaultConfigId).mapError GatewayError.ofFailure
  if e.configId = default then return (c, 0)
  let e ← (e.activateConfig default).mapError GatewayError.ofFailure
  return (EngineConfig.ofEngine e, 1)

/-- Bring every engine to the default configuration; the number of engines switched. -/
def refresh (p : EnginePool) (repo : Repository) : Except GatewayError (Nat × EnginePool) := do
  let done ← p.engines.mapM (refreshOne repo)
  return (done.foldl (fun n d => n + d.2) 0, ⟨done.map (·.1)⟩)

end EnginePool

end EntityGateway
