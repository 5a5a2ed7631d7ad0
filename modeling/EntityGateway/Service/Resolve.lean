import EntityGateway.Engine.Basic
import EntityGateway.Identifier

/-!
# Resolving identifiers

An entity identifier resolves to itself; a record identifier to the entity the engine says the
record belongs to. A set of identifiers resolves in order, repeats dropped.

`ensureKnownSources` checks that the data sources a request names are registered in the
engine's active configuration. It asks the engine for its data sources once, and only when a
source is named at all.
-/

namespace EntityGateway

namespace Service

/-- Check that every named data source is registered; `what` names where they came from. -/
def ensureKnownSources (e : Engine σ) (sources : List String) (what : String) : Service σ Unit := do
  match sources with
  | [] => return ()
  | _ =>
    let known ← call e.dataSources
    match sources.find? (!known.contains ·) with
    | some s => lift (.error (.invalid ("unrecognized data source in " ++ what ++ ": " ++ s)))
    | none => return ()

/-- The entity an identifier names. -/
def resolve (e : Engine σ) : EntityIdentifier → Service σ Int
  | .entity id => return id
  | .record ds rid => call (e.resolveRecord ds rid)

/-- The entities a set of identifiers names, in order, repeats dropped. -/
def resolveAll (e : Engine σ) (ids : Identifiers) : Service σ (List Int) :=
  ids.items.foldlM (fun acc i => do
    let id ← resolve e i
    return if acc.contains id then acc else acc ++ [id]) []

end Service

end EntityGateway
