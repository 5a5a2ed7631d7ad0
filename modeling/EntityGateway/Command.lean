import EntityGateway.Json.Print
import EntityGateway.Json.Parse
import EntityGateway.Service.Network
import EntityGateway.Service.Search
import EntityGateway.Service.Why
import EntityGateway.Engine.Local
import EntityGateway.Http.Params

/-!
# The command line

The command line imports fixtures into a repository file and queries it: a path between two
entities, the network around some entities, a search by `ATTRIBUTE:value` pairs, and why two
entities resolved or related as they did. Each query prints a one-line summary and then the
answer as indented JSON.

A repository file is a journal: it holds, one a line, the fixtures imported into it, and
opening it imports them again in order, which rebuilds the repository they made.

`Invocation.parse` reads the arguments, `Command.report` gives a query's lines, and
`importReport` those of an import.
-/

namespace EntityGateway

/-- A command of the command line. -/
inductive Command where
  /-- Import a fixture file into the repository. -/
  | importFixture (fixture : String)
  /-- The path between two entities. -/
  | path (source target : String) (maxDegrees : Nat) (avoid : Option String) (forbidAvoided : Bool)
      (sources : List String)
  /-- The network around some entities. -/
  | network (entities : String) (maxDegrees buildOut maxEntities : Nat)
  /-- A search by `ATTRIBUTE:value` pairs. -/
  | search (attrs includeOnly : List String)
  /-- Why two entities resolved or related as they did. -/
  | whyEntities (first second : String)
  deriving DecidableEq, Repr

/-- A whole command line: the repository file, whether to log more, and the command. -/
structure Invocation where
  repository : String := "gateway.db"
  verbose : Bool := false
  command : Command
  deriving DecidableEq, Repr

/-- The arguments of a command line split into positional ones, options with their values and
switches, each in the order given. -/
structure Arguments where
  positionals : List String := []
  options : List (String × String) := []
  switches : List String := []
  deriving DecidableEq, Repr

namespace Arguments

/-- The options that take a value. -/
def valued : List String :=
  ["--repository", "--max-degrees", "--avoid", "--source", "--build-out", "--max-entities", "--include-only"]

/-- The options that take none. -/
def switchNames : List String := ["-v", "--verbose", "--forbid-avoided"]

/-- Split arguments; a value follows its option or is joined to it by `=`, and everything
after `--` is positional. -/
def read : List String → Arguments → Except String Arguments
  | [], acc => .ok acc
  | "--" :: rest, acc => .ok { acc with positionals := acc.positionals ++ rest }
  | a :: rest, acc =>
    if a.startsWith "-" && a != "-" then
      match a.splitOn "=" with
      | name :: value :: more =>
        if valued.contains name then
          read rest { acc with options := acc.options ++ [(name, "=".intercalate (value :: more))] }
        else .error ("unexpected argument '" ++ a ++ "' found")
      | _ =>
        if valued.contains a then
          match rest with
          | v :: more => read more { acc with options := acc.options ++ [(a, v)] }
          | [] => .error ("a value is required for '" ++ a ++ "' but none was supplied")
        else if switchNames.contains a then read rest { acc with switches := acc.switches ++ [a] }
        else .error ("unexpected argument '" ++ a ++ "' found")
    else read rest { acc with positionals := acc.positionals ++ [a] }

/-- The last value of an option. -/
def last? (args : Arguments) (name : String) : Option String :=
  (args.options.reverse.find? (·.1 = name)).map (·.2)

/-- Every value of an option. -/
def all (args : Arguments) (name : String) : List String :=
  (args.options.filter (·.1 = name)).map (·.2)

/-- A count option, unsigned and of 32 bits. -/
def count (args : Arguments) (name : String) (default : Nat) : Except String Nat :=
  match args.last? name with
  | none => .ok default
  | some v => match parseU32? v with
    | some n => .ok n
    | none => .error ("invalid value '" ++ v ++ "' for '" ++ name ++ "': invalid digit found in string")

/-- Refuse options and switches a command does not take. -/
def only (args : Arguments) (allowed : List String) : Except String Unit :=
  let global := ["--repository", "-v", "--verbose"]
  match (args.options.map (·.1) ++ args.switches).find? fun n => !(global ++ allowed).contains n with
  | some n => .error ("unexpected argument '" ++ n ++ "' found")
  | none => .ok ()

end Arguments

/-- How the command line is used. -/
def usage : String :=
  "Usage: resolution-gateway [--repository <REPOSITORY>] [-v] <COMMAND>\n\n" ++
  "Commands:\n  import <FIXTURE>\n" ++
  "  path <FROM> <TO> [--max-degrees <N>] [--avoid <IDS>] [--forbid-avoided] [--source <S>]...\n" ++
  "  network <ENTITIES> [--max-degrees <N>] [--build-out <N>] [--max-entities <N>]\n" ++
  "  search <ATTRS>... [--include-only <TYPE>]...\n" ++
  "  why-entities <ENTITY1> <ENTITY2>"

namespace Invocation

/-- The command named first among the positional arguments. -/
def readCommand (args : Arguments) : List String → Except String Command
  | ["import", fixture] => do
    args.only []
    return .importFixture fixture
  | ["path", source, target] => do
    args.only ["--max-degrees", "--avoid", "--forbid-avoided", "--source"]
    return .path source target (← args.count "--max-degrees" 3) (args.last? "--avoid")
      (args.switches.contains "--forbid-avoided") (args.all "--source")
  | ["network", entities] => do
    args.only ["--max-degrees", "--build-out", "--max-entities"]
    return .network entities (← args.count "--max-degrees" 3) (← args.count "--build-out" 1)
      (← args.count "--max-entities" 1000)
  | "search" :: attrs@(_ :: _) => do
    args.only ["--include-only"]
    return .search attrs (args.all "--include-only")
  | ["why-entities", first, second] => do
    args.only []
    return .whyEntities first second
  | _ => .error ("unrecognized command line\n\n" ++ usage)

/-- Read a command line. -/
def parse (argv : List String) : Except String Invocation := do
  let args ← Arguments.read argv {}
  return { repository := (args.last? "--repository").getD "gateway.db",
           verbose := args.switches.contains "-v" || args.switches.contains "--verbose",
           command := ← readCommand args args.positionals }

end Invocation

namespace Repository

/-- The repository a journal rebuilds: its fixtures imported in order. -/
def ofJournal (text : String) : Except String Repository :=
  ((text.splitOn "\n").filter fun l => !l.trimBlank.isEmpty).foldlM (fun repo line => do
    let f ← RepositoryFixture.decode (← Json.parse line)
    return (repo.importFixture f).1) {}

end Repository

/-- The rule between the parts of an import's report. -/
def reportRule : String := String.ofList (List.replicate 45 '━')

/-- The lines an import prints before it reads the fixture. -/
def importHeader : List String :=
  ["🗄️  Repository Import - JSON → journal", reportRule, "\n📂 Loading fixture..."]

/-- The lines an import prints once the fixture is read, and the repository after it. -/
def importReport (fixturePath repositoryPath : String) (f : RepositoryFixture) (repo : Repository) :
    List String × Repository :=
  let (repo, stats) := repo.importFixture f
  let c := repo.counts
  (["✓ Loaded " ++ toString f.entities.length ++ " entities from " ++ fixturePath,
    "\n🔧 Opening repository...", "✓ Repository ready at " ++ repositoryPath,
    "\n💾 Importing records...",
    "✓ Inserted " ++ toString stats.inserted ++ " records",
    "✓ Unchanged " ++ toString stats.unchanged ++ " records",
    "✓ Relationships " ++ toString stats.relationships,
    "✓ Default config " ++ toString stats.configId,
    "\n" ++ reportRule,
    "✅ Repository holds " ++ toString c.entities ++ " entities, " ++ toString c.records ++ " records, " ++
      toString c.relationships ++ " relationships"], repo)

/-- Ids as a bracketed list. -/
def idListText (ids : List Int) : String := "[" ++ ", ".intercalate (ids.map toString) ++ "]"

namespace Command

open Service

/-- The lines a query prints, run against an engine. -/
def report (e : LocalEngine) (c : Command) : Except GatewayError (List String) :=
  let related : RenderOptions := { relationshipMode := .summarized }
  let unrelated : RenderOptions := { relationshipMode := .none }
  let run (svc : Service LocalEngine (List String)) : Except GatewayError (List String) := (svc.run.run e).1
  match c with
  | .importFixture _ => .ok []
  | .path source target maxDegrees avoid forbidAvoided sources => run do
    let avoid ← lift (match avoid with
      | some text => Identifiers.parse text
      | none => .ok Identifiers.empty)
    let q : PathQuery := ⟨← lift (EntityIdentifier.parse source), ← lift (EntityIdentifier.parse target),
      maxDegrees, avoid, forbidAvoided, sources.map (·.upper)⟩
    let a ← findPath localEngine q related
    let summary := if a.data.path.entityIds.isEmpty then "🔍 No path within " ++ toString maxDegrees ++ " degrees"
      else "🔍 Path: " ++ idListText a.data.path.entityIds
    return [summary, a.data.toJson.pretty ""]
  | .network entities maxDegrees buildOut maxEntities => run do
    let q : NetworkQuery := ⟨← lift (Identifiers.parse entities), maxDegrees, buildOut, maxEntities⟩
    let a ← findNetwork localEngine q related
    return ["🕸️  " ++ toString a.data.paths.length ++ " paths, " ++ toString a.data.entities.length ++
      " entities" ++ (if a.data.limitReached then " (limit reached)" else ""), a.data.toJson.pretty ""]
  | .search attrs includeOnly => run do
    let c ← lift (attrs.foldlM SearchCriteria.mergePair {})
    let buckets ← lift (MatchBucket.parseAll includeOnly)
    let a ← Service.search localEngine c buckets unrelated
    return ["🔎 " ++ toString a.data.results.length ++ " results", a.data.toJson.pretty ""]
  | .whyEntities first second => run do
    let a ← Service.whyEntities localEngine (← lift (EntityIdentifier.parse first))
      (← lift (EntityIdentifier.parse second)) unrelated
    return a.data.results.map (fun r => "❓ " ++ r.info.level.title ++ " via " ++ r.info.whyKey) ++
      [a.data.toJson.pretty ""]

end Command

end EntityGateway
