import EntityGateway.Command

/-!
# The command-line program

Reads the command line, rebuilds the repository from its journal file, and prints what the
command reports. An import appends the fixture to the journal.
-/

namespace EntityGateway

/-- The text of a file, none when it cannot be read. -/
def readText? (path : String) : IO (Option String) := do
  try return some (← IO.FS.readFile path) catch _ => return none

/-- Print an error with its cause and give the failure status. -/
def fail (context cause : String) : IO UInt32 := do
  IO.eprintln ("Error: " ++ context ++ "\n\nCaused by:\n    " ++ cause)
  return 1

/-- Import a fixture file into the repository file. -/
def runImport (repositoryPath fixturePath : String) : IO UInt32 := do
  importHeader.forM IO.println
  let some text ← readText? fixturePath | fail ("Failed to read fixture: " ++ fixturePath) "cannot read the file"
  match Json.parse text >>= RepositoryFixture.decode with
  | .error m => fail ("Failed to parse fixture: " ++ fixturePath) m
  | .ok f =>
    let journal := (← readText? repositoryPath).getD ""
    match Repository.ofJournal journal with
    | .error m => fail ("Failed to open repository: " ++ repositoryPath) m
    | .ok repo =>
      let (lines, _) := importReport fixturePath repositoryPath f repo
      let fixtureText := (match Json.parse text with
        | .ok j => j.compact
        | .error _ => text)
      IO.FS.withFile repositoryPath .append fun h => h.putStrLn fixtureText
      lines.forM IO.println
      return 0

/-- Run a query against the repository file. -/
def runQuery (repositoryPath : String) (c : Command) : IO UInt32 := do
  let some journal ← readText? repositoryPath | do
    IO.eprintln "❌ Repository not found!"
    IO.eprintln "   Run: resolution-gateway import <fixture.json>"
    IO.eprintln "   to create it first."
    return 1
  match Repository.ofJournal journal with
  | .error m => fail ("Failed to open repository: " ++ repositoryPath) m
  | .ok repo =>
    match c.report (LocalEngine.start repo).2 with
    | .error e =>
      IO.eprintln ("Error: " ++ e.message)
      return 1
    | .ok lines =>
      lines.forM IO.println
      return 0

end EntityGateway

open EntityGateway in
/-- Run the command line. -/
def main (args : List String) : IO UInt32 := do
  match Invocation.parse args with
  | .error m =>
    IO.eprintln ("error: " ++ m)
    return 2
  | .ok inv =>
    match inv.command with
    | .importFixture fixture => runImport inv.repository fixture
    | c => runQuery inv.repository c
