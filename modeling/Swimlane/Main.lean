import Swimlane.Command.Run

/-!
# The program

The outer layer: files, variables and arguments are gathered into a `World`, the command is run on
it, and what it leaves behind is printed and written. The names of the files in a directory of
sources come from the standard input, one to a line.
-/

namespace Swimlane.Program

/-- The variables that are set. -/
def gatherVariables : IO Environment := do
  let mut found : Environment := []
  for name in Settings.pathVariable :: Environment.names do
    if let some value ← IO.getEnv name then
      found := found ++ [(name, value)]
  return found

/-- The files among the given paths that can be read. -/
def gatherFiles (paths : List Files.Path) : IO Files.Tree := do
  let mut found : Files.Tree := []
  for path in paths do
    try
      let bytes ← IO.FS.readBinFile path.text
      found := Table.put path (.file bytes.toList) found
    catch _ => pure ()
  return found

/-- The lines of the standard input. -/
def gatherNames : IO (List String) := do
  let input ← IO.getStdin
  let mut found : List String := []
  repeat
    let line ← input.getLine
    if line.isEmpty then break
    found := found ++ [Text.trimmed line]
  return found

/-- The paths that a command looks at, apart from those of the settings. -/
def pathsOf : Command → IO (List Files.Path)
  | .render input _ _ => return [input]
  | .renderAll inputs _ _ => return (← gatherNames).map inputs.child
  | .inspect input => return [input]

/-- The file of settings that a command names. -/
def configOf : Command → List Files.Path
  | .render _ _ config => config.toList
  | .renderAll _ _ config => config.toList
  | .inspect _ => []

/-- Writes the files that are new or changed. -/
def writeFiles (before after : Files.Tree) : IO Unit := do
  for (path, entry) in after do
    if let .file bytes := entry then
      if before.file? path ≠ some bytes then
        IO.FS.createDirAll path.parent.text
        IO.FS.writeBinFile path.text ⟨bytes.toArray⟩

/-- What is told when a command line is not understood. -/
def usage : String :=
  "usage: render FILE [-o FILE] [--config FILE]\n" ++
  "       render-dir [--input-dir DIR] [--output-dir DIR] [--config FILE]\n" ++
  "       inspect FILE"

/-- Runs the command that the arguments ask for. -/
def run (arguments : List String) : IO UInt32 := do
  let environment ← gatherVariables
  let command := Command.ofArguments? arguments
  let sources ← match command with
    | some c => pathsOf c
    | none => pure []
  let named := (environment.lookup Settings.pathVariable).toList.map Files.Path.ofString
  let configs := (command.toList.flatMap configOf) ++ named ++ [Settings.defaultFile]
  let files ← gatherFiles (sources ++ configs)
  let outcome := World.respond ⟨files, environment, Layout.layeredSolver⟩ arguments
  writeFiles files outcome.files
  IO.print outcome.output
  IO.eprint outcome.complaints
  if let some failure := outcome.failure then
    IO.eprintln failure.message
  if outcome.exitCode = Outcome.misuse then
    IO.eprintln usage
  return outcome.exitCode.toUInt32

end Swimlane.Program

/-- The program. -/
def main (arguments : List String) : IO UInt32 := Swimlane.Program.run arguments
