import Swimlane.Command.Arguments
import Swimlane.Command.Batch
import Swimlane.Report.Inspection

/-!
# Running commands

- `World`: what a command finds: files, environment variables, and a way of placing elements.
- `Command.run`: what a command leaves behind.
- `World.respond`: the same for a command line; one that is not understood changes nothing.
-/

namespace Swimlane

/-- What a command finds. -/
structure World where
  files : Files.Tree
  environment : Environment
  solver : Layered.Config Float → Solver Float

namespace World

/-- Before anything was done. -/
def start (w : World) : Outcome := .start w.files

/-- The layout that the settings ask for. -/
def layout (w : World) (config : Option Files.Path) : Except SettingsError (Layout Float) :=
  (Settings.load config w.environment w.files).map fun s => s.layout w.solver

/-- Goes on if a source is there. -/
def whenThere (w : World) (input : Files.Path) (next : Outcome → Outcome) : Outcome :=
  match w.files.contains input with
  | .error fault => w.start.fail (.file fault)
  | .ok true => next w.start
  | .ok false => w.start.complain ("[red]File not found:[/] " ++ input.text)

end World

/-- Draws a table, and goes on if it could be drawn. -/
def Outcome.draw (t : Report.Boxed) (next : Outcome → Outcome) (o : Outcome) : Outcome :=
  match t.drawn with
  | .error fault => o.fail (.markup fault)
  | .ok text => next (o.print text)

namespace Command

/-- Renders one source, to a file or as output. -/
def runRender (w : World) (input : Files.Path) (output config : Option Files.Path) : Outcome :=
  w.whenThere input fun o =>
    match w.layout config with
    | .error e => o.fail (.settings e)
    | .ok l =>
      match o.readText input with
      | .error failure => o.fail failure
      | .ok text =>
        match l.generate text with
        | .error e => o.complain ("[red]Layout failed:[/] " ++ e.message)
        | .ok d =>
          match output with
          | none => o.print (d.text true ++ "\n")
          | some path => o.writeDiagram d path

/-- Renders all sources of a directory. -/
def runRenderAll (w : World) (inputs outputs : Files.Path) (config : Option Files.Path) : Outcome :=
  match w.files.isDirectoryAt inputs with
  | .error fault => w.start.fail (.file fault)
  | .ok _ =>
    match Batch.sources w.files inputs with
    | [] => w.start.say ("[yellow]No process files found in " ++ inputs.text ++ "[/]")
    | sources =>
      match w.layout config with
      | .error e => w.start.fail (.settings e)
      | .ok l => Batch.run l outputs sources w.start

/-- Reports what a source holds. -/
def runInspect (w : World) (input : Files.Path) : Outcome :=
  w.whenThere input fun o =>
    match o.readText input with
    | .error failure => o.fail failure
    | .ok text =>
      let d := Notation.parse text
      o.draw d.counts fun o => o.draw d.placements fun o =>
        match d.duplicateIds with
        | [] => o
        | ids =>
          o.say ("[yellow]Duplicate ids (first definition used):[/] " ++
            String.intercalate ", " ids)

/-- What a command leaves behind. -/
def run (w : World) : Command → Outcome
  | render input output config => runRender w input output config
  | renderAll inputs outputs config => runRenderAll w inputs outputs config
  | inspect input => runInspect w input

end Command

/-- The exit code of a command line that is not understood. -/
def Outcome.misuse : Nat := 2

/-- What a command line leaves behind. -/
def World.respond (w : World) (arguments : List String) : Outcome :=
  match Command.ofArguments? arguments with
  | some command => command.run w
  | none => { w.start with exitCode := Outcome.misuse }

end Swimlane
