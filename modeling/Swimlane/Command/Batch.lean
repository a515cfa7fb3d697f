import Swimlane.Command.Outcome

/-!
# Rendering a directory

- `Batch.sources`: the sources in a directory, in the order of their names.
- `Batch.target`: the file that the diagram of a source is written to.
- `Batch.step`, `Batch.run`: one source after another. A source without a diagram is passed over.
-/

namespace Swimlane.Batch

/-- What the names of sources end with. -/
def suffixes : List String := [".txt", ".flow", ".bpmn.txt"]

/-- Whether a file of this name is a source. -/
def isSource (name : String) : Bool :=
  suffixes.any fun suffix => suffix.toList.isSuffixOf name.toList

/-- The names of the sources in a directory, sorted. -/
def sourceNames (files : Files.Tree) (directory : Files.Path) : List String :=
  ((files.fileNames directory).filter isSource).mergeSort fun a b => !(b < a)

/-- The sources in a directory. -/
def sources (files : Files.Tree) (directory : Files.Path) : List Files.Path :=
  (sourceNames files directory).map directory.child

/-- A name up to its first point. -/
def stem (name : String) : String := String.ofList (name.toList.takeWhile (· ≠ '.'))

/-- The file that the diagram of a source is written to. -/
def target (outputs source : Files.Path) : Files.Path := outputs.child (stem source.name ++ ".json")

/-- Renders one source. -/
def step (l : Layout Float) (outputs source : Files.Path) (o : Outcome) : Outcome :=
  match o.readText source with
  | .error failure => o.fail failure
  | .ok text =>
    match l.generate text with
    | .error e => o.complain ("[red]Layout failed for " ++ source.text ++ ":[/] " ++ e.message)
    | .ok d => o.writeDiagram d (target outputs source)

/-- Renders sources one after another, up to one that ends the command. -/
def run (l : Layout Float) (outputs : Files.Path) : List Files.Path → Outcome → Outcome
  | [], o => o
  | source :: rest, o =>
    let o := step l outputs source o
    if o.failure.isSome then o else run l outputs rest o

end Swimlane.Batch
