import Swimlane.Files.Path
import Swimlane.Text.Split

/-!
# Command lines

- `Command`: what the program can be asked to do.
- `Arguments`: options with their values, and operands, as they stand on a command line.
- `Command.ofArguments?`: the command that a command line asks for; none if it is not understood.
-/

namespace Swimlane

/-- What the program can be asked to do. -/
inductive Command where
  | render (input : Files.Path) (output config : Option Files.Path)
  | renderAll (inputs outputs : Files.Path) (config : Option Files.Path)
  | inspect (input : Files.Path)
  deriving DecidableEq, Repr

/-- An option with a value: its name and, if it has one, its letter. -/
structure OptionName where
  name : String
  letter : Option Char
  deriving DecidableEq, Repr

/-- Options with their values, and operands. -/
structure Arguments where
  options : List (String × String)
  operands : List String
  deriving DecidableEq, Repr

namespace Arguments

/-- No arguments. -/
def empty : Arguments := ⟨[], []⟩

/-- Adds an option in front. -/
def addOption (name value : String) (a : Arguments) : Arguments :=
  { a with options := (name, value) :: a.options }

/-- Adds an operand in front. -/
def addOperand (s : String) (a : Arguments) : Arguments :=
  { a with operands := s :: a.operands }

/-- What one argument is. -/
inductive Word where
  | operand
  | finish
  | option (name : String) (value : Option String)
  | unknown
  deriving DecidableEq, Repr

/-- Reads one argument. A name may have its value behind an equals sign, and a letter right behind
itself. -/
def Word.ofString (names : List OptionName) (s : String) : Word :=
  match s.toList with
  | ['-', '-'] => .finish
  | '-' :: '-' :: rest =>
    let name := String.ofList (rest.takeWhile (· ≠ '='))
    if names.any (·.name = name) then
      match rest.dropWhile (· ≠ '=') with
      | _ :: value => .option name (some (String.ofList value))
      | [] => .option name none
    else .unknown
  | '-' :: letter :: rest =>
    match names.find? (·.letter = some letter) with
    | some o => .option o.name (if rest.isEmpty then none else some (String.ofList rest))
    | none => .unknown
  | _ => .operand

/-- Reads a command line; none if it holds an option that is not known or lacks its value. -/
def read? (names : List OptionName) : List String → Option Arguments
  | [] => some empty
  | [s] =>
    match Word.ofString names s with
    | .operand => some (empty.addOperand s)
    | .finish => some empty
    | .option name (some value) => some (empty.addOption name value)
    | _ => none
  | s :: t :: rest =>
    match Word.ofString names s with
    | .operand => (read? names (t :: rest)).map (addOperand s)
    | .finish => some ⟨[], t :: rest⟩
    | .option name (some value) => (read? names (t :: rest)).map (addOption name value)
    | .option name none => (read? names rest).map (addOption name t)
    | .unknown => none

/-- The path that the last option of a name gives. -/
def path? (a : Arguments) (name : String) : Option Files.Path :=
  (a.options.reverse.lookup name).map Files.Path.ofString

end Arguments

namespace Command

/-- The option that names a file of settings. -/
def configOption : OptionName := ⟨"config", none⟩

/-- Where sources are looked for when no directory is named. -/
def defaultInputs : Files.Path := .relative ["examples", "process"]

/-- Where diagrams are written to when no directory is named. -/
def defaultOutputs : Files.Path := .relative ["data", "diagrams"]

/-- The command of arguments that begin with its name. -/
def named? : List String → Option Command
  | "render" :: rest => do
    let a ← Arguments.read? [⟨"output", some 'o'⟩, configOption] rest
    match a.operands with
    | [input] => some (.render (.ofString input) (a.path? "output") (a.path? "config"))
    | _ => none
  | "render-dir" :: rest => do
    let a ← Arguments.read? [⟨"input-dir", none⟩, ⟨"output-dir", none⟩, configOption] rest
    match a.operands with
    | [] =>
      some (.renderAll ((a.path? "input-dir").getD defaultInputs)
        ((a.path? "output-dir").getD defaultOutputs) (a.path? "config"))
    | _ => none
  | "inspect" :: rest => do
    let a ← Arguments.read? [] rest
    match a.operands with
    | [input] => some (.inspect (.ofString input))
    | _ => none
  | _ => none

/-- The command of a command line, in front of whose name two dashes may stand. -/
def ofArguments? (arguments : List String) : Option Command :=
  match arguments with
  | "--" :: rest => named? rest
  | _ => named? arguments

end Command

end Swimlane
