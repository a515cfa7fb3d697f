import Swimlane.Console.Markup
import Swimlane.Console.Wrap
import Swimlane.Diagram.Payload
import Swimlane.Settings.Sources

/-!
# What a command leaves behind

- `Outcome`: what was printed, the files afterwards, and how the command ended.
- `Failure`: what ends a command at once.
-/

namespace Swimlane

/-- What ends a command at once. -/
inductive Failure where
  | settings (e : SettingsError)
  | file (fault : Files.Fault)
  | decoding (fault : Text.Utf8.DecodeFault)
  | markup (fault : Console.Markup.Fault)
  deriving DecidableEq, Repr

/-- The wording of a failure. -/
def Failure.message : Failure → String
  | settings e => e.message
  | file fault => fault.message
  | decoding fault => fault.message
  | markup fault => fault.message

/-- What a command leaves behind. -/
structure Outcome where
  exitCode : Nat
  output : String
  complaints : String
  files : Files.Tree
  failure : Option Failure
  deriving DecidableEq, Repr

namespace Outcome

/-- The width of printed lines. -/
def lineWidth : Nat := 200

/-- Before anything was done. -/
def start (files : Files.Tree) : Outcome := ⟨0, "", "", files, none⟩

/-- Prints a text as it is. -/
def print (text : String) (o : Outcome) : Outcome := { o with output := o.output ++ text }

/-- Ends the command at once. -/
def fail (failure : Failure) (o : Outcome) : Outcome :=
  { o with exitCode := 1, failure := some failure }

/-- The lines of a message, which holds markup. -/
def linesOf (message : String) : Except Failure String :=
  (Console.Markup.read message).mapError .markup |>.map fun s =>
    String.ofList ((Console.wrapped .cut lineWidth s).flatMap (· ++ ['\n']))

/-- Prints a message. -/
def say (message : String) (o : Outcome) : Outcome :=
  match linesOf message with
  | .error failure => o.fail failure
  | .ok text => o.print text

/-- Prints a message that something went wrong; the command ends with that in the end. -/
def complain (message : String) (o : Outcome) : Outcome :=
  match linesOf message with
  | .error failure => o.fail failure
  | .ok text => { o with exitCode := 1, complaints := o.complaints ++ text }

/-- The text of a file. -/
def readText (o : Outcome) (p : Files.Path) : Except Failure String :=
  match o.files.read p with
  | .error fault => .error (.file fault)
  | .ok bytes => (Text.Utf8.decode bytes).mapError .decoding

/-- Writes the file of a diagram, and says so. -/
def writeDiagram (d : Diagram Float) (p : Files.Path) (o : Outcome) : Outcome :=
  match o.files.save p (Text.Utf8.encode (d.text true)) with
  | (files, some fault) => { o with files }.fail (.file fault)
  | (files, none) => { o with files }.say ("[green]Wrote[/] " ++ p.text)

end Outcome

end Swimlane
