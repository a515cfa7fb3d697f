import Swimlane.Session
import Swimlane.Settings.Number
import Swimlane.Validation.Basic
import Swimlane.Value.Shown

/-!
# Settings

The constants of the layout, and how the service presents itself.

- `Settings`: the three sections, with their defaults in `Settings.standard`.
- `Settings.Bound`: what a number in the settings has to satisfy.
- `Settings.check`: settings from data. A section that is left out has its defaults, members of a
  section that are not known are ignored, and sections that are not known are refused.
- `Settings.layout`: the layout that settings ask for.
-/

namespace Swimlane

/-- How the service presents itself. -/
structure Presentation where
  title : Text.Raw
  initialSource : Text.Raw
  deriving DecidableEq, Repr

/-- The title that is used when none is given, and no text. -/
def Presentation.standard : Presentation := ⟨.whole "Flowlane", .whole ""⟩

/-- All settings. -/
structure Settings (α : Type) where
  grid : Grid.Config α
  layered : Layered.Config α
  presentation : Presentation
  deriving DecidableEq, Repr

namespace Settings

variable {α : Type} [Scalar α]

/-- The settings that are used when none are given. -/
def standard : Settings α := ⟨.standard, .standard, .standard⟩

/-- What a number has to satisfy. -/
inductive Bound where
  | aboveZero
  | notBelowZero
  deriving DecidableEq, Repr

/-- Whether a number satisfies a bound; a result that is not a number satisfies none. -/
def Bound.holds : Bound → α → Bool
  | aboveZero, x => Scalar.below (Scalar.whole 0) x
  | notBelowZero, x => Scalar.atMost (Scalar.whole 0) x

/-- The fault of a number that does not satisfy a bound. -/
def Bound.fault : Bound → Fault
  | aboveZero => .notAboveZero
  | notBelowZero => .belowZero

/-- A way of reading a setting. -/
abbrev Reader (β : Type) := Value → Checked β

/-- A number within a bound. -/
def bounded (number : Reader α) (bound : Bound) : Reader α := fun v =>
  (number v).andThen fun x => if bound.holds x then .good x else .fault bound.fault

/-- A whole number that is not negative. -/
def natural : Reader Int := fun v =>
  (Number.checkWhole v).andThen fun n => if 0 ≤ n then .good n else .fault .belowZero

/-- A title: the words for the value without the blanks around them. Where nothing is left, the
default is taken. -/
def title : Reader Text.Raw := fun v =>
  if v.isBlank then .good Presentation.standard.title
  else
    match v.words? with
    | some words =>
      let bare := words.trimmed
      .good (if bare.isEmpty then Presentation.standard.title else bare)
    | none => .fault .tooManyDigits

/-- A text, which may be torn. -/
def text : Reader Text.Raw
  | .str s => .good (.whole s)
  | .torn t => .good (.torn t)
  | .bytes bs =>
    match Number.textOf? bs with
    | some s => .good (.whole s)
    | none => .fault .notUnicode
  | _ => .fault .notString

/-- A member of a section, with a default. -/
def member {β : Type} (key : String) (default : β) (read : Reader β)
    (m : List (Value × Value)) : Checked β :=
  Checked.under (.key key) <|
    match Value.field? m key with
    | none => .good default
    | some v => read v

/-- A section of a model. -/
def section_ {β : Type} (model : String) (read : List (Value × Value) → Checked β) : Reader β
  | .map members => read members
  | _ => .fault (.notObject model)

/-- The name of the model of the grid's constants. -/
def gridModel : String := "LayoutSettings"

/-- The name of the model of the placement's constants. -/
def layeredModel : String := "SolverSettings"

/-- The name of the model of the presentation. -/
def presentationModel : String := "WebSettings"

/-- The name of the model of all settings. -/
def model : String := "AppSettings"

/-- The constants of the grid. -/
def gridCheck (number : Reader α) : Reader (Grid.Config α) :=
  section_ gridModel fun m =>
    let length (key : String) (default : α) (bound : Bound) : Checked α :=
      member key default (bounded number bound) m
    let d : Grid.Config α := .standard
    ((length "grid_padding" d.gridPadding .notBelowZero).map Grid.Config.mk)
      |>.both (length "min_grid_width" d.minGridWidth .notBelowZero)
      |>.both (length "header_width" d.headerWidth .notBelowZero)
      |>.both (length "container_gap" d.poolGap .notBelowZero)
      |>.both (length "lane_min_height" d.laneMinHeight .aboveZero)
      |>.both (length "lane_padding" d.lanePadding .notBelowZero)
      |>.both (length "root_band_height" d.rowHeight .aboveZero)

/-- The constants of the placement. -/
def layeredCheck (number : Reader α) : Reader (Layered.Config α) :=
  section_ layeredModel fun m =>
    let d : Layered.Config α := .standard
    ((member "node_sep" d.nodeSep (bounded number .notBelowZero) m).map Layered.Config.mk)
      |>.both (member "rank_sep" d.rankSep (bounded number .notBelowZero) m)
      |>.both (member "ordering_sweeps" d.sweeps natural m)

/-- The presentation. -/
def presentationCheck : Reader Presentation :=
  section_ presentationModel fun m =>
    let d := Presentation.standard
    ((member "title" d.title title m).map Presentation.mk)
      |>.both (member "initial_source" d.initialSource text m)

/-- The sections of the settings, each with the names of its members. -/
def sections : List (String × List String) :=
  [("layout", ["grid_padding", "min_grid_width", "header_width", "container_gap",
      "lane_min_height", "lane_padding", "root_band_height"]),
   ("solver", ["node_sep", "rank_sep", "ordering_sweeps"]),
   ("web", ["title", "initial_source"])]

/-- The members that are no section, each with its fault. -/
def strangers (m : List (String × Value)) : Checked Unit :=
  match m.filter fun p => (sections.lookup p.1).isNone with
  | [] => .good ()
  | more => .bad (more.map fun p => ⟨.unexpected, [.key p.1]⟩)

/-- All settings, from the members that the places they come from have together. -/
def check (number : Reader α) (m : List (String × Value)) : Checked (Settings α) :=
  let part {β : Type} (name : String) (default : β) (read : Reader β) : Checked β :=
    Checked.under (.key name) <|
      match m.lookup name with
      | none => .good default
      | some v => read v
  ((part "layout" .standard (gridCheck number)).map Settings.mk)
    |>.both (part "solver" .standard (layeredCheck number))
    |>.both (part "web" .standard presentationCheck)
    |>.map (fun settings (_ : Unit) => settings)
    |>.both (strangers m)

/-- The layout that settings ask for. -/
def layout (s : Settings α) (solver : Layered.Config α → Solver α) : Layout α :=
  ⟨s.grid, solver s.layered⟩

end Settings

end Swimlane
