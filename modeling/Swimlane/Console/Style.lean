import Swimlane.Text.Blank
import Swimlane.Text.Case
import Swimlane.Text.Digits
import Swimlane.Text.Split

/-!
# Names of styles

A style is named by words: attributes such as `bold`, which have short names too, a colour, and a
colour behind `on`. Two names are one style if their usual forms are the same.

- `Style.ofName?`: the style that a name describes.
- `Style.usualName`: the usual form of a name. A name that describes no style is kept in small
  letters.
-/

namespace Swimlane.Console

/-- A style: its attributes, which are on or off, its colours, and the target of a link. -/
structure Style where
  attributes : List (String × Bool)
  colour : Option String
  ground : Option String
  link : Option String
  deriving DecidableEq, Repr

namespace Style

/-- The plain style. -/
def plain : Style := ⟨[], none, none, none⟩

/-- The attributes in their usual order. -/
def attributeNames : List String :=
  ["bold", "dim", "italic", "underline", "blink", "blink2", "reverse", "conceal", "strike",
    "underline2", "frame", "encircle", "overline"]

/-- The short names of attributes. -/
def shortNames : List (String × String) :=
  [("b", "bold"), ("d", "dim"), ("i", "italic"), ("u", "underline"), ("r", "reverse"),
    ("c", "conceal"), ("s", "strike"), ("uu", "underline2"), ("o", "overline")]

/-- The attribute that a word names. -/
def attribute? (word : String) : Option String :=
  if attributeNames.contains word then some word else shortNames.lookup word

/-- The names of colours. -/
def colourNames : String :=
  "black red green yellow blue magenta cyan white bright_black bright_red bright_green
bright_yellow bright_blue bright_magenta bright_cyan bright_white grey0 gray0 navy_blue
dark_blue blue3 blue1 dark_green deep_sky_blue4 dodger_blue3 dodger_blue2 green4 spring_green4
turquoise4 deep_sky_blue3 dodger_blue1 green3 spring_green3 dark_cyan light_sea_green
deep_sky_blue2 deep_sky_blue1 spring_green2 cyan3 dark_turquoise turquoise2 green1 spring_green1
medium_spring_green cyan2 cyan1 dark_red deep_pink4 purple4 purple3 blue_violet orange4 grey37
gray37 medium_purple4 slate_blue3 royal_blue1 chartreuse4 dark_sea_green4 pale_turquoise4
steel_blue steel_blue3 cornflower_blue chartreuse3 cadet_blue sky_blue3 steel_blue1 pale_green3
sea_green3 aquamarine3 medium_turquoise chartreuse2 sea_green2 sea_green1 aquamarine1
dark_slate_gray2 dark_magenta dark_violet purple light_pink4 plum4 medium_purple3 slate_blue1
yellow4 wheat4 grey53 gray53 light_slate_grey light_slate_gray medium_purple light_slate_blue
dark_olive_green3 dark_sea_green light_sky_blue3 sky_blue2 dark_sea_green3 dark_slate_gray3
sky_blue1 chartreuse1 light_green pale_green1 dark_slate_gray1 red3 medium_violet_red magenta3
dark_orange3 indian_red hot_pink3 medium_orchid3 medium_orchid medium_purple2 dark_goldenrod
light_salmon3 rosy_brown grey63 gray63 medium_purple1 gold3 dark_khaki navajo_white3 grey69
gray69 light_steel_blue3 light_steel_blue yellow3 dark_sea_green2 light_cyan3 light_sky_blue1
green_yellow dark_olive_green2 dark_sea_green1 pale_turquoise1 deep_pink3 magenta2 hot_pink2
orchid medium_orchid1 orange3 light_pink3 pink3 plum3 violet light_goldenrod3 tan misty_rose3
thistle3 plum2 khaki3 light_goldenrod2 light_yellow3 grey84 gray84 light_steel_blue1 yellow2
dark_olive_green1 honeydew2 light_cyan1 red1 deep_pink2 deep_pink1 magenta1 orange_red1
indian_red1 hot_pink dark_orange salmon1 light_coral pale_violet_red1 orchid2 orchid1 orange1
sandy_brown light_salmon1 light_pink1 pink1 plum1 gold1 navajo_white1 misty_rose1 thistle1
yellow1 light_goldenrod1 khaki1 wheat1 cornsilk1 grey100 gray100 grey3 gray3 grey7 gray7 grey11
gray11 grey15 gray15 grey19 gray19 grey23 gray23 grey27 gray27 grey30 gray30 grey35 gray35
grey39 gray39 grey42 gray42 grey46 gray46 grey50 gray50 grey54 gray54 grey58 gray58 grey62
gray62 grey66 gray66 grey70 gray70 grey74 gray74 grey78 gray78 grey82 gray82 grey85 gray85
grey89 gray89 grey93 gray93"

/-- Whether a word is a colour by its name. -/
def isColourName (word : List Char) : Bool :=
  (Text.splitAt '\n' colourNames.toList).any fun line => (Text.splitAt ' ' line).contains word

/-- Whether a word is a hash and six hexadecimal digits. -/
def isHexColour : List Char → Bool
  | '#' :: ds => ds.length = 6 && ds.all fun d => (Text.digitValue? 16 d).isSome
  | _ => false

/-- Whether digits write a part of a colour. -/
def isColourPart (ds : List Char) : Bool :=
  !ds.isEmpty && ds.all Char.isDigit && (String.ofList ds).toNat?.any (· < 256)

/-- The text between brackets behind a front. -/
def inBrackets? (front : String) (word : List Char) : Option (List Char) :=
  let start := front.toList ++ ['(']
  if start.isPrefixOf word && word.getLast? = some ')' then
    some ((word.drop start.length).dropLast)
  else none

/-- Whether a word is a colour by its number. -/
def isNumberedColour (word : List Char) : Bool :=
  (inBrackets? "color" word).any fun ds => ds.length ≤ 3 && isColourPart ds

/-- Whether a word is a colour by its parts of red, green and blue. -/
def isMixedColour (word : List Char) : Bool :=
  (inBrackets? "rgb" word).any fun inner =>
    let parts := Text.splitAt ',' inner
    parts.length = 3 && parts.all isColourPart

/-- The colour that a word names. -/
def colour? (word : String) : Option String :=
  let low := Text.lower word.toList
  if low = "default".toList || isColourName low || isHexColour low || isNumberedColour low ||
      isMixedColour low then some (String.ofList low)
  else none

/-- Sets an attribute. -/
def set (s : Style) (name : String) (value : Bool) : Style :=
  { s with attributes := (name, value) :: s.attributes.filter (·.1 ≠ name) }

/-- Reads the words of a name. -/
def ofWords? (s : Style) : List String → Option Style
  | [] => some s
  | [word] => single? s word
  | word :: next :: rest =>
    match String.ofList (Text.lower word.toList) with
    | "on" => do ofWords? { s with ground := some (← colour? next) } rest
    | "not" => do ofWords? (s.set (← attribute? next) false) rest
    | "link" => ofWords? { s with link := some next } rest
    | _ => do ofWords? (← single? s word) (next :: rest)
where
  /-- Reads a word that stands for itself. -/
  single? (s : Style) (word : String) : Option Style :=
    let low := String.ofList (Text.lower word.toList)
    match attribute? low with
    | some name => some (s.set name true)
    | none => (colour? low).map fun c => { s with colour := some c }

/-- The words of a text. -/
def wordsOf (s : List Char) : List String :=
  let go := s.foldr (fun c (word, words) =>
    if Text.isBlank c then ([], if word.isEmpty then words else String.ofList word :: words)
    else (c :: word, words)) ([], [])
  if go.1.isEmpty then go.2 else String.ofList go.1 :: go.2

/-- The style that a name describes. -/
def ofName? (name : List Char) : Option Style :=
  match wordsOf name with
  | ["none"] => some plain
  | words => ofWords? plain words

/-- The usual name of a style. -/
def name (s : Style) : String :=
  let attributes := attributeNames.filterMap fun a =>
    (s.attributes.lookup a).map fun on => if on then a else "not " ++ a
  let rest := s.colour.toList ++ (s.ground.toList.flatMap fun c => ["on", c]) ++
    (s.link.toList.flatMap fun target => ["link", target])
  if (attributes ++ rest).isEmpty then "none" else String.intercalate " " (attributes ++ rest)

/-- The usual form of a name. -/
def usualName (name : List Char) : String :=
  match ofName? name with
  | some s => s.name
  | none => String.ofList (Text.lower (Text.trim name))

end Style

end Swimlane.Console
