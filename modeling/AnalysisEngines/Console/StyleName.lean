import AnalysisEngines.Text.Blank
import AnalysisEngines.Text.LetterCase
import AnalysisEngines.Yaml.Cursor

/-!
Names of text styles.

A style is given by attributes, a color, a background color and a link, in any order.  Styles with
the same effect have the same standard name.
-/

set_option autoImplicit false

namespace AnalysisEngines.Console

/-- Attributes with their other names. -/
def attributeNames : List (String × String) :=
  [("bold", "bold"), ("b", "bold"), ("dim", "dim"), ("d", "dim"), ("italic", "italic"),
    ("i", "italic"), ("underline", "underline"), ("u", "underline"), ("blink", "blink"),
    ("blink2", "blink2"), ("reverse", "reverse"), ("r", "reverse"), ("conceal", "conceal"),
    ("c", "conceal"), ("strike", "strike"), ("s", "strike"), ("underline2", "underline2"),
    ("uu", "underline2"), ("frame", "frame"), ("encircle", "encircle"), ("overline", "overline"),
    ("o", "overline")]

/-- The attributes in the order in which a standard name has them. -/
def attributeOrder : List String :=
  ["bold", "dim", "italic", "underline", "blink", "blink2", "reverse", "conceal", "strike",
    "underline2", "frame", "encircle", "overline"]

def colorNames : List String :=
  Text.words "default
black red green yellow blue magenta cyan white bright_black bright_red bright_green bright_yellow
bright_blue bright_magenta bright_cyan bright_white grey0 gray0 navy_blue dark_blue blue3 blue1
dark_green deep_sky_blue4 dodger_blue3 dodger_blue2 green4 spring_green4 turquoise4 deep_sky_blue3
dodger_blue1 green3 spring_green3 dark_cyan light_sea_green deep_sky_blue2 deep_sky_blue1
spring_green2 cyan3 dark_turquoise turquoise2 green1 spring_green1 medium_spring_green cyan2 cyan1
dark_red deep_pink4 purple4 purple3 blue_violet orange4 grey37 gray37 medium_purple4 slate_blue3
royal_blue1 chartreuse4 dark_sea_green4 pale_turquoise4 steel_blue steel_blue3 cornflower_blue
chartreuse3 cadet_blue sky_blue3 steel_blue1 pale_green3 sea_green3 aquamarine3 medium_turquoise
chartreuse2 sea_green2 sea_green1 aquamarine1 dark_slate_gray2 dark_magenta dark_violet purple
light_pink4 plum4 medium_purple3 slate_blue1 yellow4 wheat4 grey53 gray53 light_slate_grey
light_slate_gray medium_purple light_slate_blue dark_olive_green3 dark_sea_green light_sky_blue3
sky_blue2 dark_sea_green3 dark_slate_gray3 sky_blue1 chartreuse1 light_green pale_green1
dark_slate_gray1 red3 medium_violet_red magenta3 dark_orange3 indian_red hot_pink3 medium_orchid3
medium_orchid medium_purple2 dark_goldenrod light_salmon3 rosy_brown grey63 gray63 medium_purple1
gold3 dark_khaki navajo_white3 grey69 gray69 light_steel_blue3 light_steel_blue yellow3
dark_sea_green2 light_cyan3 light_sky_blue1 green_yellow dark_olive_green2 dark_sea_green1
pale_turquoise1 deep_pink3 magenta2 hot_pink2 orchid medium_orchid1 orange3 light_pink3 pink3
plum3 violet light_goldenrod3 tan misty_rose3 thistle3 plum2 khaki3 light_goldenrod2 light_yellow3
grey84 gray84 light_steel_blue1 yellow2 dark_olive_green1 honeydew2 light_cyan1 red1 deep_pink2
deep_pink1 magenta1 orange_red1 indian_red1 hot_pink dark_orange salmon1 light_coral
pale_violet_red1 orchid2 orchid1 orange1 sandy_brown light_salmon1 light_pink1 pink1 plum1 gold1
navajo_white1 misty_rose1 thistle1 yellow1 light_goldenrod1 khaki1 wheat1 cornsilk1 grey100
gray100 grey3 gray3 grey7 gray7 grey11 gray11 grey15 gray15 grey19 gray19 grey23 gray23 grey27
gray27 grey30 gray30 grey35 gray35 grey39 gray39 grey42 gray42 grey46 gray46 grey50 gray50 grey54
gray54 grey58 gray58 grey62 gray62 grey66 gray66 grey70 gray70 grey74 gray74 grey78 gray78 grey82
gray82 grey85 gray85 grey89 gray89 grey93 gray93"

/-- A number in decimal digits that is at most 255. -/
def isByte (digits : List Char) : Bool :=
  !digits.isEmpty && digits.all Char.isDigit &&
    digits.foldl (fun total c => total * 10 + (c.toNat - '0'.toNat)) 0 ≤ 255

/-- What stands between brackets behind a word. -/
def bracketed? (word : String) (text : String) : Option String :=
  if text.startsWith (word ++ "(") && text.endsWith ")" then
    some (String.ofList ((text.toList.drop (word.length + 1)).dropLast))
  else none

/-- Colors go by name, by number, or by their parts of red, green and blue. -/
def isColor (word : String) : Bool :=
  let word := Text.lower word
  if colorNames.contains word then true
  else match word.toList with
    | '#' :: digits => digits.length = 6 && digits.all Yaml.isHexDigit
    | _ =>
        match bracketed? "color" word, bracketed? "rgb" word with
        | some number, _ => number.length ≤ 3 && isByte number.toList
        | none, some parts =>
            let parts := parts.splitOn ","
            parts.length = 3 && parts.all fun part => isByte part.toList
        | none, none => false

structure Style where
  attributes : List (String × Bool) := []
  color : Option String := none
  background : Option String := none
  link : Option String := none

namespace Style

def set (name : String) (value : Bool) (style : Style) : Style :=
  { style with attributes := (name, value) :: style.attributes }

def ofWords? (style : Style) : List String → Option Style
  | [] => some style
  | given :: rest =>
      let word := Text.lower given
      match word, rest with
      | "on", color :: rest =>
          if isColor color then ofWords? { style with background := some (Text.lower color) } rest
          else none
      | "not", negated :: rest => do
          let known ← attributeNames.lookup negated
          ofWords? (style.set known false) rest
      | "link", target :: rest => ofWords? { style with link := some target } rest
      | _, rest =>
          match attributeNames.lookup word with
          | some known => ofWords? (style.set known true) rest
          | none => if isColor word then ofWords? { style with color := some word } rest else none

def name (style : Style) : String :=
  let attributes := attributeOrder.filterMap fun name =>
    (style.attributes.lookup name).map fun isSet => if isSet then name else "not " ++ name
  let parts := attributes ++ style.color.toList ++
    (style.background.map fun color => "on " ++ color).toList ++
    (style.link.map fun target => "link " ++ target).toList
  if parts.isEmpty then "none" else " ".intercalate parts

end Style

/-- The standard name of a style; a name that means no style only loses its capitals. -/
def standardName (given : String) : String :=
  if Text.strip given = "none" then "none"
  else match Style.ofWords? {} (Text.words given) with
    | some style => style.name
    | none => Text.lower (Text.strip given)

end AnalysisEngines.Console
