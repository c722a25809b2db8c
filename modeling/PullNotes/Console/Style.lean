import PullNotes.Text.Blank
import PullNotes.Text.Case
import PullNotes.Text.Digit

/-!
# Names of styles

A style is named by words in any order: attributes, a colour, a background and a link.  Names of the
same style have one plain form, by which the end of a style is matched with its beginning.
-/

namespace PullNotes

namespace Style

/-- The attributes of a style in their order, each with its short names. -/
def attributes : List (String × List String) := [
  ("bold", ["b"]), ("dim", ["d"]), ("italic", ["i"]), ("underline", ["u"]), ("blink", []),
  ("blink2", []), ("reverse", ["r"]), ("conceal", ["c"]), ("strike", ["s"]), ("underline2", ["uu"]),
  ("frame", []), ("encircle", []), ("overline", ["o"])]

/-- The attribute with a name. -/
def attribute? (word : Text) : Option String :=
  (attributes.find? fun (name, short) => (name :: short).any fun n => Text.ofString n == word).map
    (·.1)

/-- The names of colours. -/
def colourNames : List String := [
  "black", "red", "green", "yellow", "blue", "magenta", "cyan", "white", "bright_black",
  "bright_red", "bright_green", "bright_yellow", "bright_blue", "bright_magenta", "bright_cyan",
  "bright_white", "grey0", "gray0", "navy_blue", "dark_blue", "blue3", "blue1", "dark_green",
  "deep_sky_blue4", "dodger_blue3", "dodger_blue2", "green4", "spring_green4", "turquoise4",
  "deep_sky_blue3", "dodger_blue1", "green3", "spring_green3", "dark_cyan", "light_sea_green",
  "deep_sky_blue2", "deep_sky_blue1", "spring_green2", "cyan3", "dark_turquoise", "turquoise2",
  "green1", "spring_green1", "medium_spring_green", "cyan2", "cyan1", "dark_red", "deep_pink4",
  "purple4", "purple3", "blue_violet", "orange4", "grey37", "gray37", "medium_purple4",
  "slate_blue3", "royal_blue1", "chartreuse4", "dark_sea_green4", "pale_turquoise4", "steel_blue",
  "steel_blue3", "cornflower_blue", "chartreuse3", "cadet_blue", "sky_blue3", "steel_blue1",
  "pale_green3", "sea_green3", "aquamarine3", "medium_turquoise", "chartreuse2", "sea_green2",
  "sea_green1", "aquamarine1", "dark_slate_gray2", "dark_magenta", "dark_violet", "purple",
  "light_pink4", "plum4", "medium_purple3", "slate_blue1", "yellow4", "wheat4", "grey53", "gray53",
  "light_slate_grey", "light_slate_gray", "medium_purple", "light_slate_blue", "dark_olive_green3",
  "dark_sea_green", "light_sky_blue3", "sky_blue2", "dark_sea_green3", "dark_slate_gray3",
  "sky_blue1", "chartreuse1", "light_green", "pale_green1", "dark_slate_gray1", "red3",
  "medium_violet_red", "magenta3", "dark_orange3", "indian_red", "hot_pink3", "medium_orchid3",
  "medium_orchid", "medium_purple2", "dark_goldenrod", "light_salmon3", "rosy_brown", "grey63",
  "gray63", "medium_purple1", "gold3", "dark_khaki", "navajo_white3", "grey69", "gray69",
  "light_steel_blue3", "light_steel_blue", "yellow3", "dark_sea_green2", "light_cyan3",
  "light_sky_blue1", "green_yellow", "dark_olive_green2", "dark_sea_green1", "pale_turquoise1",
  "deep_pink3", "magenta2", "hot_pink2", "orchid", "medium_orchid1", "orange3", "light_pink3",
  "pink3", "plum3", "violet", "light_goldenrod3", "tan", "misty_rose3", "thistle3", "plum2",
  "khaki3", "light_goldenrod2", "light_yellow3", "grey84", "gray84", "light_steel_blue1", "yellow2",
  "dark_olive_green1", "honeydew2", "light_cyan1", "red1", "deep_pink2", "deep_pink1", "magenta1",
  "orange_red1", "indian_red1", "hot_pink", "dark_orange", "salmon1", "light_coral",
  "pale_violet_red1", "orchid2", "orchid1", "orange1", "sandy_brown", "light_salmon1",
  "light_pink1", "pink1", "plum1", "gold1", "navajo_white1", "misty_rose1", "thistle1", "yellow1",
  "light_goldenrod1", "khaki1", "wheat1", "cornsilk1", "grey100", "gray100", "grey3", "gray3",
  "grey7", "gray7", "grey11", "gray11", "grey15", "gray15", "grey19", "gray19", "grey23", "gray23",
  "grey27", "gray27", "grey30", "gray30", "grey35", "gray35", "grey39", "gray39", "grey42",
  "gray42", "grey46", "gray46", "grey50", "gray50", "grey54", "gray54", "grey58", "gray58",
  "grey62", "gray62", "grey66", "gray66", "grey70", "gray70", "grey74", "gray74", "grey78",
  "gray78", "grey82", "gray82", "grey85", "gray85", "grey89", "gray89", "grey93", "gray93"]

/-- The digits of a decimal number of any script. -/
def decimal? (t : Text) : Option Nat :=
  if t.isEmpty then none
  else
    (t.mapM CodePoint.decimalValue?).map fun digits => digits.foldl (fun n d => n * 10 + d) 0

/-- What stands between the brackets of a function. -/
def argument? (name : String) (word : Text) : Option Text :=
  let opening := Text.ofString name ++ "("
  if opening.isPrefixOf word && word.getLast? = some (')' : Char) then
    some (word.drop opening.length).dropLast
  else none

/-- The greatest number of a colour, and the greatest part of one. -/
def colourLimit : Nat := 255

/-- Whether a word is a colour by its hexadecimal digits. -/
def isHexColour (word : Text) : Bool :=
  word.head? = some ('#' : Char) && word.length = 7 &&
    word.tail.all fun c => c.isAsciiDigit || (97 ≤ c.val && c.val ≤ 102)

/-- Whether a word is a colour by its number. -/
def isNumberedColour (word : Text) : Bool :=
  match argument? "color" word with
  | some digits =>
    digits.length ≤ 3 && digits.all CodePoint.isAsciiDigit &&
      (decimal? digits).any fun n => n ≤ colourLimit
  | none => false

/-- Whether a word is a colour by its three parts. -/
def isMixedColour (word : Text) : Bool :=
  match argument? "rgb" word with
  | some parts =>
    let numbers := (parts.splitOn (',' : Char)).map decimal?
    numbers.length = 3 && numbers.all fun n => n.any fun n => n ≤ colourLimit
  | none => false

/-- Whether a word in lower case is a colour. -/
def isColour (word : Text) : Bool :=
  word == Text.ofString "default" || colourNames.any (fun n => Text.ofString n == word) ||
    isHexColour word || isNumberedColour word || isMixedColour word

/-- A style in the making: the attributes set or unset, the colours and the link. -/
structure Choice where
  attributes : List (String × Bool) := []
  colour : Option Text := none
  background : Option Text := none
  link : Option Text := none

namespace Choice

/-- A choice with an attribute set or unset. -/
def set (s : Choice) (name : String) (on : Bool) : Choice :=
  { s with attributes := (name, on) :: s.attributes }

/-- What is chosen for an attribute, if anything is. -/
def of? (s : Choice) (name : String) : Option Bool :=
  (s.attributes.find? fun (n, _) => n == name).map (·.2)

/-- The words of the attributes that are chosen, in order. -/
def attributeWords (s : Choice) : List Text :=
  Style.attributes.filterMap fun (name, _) =>
    (s.of? name).map fun on => if on then Text.ofString name else Text.concat ["not ", name]

/-- The words of a choice, in order. -/
def words (s : Choice) : List Text :=
  s.attributeWords ++ s.colour.toList ++
    (s.background.toList.map fun c => Text.concat ["on ", c]) ++
    (s.link.toList.map fun l => Text.concat ["link ", l])

/-- The plain form of a choice. -/
def plain (s : Choice) : Text :=
  if s.words.isEmpty then "none" else Text.join " " s.words

end Choice

/-- The choice that words make, if they name a style. -/
def choose (s : Choice) : List Text → Option Choice
  | [] => some s
  | word :: rest =>
    let lower := word.lower
    if lower = Text.ofString "on" then
      match rest with
      | colour :: rest =>
        if isColour colour.lower then
          choose { s with background := some colour.lower } rest
        else none
      | [] => none
    else if lower = Text.ofString "not" then
      match rest with
      | name :: rest => (attribute? name).bind fun name => choose (s.set name false) rest
      | [] => none
    else if lower = Text.ofString "link" then
      match rest with
      | link :: rest => choose { s with link := some link } rest
      | [] => none
    else
      match attribute? lower with
      | some name => choose (s.set name true) rest
      | none => if isColour lower then choose { s with colour := some lower } rest else none

/-- The words of a text. -/
def wordsOf (t : Text) : List Text :=
  let space : CodePoint := ' '
  ((t.map fun c => if c.isBlank then space else c).splitOn space).filter fun w => !w.isEmpty

/-- The plain form of the name of a style; a name of none is taken in lower case. -/
def plainName (name : Text) : Text :=
  match choose {} (wordsOf name) with
  | some s => s.plain
  | none => name.trim.lower

end Style

end PullNotes
