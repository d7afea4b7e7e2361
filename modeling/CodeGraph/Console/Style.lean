import CodeGraph.Text.Hex
import CodeGraph.Text.Lowercase
import CodeGraph.Text.Numeral

/-!
# Styles of text

A style is a sequence of words for attributes, colors and a link.  Two texts name
the same style when they have the same canonical name; a text that is no style
stands for itself.
-/

namespace CodeGraph.Console

/-- The attributes in the order in which a canonical name has them. -/
def attributeNames : List String :=
  ["bold", "dim", "italic", "underline", "blink", "blink2", "reverse", "conceal", "strike",
    "underline2", "frame", "encircle", "overline"]

/-- Short words for attributes. -/
def shortAttributes : List (String × String) :=
  [("d", "dim"), ("b", "bold"), ("i", "italic"), ("u", "underline"), ("r", "reverse"),
    ("c", "conceal"), ("s", "strike"), ("uu", "underline2"), ("o", "overline")]

/-- The attribute that a word stands for. -/
def attribute? (word : String) : Option String :=
  (shortAttributes.lookup word) <|> attributeNames.find? (· == word)

def colorNames : List String :=
  ["aquamarine1", "aquamarine3", "black", "blue", "blue1", "blue3", "blue_violet",
    "bright_black", "bright_blue", "bright_cyan", "bright_green", "bright_magenta",
    "bright_red", "bright_white", "bright_yellow", "cadet_blue", "chartreuse1", "chartreuse2",
    "chartreuse3", "chartreuse4", "cornflower_blue", "cornsilk1", "cyan", "cyan1", "cyan2",
    "cyan3", "dark_blue", "dark_cyan", "dark_goldenrod", "dark_green", "dark_khaki",
    "dark_magenta", "dark_olive_green1", "dark_olive_green2", "dark_olive_green3",
    "dark_orange", "dark_orange3", "dark_red", "dark_sea_green", "dark_sea_green1",
    "dark_sea_green2", "dark_sea_green3", "dark_sea_green4", "dark_slate_gray1",
    "dark_slate_gray2", "dark_slate_gray3", "dark_turquoise", "dark_violet", "deep_pink1",
    "deep_pink2", "deep_pink3", "deep_pink4", "deep_sky_blue1", "deep_sky_blue2",
    "deep_sky_blue3", "deep_sky_blue4", "dodger_blue1", "dodger_blue2", "dodger_blue3",
    "gold1", "gold3", "gray0", "gray100", "gray11", "gray15", "gray19", "gray23", "gray27",
    "gray3", "gray30", "gray35", "gray37", "gray39", "gray42", "gray46", "gray50", "gray53",
    "gray54", "gray58", "gray62", "gray63", "gray66", "gray69", "gray7", "gray70", "gray74",
    "gray78", "gray82", "gray84", "gray85", "gray89", "gray93", "green", "green1", "green3",
    "green4", "green_yellow", "grey0", "grey100", "grey11", "grey15", "grey19", "grey23",
    "grey27", "grey3", "grey30", "grey35", "grey37", "grey39", "grey42", "grey46", "grey50",
    "grey53", "grey54", "grey58", "grey62", "grey63", "grey66", "grey69", "grey7", "grey70",
    "grey74", "grey78", "grey82", "grey84", "grey85", "grey89", "grey93", "honeydew2",
    "hot_pink", "hot_pink2", "hot_pink3", "indian_red", "indian_red1", "khaki1", "khaki3",
    "light_coral", "light_cyan1", "light_cyan3", "light_goldenrod1", "light_goldenrod2",
    "light_goldenrod3", "light_green", "light_pink1", "light_pink3", "light_pink4",
    "light_salmon1", "light_salmon3", "light_sea_green", "light_sky_blue1", "light_sky_blue3",
    "light_slate_blue", "light_slate_gray", "light_slate_grey", "light_steel_blue",
    "light_steel_blue1", "light_steel_blue3", "light_yellow3", "magenta", "magenta1",
    "magenta2", "magenta3", "medium_orchid", "medium_orchid1", "medium_orchid3",
    "medium_purple", "medium_purple1", "medium_purple2", "medium_purple3", "medium_purple4",
    "medium_spring_green", "medium_turquoise", "medium_violet_red", "misty_rose1",
    "misty_rose3", "navajo_white1", "navajo_white3", "navy_blue", "orange1", "orange3",
    "orange4", "orange_red1", "orchid", "orchid1", "orchid2", "pale_green1", "pale_green3",
    "pale_turquoise1", "pale_turquoise4", "pale_violet_red1", "pink1", "pink3", "plum1",
    "plum2", "plum3", "plum4", "purple", "purple3", "purple4", "red", "red1", "red3",
    "rosy_brown", "royal_blue1", "salmon1", "sandy_brown", "sea_green1", "sea_green2",
    "sea_green3", "sky_blue1", "sky_blue2", "sky_blue3", "slate_blue1", "slate_blue3",
    "spring_green1", "spring_green2", "spring_green3", "spring_green4", "steel_blue",
    "steel_blue1", "steel_blue3", "tan", "thistle1", "thistle3", "turquoise2", "turquoise4",
    "violet", "wheat1", "wheat4", "white", "yellow", "yellow1", "yellow2", "yellow3",
    "yellow4"]

/-- What stands in brackets behind a name. -/
def inBrackets? (name : List Char) (word : List Char) : Option (List Char) :=
  match (word.drop name.length).reverse with
  | ')' :: inner => if word.take name.length = name then some inner.reverse else none
  | _ => none

/-- Why words are no style. -/
inductive StyleFault
  | unknown
  /-- A part of a color is no number. -/
  | colorPart (fault : Numeral.IntegerFault)
  deriving DecidableEq, Repr

/-- A color of three parts in brackets, each a number up to 255. -/
def checkParts (text : List Char) : Except StyleFault Unit := do
  let isPart (character : Char) : Bool :=
    character == ',' || (Numeral.plainForm character.toNat).isDigit
  let parts := (String.ofList text).splitOn ","
  if text.isEmpty || !text.all isPart || parts.length != 3 then throw .unknown
  let numbers ← parts.mapM fun part =>
    (Numeral.integer 10 (Codes.ofString part)).mapError .colorPart
  if numbers.any (255 < ·) then throw .unknown

/-- A color is a name, a number up to 255, or three parts. -/
def checkColor (word : String) : Except StyleFault Unit :=
  let letters := word.toList
  let isSixDigits := match letters with
    | '#' :: digits => digits.length = 6 && digits.all fun digit => (Hex.digit? digit).isSome
    | _ => false
  let isNumber := (inBrackets? "color(".toList letters).any fun digits =>
    !digits.isEmpty && digits.length ≤ 3 && digits.all Char.isDigit &&
      (String.ofList digits).toNat?.any (· ≤ 255)
  if word == "default" || colorNames.contains word || isSixDigits || isNumber then .ok ()
  else
    match inBrackets? "rgb(".toList letters with
    | some parts => checkParts parts
    | none => .error .unknown

/-- What a style sets. -/
structure Style where
  attributes : List (String × Bool) := []
  color : Option String := none
  background : Option String := none
  link : Option String := none
  deriving DecidableEq, Repr

namespace Style

/-- The style with an attribute set or unset. -/
def setAttribute (style : Style) (name : String) (value : Bool) : Style :=
  { style with attributes := (name, value) :: style.attributes }

/-- Reads the words of a style. -/
def read (style : Style) : List String → Except StyleFault Style
  | [] => .ok style
  | written :: rest =>
      let word := lowercase written
      if word = "on" then
        match rest with
        | [] => .error .unknown
        | color :: rest => do
            let color := lowercase color
            checkColor color
            ({ style with background := some color } : Style).read rest
      else if word = "not" then
        match rest with
        | [] => .error .unknown
        | name :: rest =>
            match attribute? name with
            | some name => (style.setAttribute name false).read rest
            | none => .error .unknown
      else if word = "link" then
        match rest with
        | [] => .error .unknown
        | target :: rest => ({ style with link := some target } : Style).read rest
      else
        match attribute? word with
        | some name => (style.setAttribute name true).read rest
        | none => do
            checkColor word
            ({ style with color := some word } : Style).read rest

/-- The words of a style in their order. -/
def words (style : Style) : List String :=
  let attributes := attributeNames.flatMap fun name =>
    match style.attributes.lookup name with
    | some true => [name]
    | some false => ["not", name]
    | none => []
  let background := style.background.toList.flatMap fun color => ["on", color]
  let link := style.link.toList.flatMap fun target => ["link", target]
  attributes ++ style.color.toList ++ background ++ link

end Style

/-- Takes a text apart at blanks. -/
def blankWords : List Char → List (List Char)
  | [] => []
  | character :: rest =>
      if isBlank character then blankWords rest
      else
        match rest, blankWords rest with
        | next :: _, word :: words =>
            if isBlank next then [character] :: word :: words else (character :: word) :: words
        | _, words => [character] :: words

/-- The canonical name of a style.  What is no style is kept in lowercase, without
blanks around it. -/
def styleName (name : List Char) : Except Numeral.IntegerFault String :=
  match ({} : Style).read ((blankWords name).map String.ofList) with
  | .ok style => .ok (" ".intercalate style.words)
  | .error .unknown => .ok (lowercase (String.ofList (stripBlanks name)))
  | .error (.colorPart fault) => .error fault

end CodeGraph.Console
