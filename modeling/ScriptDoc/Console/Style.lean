import ScriptDoc.Text.Blank
import ScriptDoc.Text.CodeUnit
import ScriptDoc.Text.Lowercase
import ScriptDoc.Text.Word

/-!
# Names of styles

A style is written as words: attributes, each perhaps after `not`, a colour, another one after `on`, and
an address after `link`.  `Style.name` gives styles that look alike one name, whatever the order of the
words; words that are no style are a name of their own.
-/

namespace ScriptDoc.Console

open ScriptDoc.Text

/-- The attributes, in the order in which a name gives them. -/
def attributes : List String :=
  ["bold", "dim", "italic", "underline", "blink", "blink2", "reverse", "conceal", "strike",
    "underline2", "frame", "encircle", "overline"]

/-- The short words for attributes. -/
def shortAttributes : List (String × String) :=
  [("b", "bold"), ("d", "dim"), ("i", "italic"), ("u", "underline"), ("r", "reverse"),
    ("c", "conceal"), ("s", "strike"), ("uu", "underline2"), ("o", "overline")]

/-- The attribute that a word stands for. -/
def attribute? (word : String) : Option String :=
  if attributes.contains word then some word else shortAttributes.lookup word

/-- The colours of a terminal that have names. -/
def colourNames : List String :=
  ["default", "black", "red", "green", "yellow", "blue", "magenta", "cyan", "white", "bright_black",
    "bright_red", "bright_green", "bright_yellow", "bright_blue", "bright_magenta", "bright_cyan",
    "bright_white", "navy_blue", "dark_blue", "blue3", "blue1", "dark_green", "deep_sky_blue4",
    "dodger_blue3", "dodger_blue2", "green4", "spring_green4", "turquoise4", "deep_sky_blue3",
    "dodger_blue1", "green3", "spring_green3", "dark_cyan", "light_sea_green", "deep_sky_blue2",
    "deep_sky_blue1", "spring_green2", "cyan3", "dark_turquoise", "turquoise2", "green1",
    "spring_green1", "medium_spring_green", "cyan2", "cyan1", "dark_red", "deep_pink4", "purple4",
    "purple3", "blue_violet", "orange4", "medium_purple4", "slate_blue3", "royal_blue1",
    "chartreuse4", "dark_sea_green4", "pale_turquoise4", "steel_blue", "steel_blue3",
    "cornflower_blue", "chartreuse3", "cadet_blue", "sky_blue3", "steel_blue1", "pale_green3",
    "sea_green3", "aquamarine3", "medium_turquoise", "chartreuse2", "sea_green2", "sea_green1",
    "aquamarine1", "dark_slate_gray2", "dark_magenta", "dark_violet", "purple", "light_pink4",
    "plum4", "medium_purple3", "slate_blue1", "yellow4", "wheat4", "light_slate_grey",
    "light_slate_gray", "medium_purple", "light_slate_blue", "dark_olive_green3", "dark_sea_green",
    "light_sky_blue3", "sky_blue2", "dark_sea_green3", "dark_slate_gray3", "sky_blue1",
    "chartreuse1", "light_green", "pale_green1", "dark_slate_gray1", "red3", "medium_violet_red",
    "magenta3", "dark_orange3", "indian_red", "hot_pink3", "medium_orchid3", "medium_orchid",
    "medium_purple2", "dark_goldenrod", "light_salmon3", "rosy_brown", "medium_purple1", "gold3",
    "dark_khaki", "navajo_white3", "light_steel_blue3", "light_steel_blue", "yellow3",
    "dark_sea_green2", "light_cyan3", "light_sky_blue1", "green_yellow", "dark_olive_green2",
    "dark_sea_green1", "pale_turquoise1", "deep_pink3", "magenta2", "hot_pink2", "orchid",
    "medium_orchid1", "orange3", "light_pink3", "pink3", "plum3", "violet", "light_goldenrod3",
    "tan", "misty_rose3", "thistle3", "plum2", "khaki3", "light_goldenrod2", "light_yellow3",
    "light_steel_blue1", "yellow2", "dark_olive_green1", "honeydew2", "light_cyan1", "red1",
    "deep_pink2", "deep_pink1", "magenta1", "orange_red1", "indian_red1", "hot_pink",
    "dark_orange", "salmon1", "light_coral", "pale_violet_red1", "orchid2", "orchid1", "orange1",
    "sandy_brown", "light_salmon1", "light_pink1", "pink1", "plum1", "gold1", "navajo_white1",
    "misty_rose1", "thistle1", "yellow1", "light_goldenrod1", "khaki1", "wheat1", "cornsilk1"]

/-- The shades of grey that have names, in percent. -/
def greys : List Nat :=
  [0, 3, 7, 11, 15, 19, 23, 27, 30, 35, 37, 39, 42, 46, 50, 53, 54, 58, 62, 63, 66, 69, 70, 74, 78,
    82, 84, 85, 89, 93, 100]

/-- A number of at most 255 in a colour. -/
def isColourPart (cs : List Char) : Bool :=
  !cs.isEmpty && cs.all isAsciiDigit && decimalValue cs ≤ 255

/-- What stands between a word with an opening bracket and the closing bracket at the end. -/
def bracketed? (lead : String) (cs : List Char) : Option (List Char) :=
  (lead.toList.isPrefixOf? cs).bind fun r => if r.getLast? == some ')' then some r.dropLast else none

/-- Whether a word in lower case is a colour: a name, or numbers. -/
def isColour (word : String) : Bool :=
  let cs := word.toList
  colourNames.contains word
    || greys.any (fun n => word == "grey" ++ toString n || word == "gray" ++ toString n)
    || (cs.head? == some '#' && cs.length == 7 && (hexValue? (cs.drop 1)).isSome)
    || (bracketed? "color(" cs).any (fun r => r.length ≤ 3 && isColourPart r)
    || (bracketed? "rgb(" cs).any fun r => (r.splitOn ',').length == 3 && (r.splitOn ',').all isColourPart

/-- A style. -/
structure Style where
  /-- The attributes that are set, with whether they are wanted; the first one counts. -/
  wanted : List (String × Bool) := []
  colour : Option String := none
  background : Option String := none
  link : Option String := none

namespace Style

/-- Takes in an attribute or a colour. -/
def addWord (s : Style) (word : String) : Option Style :=
  match attribute? word with
  | some a => some { s with wanted := (a, true) :: s.wanted }
  | none => if isColour word then some { s with colour := some word } else none

/-- Takes in the words of a style. -/
def addWords (s : Style) : List String → Option Style
  | [] => some s
  | [word] => s.addWord (lowered word)
  | word :: next :: rest =>
    match lowered word with
    | "on" =>
      if isColour (lowered next) then addWords { s with background := some (lowered next) } rest
      else none
    | "not" =>
      (attribute? next).bind fun a => addWords { s with wanted := (a, false) :: s.wanted } rest
    | "link" => addWords { s with link := some next } rest
    | first => (s.addWord first).bind fun s => addWords s (next :: rest)

/-- The words of a style in their order. -/
def words (s : Style) : List String :=
  let wantedWord (a : String) : Option String :=
    (s.wanted.lookup a).map fun wanted => if wanted then a else "not " ++ a
  attributes.filterMap wantedWord ++ s.colour.toList
    ++ (s.background.map ("on " ++ ·)).toList ++ (s.link.map ("link " ++ ·)).toList

/-- The words of a text. -/
def split (cs : List Char) : List String :=
  ((cs.splitBy fun a b => isBlank a == isBlank b).filter fun w => !w.all isBlank).map String.ofList

/-- The name of the style that a text describes. -/
def name (text : List Char) : String :=
  let words := split text
  if words.isEmpty || words == ["none"] then "none"
  else
    match ({} : Style).addWords words with
    | some s => " ".intercalate s.words
    | none => lowered (trimmed (String.ofList text))

end Style

end ScriptDoc.Console
