import SqlDialects.Text.Blank
import SqlDialects.Text.Case

/-!
# Styles

What a tag of markup asks for: attributes, colours and a link, in words.

**Rules.**
* Words are attributes, perhaps with `not` before them, a colour, a colour after `on`, or an
  address after `link`. Short names stand for some attributes.
* Two styles are the same if their normal forms are: attributes in a fixed order under their full
  names, then the colours and the link. Words of any other form are their own normal form, in small
  letters.

**Results.**
* `Style.normal` gives the normal form of a style.
-/

namespace SqlDialects
namespace Console

/-- What a style asks for. -/
structure Style where
  /-- Attributes that are asked for or excluded. -/
  attributes : List (String × Bool)
  color : Option String
  background : Option String
  link : Option String

namespace Style

/-- The attributes, in the order of a normal form. -/
def attributeNames : List String :=
  ["bold", "dim", "italic", "underline", "blink", "blink2", "reverse", "conceal", "strike",
    "underline2", "frame", "encircle", "overline"]

/-- Short names of attributes. -/
def shortNames : List (String × String) :=
  [("b", "bold"), ("d", "dim"), ("i", "italic"), ("u", "underline"), ("r", "reverse"),
    ("c", "conceal"), ("s", "strike"), ("uu", "underline2"), ("o", "overline")]

/-- The attribute of a name. -/
def attribute? (word : String) : Option String :=
  if attributeNames.contains word then some word
  else (shortNames.find? fun a => a.1 == word).map (·.2)

/-- The names of colours. -/
def colorNames : List String :=
  [
    "black", "red", "green", "yellow", "blue", "magenta", "cyan", "white", "bright_black",
    "bright_red", "bright_green", "bright_yellow", "bright_blue", "bright_magenta", "bright_cyan",
    "bright_white", "grey0", "gray0", "navy_blue", "dark_blue", "blue3", "blue1", "dark_green",
    "deep_sky_blue4", "dodger_blue3", "dodger_blue2", "green4", "spring_green4", "turquoise4",
    "deep_sky_blue3", "dodger_blue1", "green3", "spring_green3", "dark_cyan", "light_sea_green",
    "deep_sky_blue2", "deep_sky_blue1", "spring_green2", "cyan3", "dark_turquoise", "turquoise2",
    "green1", "spring_green1", "medium_spring_green", "cyan2", "cyan1", "dark_red", "deep_pink4",
    "purple4", "purple3", "blue_violet", "orange4", "grey37", "gray37", "medium_purple4",
    "slate_blue3", "royal_blue1", "chartreuse4", "dark_sea_green4", "pale_turquoise4",
    "steel_blue", "steel_blue3", "cornflower_blue", "chartreuse3", "cadet_blue", "sky_blue3",
    "steel_blue1", "pale_green3", "sea_green3", "aquamarine3", "medium_turquoise", "chartreuse2",
    "sea_green2", "sea_green1", "aquamarine1", "dark_slate_gray2", "dark_magenta", "dark_violet",
    "purple", "light_pink4", "plum4", "medium_purple3", "slate_blue1", "yellow4", "wheat4",
    "grey53", "gray53", "light_slate_grey", "light_slate_gray", "medium_purple",
    "light_slate_blue", "dark_olive_green3", "dark_sea_green", "light_sky_blue3", "sky_blue2",
    "dark_sea_green3", "dark_slate_gray3", "sky_blue1", "chartreuse1", "light_green",
    "pale_green1", "dark_slate_gray1", "red3", "medium_violet_red", "magenta3", "dark_orange3",
    "indian_red", "hot_pink3", "medium_orchid3", "medium_orchid", "medium_purple2",
    "dark_goldenrod", "light_salmon3", "rosy_brown", "grey63", "gray63", "medium_purple1",
    "gold3", "dark_khaki", "navajo_white3", "grey69", "gray69", "light_steel_blue3",
    "light_steel_blue", "yellow3", "dark_sea_green2", "light_cyan3", "light_sky_blue1",
    "green_yellow", "dark_olive_green2", "dark_sea_green1", "pale_turquoise1", "deep_pink3",
    "magenta2", "hot_pink2", "orchid", "medium_orchid1", "orange3", "light_pink3", "pink3",
    "plum3", "violet", "light_goldenrod3", "tan", "misty_rose3", "thistle3", "plum2", "khaki3",
    "light_goldenrod2", "light_yellow3", "grey84", "gray84", "light_steel_blue1", "yellow2",
    "dark_olive_green1", "honeydew2", "light_cyan1", "red1", "deep_pink2", "deep_pink1",
    "magenta1", "orange_red1", "indian_red1", "hot_pink", "dark_orange", "salmon1", "light_coral",
    "pale_violet_red1", "orchid2", "orchid1", "orange1", "sandy_brown", "light_salmon1",
    "light_pink1", "pink1", "plum1", "gold1", "navajo_white1", "misty_rose1", "thistle1",
    "yellow1", "light_goldenrod1", "khaki1", "wheat1", "cornsilk1", "grey100", "gray100", "grey3",
    "gray3", "grey7", "gray7", "grey11", "gray11", "grey15", "gray15", "grey19", "gray19",
    "grey23", "gray23", "grey27", "gray27", "grey30", "gray30", "grey35", "gray35", "grey39",
    "gray39", "grey42", "gray42", "grey46", "gray46", "grey50", "gray50", "grey54", "gray54",
    "grey58", "gray58", "grey62", "gray62", "grey66", "gray66", "grey70", "gray70", "grey74",
    "gray74", "grey78", "gray78", "grey82", "gray82", "grey85", "gray85", "grey89", "gray89",
    "grey93", "gray93"
  ]

/-- Whether characters are decimal digits that denote a number of at most 255. -/
def isByte (cs : List Char) : Bool :=
  !cs.isEmpty && cs.all Char.isDigit
    && decide (cs.foldl (fun n c => 10 * n + (c.toNat - 48)) 0 ≤ 255)

/-- Whether a word is the code of a colour: six hexadecimal digits, a number or three numbers. -/
def isColorCode (cs : List Char) : Bool :=
  match cs with
  | '#' :: ds => ds.length = 6 && ds.all fun c => c.isDigit || ('a' ≤ c && c ≤ 'f')
  | _ =>
    if "color(".toList.isPrefixOf cs && cs.getLast? = some ')' then
      let ds := (cs.drop 6).dropLast
      ds.length ≤ 3 && isByte ds
    else if "rgb(".toList.isPrefixOf cs && cs.getLast? = some ')' then
      let parts := (cs.drop 4).dropLast.splitOn ','
      parts.length = 3 && parts.all isByte
    else false

/-- Whether a word in small letters is a colour. -/
def isColor (word : String) : Bool :=
  word == "default" || colorNames.contains word || isColorCode word.toList

/-- Sets an attribute. -/
def setAttribute (s : Style) (name : String) (value : Bool) : Style :=
  { s with attributes := (name, value) :: s.attributes.filter fun a => a.1 != name }

/-- The style of words, with what came before; none if the words have another form. -/
def ofWords (s : Style) : List String → Option Style
  | [] => some s
  | word :: ws =>
    let lower := Text.lower word
    if lower = "on" then
      match ws with
      | [] => none
      | w :: ws =>
        if isColor (Text.lower w) then ofWords { s with background := some (Text.lower w) } ws
        else none
    else if lower = "not" then
      match ws with
      | [] => none
      | w :: ws => (attribute? w).bind fun a => ofWords (s.setAttribute a false) ws
    else if lower = "link" then
      match ws with
      | [] => none
      | w :: ws => ofWords { s with link := some w } ws
    else
      match attribute? lower with
      | some a => ofWords (s.setAttribute a true) ws
      | none => if isColor lower then ofWords { s with color := some lower } ws else none

/-- The words of a style in normal form. -/
def toWords (s : Style) : List String :=
  (attributeNames.flatMap fun a =>
      match s.attributes.find? fun b => b.1 == a with
      | some (_, true) => [a]
      | some (_, false) => ["not", a]
      | none => [])
    ++ s.color.toList
    ++ (s.background.toList.flatMap fun c => ["on", c])
    ++ (s.link.toList.flatMap fun l => ["link", l])

/-- The words of a text, which blanks separate; every step uses up a character. -/
def words : (fuel : Nat) → List Char → List String
  | 0, _ => []
  | fuel + 1, cs =>
    let rest := cs.dropWhile Text.isSpace
    if rest.isEmpty then []
    else
      String.ofList (rest.takeWhile fun c => !Text.isSpace c)
        :: words fuel (rest.dropWhile fun c => !Text.isSpace c)

/-- The normal form of a style. -/
def normal (cs : List Char) : String :=
  let ws := words (cs.length + 1) cs
  if ws.isEmpty || ws = ["none"] then "none"
  else
    match ofWords ⟨[], none, none, none⟩ ws with
    | some s => if s.toWords.isEmpty then "none" else " ".intercalate s.toWords
    | none => Text.lower (String.ofList (Text.trim Text.isSpace cs))

end Style
end Console
end SqlDialects
