import SourceReach.Number.Numeral

/-!
# Styles

A style tag names attributes and colours in words. Two tags mean the same style when their normal
forms are equal: the attributes in a fixed order, each once, then the colours.
-/

namespace SourceReach

/-- What a text can look like, apart from its colours. -/
inductive Attribute where
  | bold
  | dim
  | italic
  | underline
  | blink
  | blink2
  | reverse
  | conceal
  | strike
  | underline2
  | frame
  | encircle
  | overline
  deriving DecidableEq, Repr

namespace Attribute

/-- The attributes in the order of normal forms. -/
def all : List Attribute :=
  [bold, dim, italic, underline, blink, blink2, reverse, conceal, strike, underline2, frame,
    encircle, overline]

def name : Attribute → Text
  | bold => "bold".toList
  | dim => "dim".toList
  | italic => "italic".toList
  | underline => "underline".toList
  | blink => "blink".toList
  | blink2 => "blink2".toList
  | reverse => "reverse".toList
  | conceal => "conceal".toList
  | strike => "strike".toList
  | underline2 => "underline2".toList
  | frame => "frame".toList
  | encircle => "encircle".toList
  | overline => "overline".toList

def shortNames : List (Text × Attribute) :=
  [(['b'], bold), (['d'], dim), (['i'], italic), (['u'], underline), (['r'], reverse),
    (['c'], conceal), (['s'], strike), (['u', 'u'], underline2), (['o'], overline)]

def ofName? (t : Text) : Option Attribute := (all.find? (·.name = t)).or (shortNames.lookup t)

end Attribute

/-! ## Colours -/

/-- Why words mean no style. -/
inductive StyleProblem where
  /-- The words are none that styles are made of. -/
  | unknown
  /-- A part of a colour is no number. -/
  | noNumber
  deriving DecidableEq, Repr

namespace Colour

def lines : List String := [
  "black red green yellow blue magenta cyan white bright_black bright_red bright_green",
  "bright_yellow bright_blue bright_magenta bright_cyan bright_white grey0 gray0 navy_blue",
  "dark_blue blue3 blue1 dark_green deep_sky_blue4 dodger_blue3 dodger_blue2 green4 spring_green4",
  "turquoise4 deep_sky_blue3 dodger_blue1 green3 spring_green3 dark_cyan light_sea_green",
  "deep_sky_blue2 deep_sky_blue1 spring_green2 cyan3 dark_turquoise turquoise2 green1",
  "spring_green1 medium_spring_green cyan2 cyan1 dark_red deep_pink4 purple4 purple3 blue_violet",
  "orange4 grey37 gray37 medium_purple4 slate_blue3 royal_blue1 chartreuse4 dark_sea_green4",
  "pale_turquoise4 steel_blue steel_blue3 cornflower_blue chartreuse3 cadet_blue sky_blue3",
  "steel_blue1 pale_green3 sea_green3 aquamarine3 medium_turquoise chartreuse2 sea_green2",
  "sea_green1 aquamarine1 dark_slate_gray2 dark_magenta dark_violet purple light_pink4 plum4",
  "medium_purple3 slate_blue1 yellow4 wheat4 grey53 gray53 light_slate_grey light_slate_gray",
  "medium_purple light_slate_blue dark_olive_green3 dark_sea_green light_sky_blue3 sky_blue2",
  "dark_sea_green3 dark_slate_gray3 sky_blue1 chartreuse1 light_green pale_green1 dark_slate_gray1",
  "red3 medium_violet_red magenta3 dark_orange3 indian_red hot_pink3 medium_orchid3 medium_orchid",
  "medium_purple2 dark_goldenrod light_salmon3 rosy_brown grey63 gray63 medium_purple1 gold3",
  "dark_khaki navajo_white3 grey69 gray69 light_steel_blue3 light_steel_blue yellow3",
  "dark_sea_green2 light_cyan3 light_sky_blue1 green_yellow dark_olive_green2 dark_sea_green1",
  "pale_turquoise1 deep_pink3 magenta2 hot_pink2 orchid medium_orchid1 orange3 light_pink3 pink3",
  "plum3 violet light_goldenrod3 tan misty_rose3 thistle3 plum2 khaki3 light_goldenrod2",
  "light_yellow3 grey84 gray84 light_steel_blue1 yellow2 dark_olive_green1 honeydew2 light_cyan1",
  "red1 deep_pink2 deep_pink1 magenta1 orange_red1 indian_red1 hot_pink dark_orange salmon1",
  "light_coral pale_violet_red1 orchid2 orchid1 orange1 sandy_brown light_salmon1 light_pink1",
  "pink1 plum1 gold1 navajo_white1 misty_rose1 thistle1 yellow1 light_goldenrod1 khaki1 wheat1",
  "cornsilk1 grey100 gray100 grey3 gray3 grey7 gray7 grey11 gray11 grey15 gray15 grey19 gray19",
  "grey23 gray23 grey27 gray27 grey30 gray30 grey35 gray35 grey39 gray39 grey42 gray42 grey46",
  "gray46 grey50 gray50 grey54 gray54 grey58 gray58 grey62 gray62 grey66 gray66 grey70 gray70",
  "grey74 gray74 grey78 gray78 grey82 gray82 grey85 gray85 grey89 gray89 grey93 gray93"]

def names : List Text := lines.flatMap fun l => Text.words l.toList

/-- What stands between a start and a closing parenthesis. -/
def argument? (start t : Text) : Option Text :=
  if start.isPrefixOf t && t.getLast? = some ')' then some (t.drop start.length).dropLast else none

def isHex (t : Text) : Bool :=
  t.head? = some '#' && t.length = 7 && (t.drop 1).all fun c => c.toNat < 128 &&
    (Numeral.digitIn? 16 c).isSome

def isNumber (t : Text) : Bool :=
  1 ≤ t.length && t.length ≤ 3 && t.all Char.isDigit && (Numeral.decimal? t).any (· ≤ 255)

/-- Checks the three numbers of a colour made of red, green and blue. -/
def checkParts (t : Text) : Except StyleProblem Unit :=
  match Text.pieces ',' t with
  | [r, g, b] =>
    match Numeral.int? r, Numeral.int? g, Numeral.int? b with
    | some r, some g, some b => if r ≤ 255 ∧ g ≤ 255 ∧ b ≤ 255 then .ok () else .error .unknown
    | _, _, _ => .error .noNumber
  | _ => .error .unknown

/-- The colour that a word names, in small letters. -/
def ofWord (word : Text) : Except StyleProblem Text :=
  let t := Text.lower word
  if t = "default".toList || names.contains t || isHex t ||
    (argument? "color(".toList t).any isNumber then .ok t
  else match argument? "rgb(".toList t with
    | some ps =>
      if ps ≠ [] && ps.all fun c => c = ',' || (digitValue? c).isSome then do
        checkParts ps
        return t
      else .error .unknown
    | none => .error .unknown

end Colour

/-! ## Styles from words -/

/-- A style: attributes that are on or off, colours, and the target of a link. -/
structure Style where
  attributes : List (Attribute × Bool) := []
  colour : Option Text := none
  background : Option Text := none
  link : Option Text := none

namespace Style

def setAttribute (s : Style) (a : Attribute) (on : Bool) : Style :=
  { s with attributes := (a, on) :: s.attributes }

def addWords (s : Style) : List Text → Except StyleProblem Style
  | [] => .ok s
  | w :: ws =>
    let word := Text.lower w
    if word = "on".toList then
      match ws with
      | [] => .error .unknown
      | c :: ws => do ({ s with background := ← Colour.ofWord c } : Style).addWords ws
    else if word = "not".toList then
      match ws with
      | [] => .error .unknown
      | a :: ws =>
        match Attribute.ofName? a with
        | none => .error .unknown
        | some a => (s.setAttribute a false).addWords ws
    else if word = "link".toList then
      match ws with
      | [] => .error .unknown
      | target :: ws => ({ s with link := some target } : Style).addWords ws
    else match Attribute.ofName? word with
      | some a => (s.setAttribute a true).addWords ws
      | none => do ({ s with colour := ← Colour.ofWord word } : Style).addWords ws

def attributeWords (s : Style) (a : Attribute) : List Text :=
  match s.attributes.lookup a with
  | some true => [a.name]
  | some false => ["not".toList, a.name]
  | none => []

def words (s : Style) : List Text :=
  Attribute.all.flatMap s.attributeWords ++ s.colour.toList ++
    (s.background.map fun c => ["on".toList, c]).getD [] ++
      (s.link.map fun l => ["link".toList, l]).getD []

def toText (s : Style) : Text :=
  match s.words with
  | [] => "none".toList
  | ws => Text.joined [' '] ws

/-- The normal form of a text of words. What means no style is taken in small letters. -/
def normal (t : Text) : Except StyleProblem Text :=
  if Text.trim t = "none".toList then .ok "none".toList
  else match ({} : Style).addWords (Text.words t) with
    | .ok s => .ok s.toText
    | .error .unknown => .ok (Text.lower (Text.trim t))
    | .error .noNumber => .error .noNumber

end Style

end SourceReach
