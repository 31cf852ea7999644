import GraphMapper.Store.Records
import GraphMapper.Text.Lower

/-!
# Styles

A style is described by words: attributes such as `bold`, each of which can be denied by `not`
before it, a colour, a colour of the background after `on`, and the target of a link after
`link`.  Many descriptions mean the same style.  `Style.normal` gives all of them one text: the
attributes in a fixed order under their full names, then the colour, the background and the
link.  A closing tag matches an opening one if their normal texts agree.

A description that means no style is its own normal text, in small letters.

## Colours

A colour is a name, `#` with six hexadecimal digits, the number of a palette entry, or its three
parts in decimal.  A part that has no digits is not read as a description without meaning: it is
a faulty number.
-/

namespace GraphMapper

/-- What a style can say about a text apart from its colours, in the order of normal texts. -/
inductive Attribute where
  | bold
  | dim
  | italic
  | underline
  | blink
  | rapidBlink
  | reverse
  | conceal
  | strike
  | doubleUnderline
  | frame
  | encircle
  | overline
  deriving DecidableEq

/-- A style. -/
structure Style where
  attributes : List (Attribute × Bool) := []
  colour : Option (List Char) := none
  background : Option (List Char) := none
  link : Option (List Char) := none

namespace Attribute

/-- All attributes, in the order of normal texts. -/
def all : List Attribute :=
  [.bold, .dim, .italic, .underline, .blink, .rapidBlink, .reverse, .conceal, .strike,
    .doubleUnderline, .frame, .encircle, .overline]

/-- The full name of an attribute. -/
def name : Attribute → String
  | .bold => "bold"
  | .dim => "dim"
  | .italic => "italic"
  | .underline => "underline"
  | .blink => "blink"
  | .rapidBlink => "blink2"
  | .reverse => "reverse"
  | .conceal => "conceal"
  | .strike => "strike"
  | .doubleUnderline => "underline2"
  | .frame => "frame"
  | .encircle => "encircle"
  | .overline => "overline"

/-- The short names of attributes. -/
def shortNames : List (String × Attribute) :=
  [("d", .dim), ("b", .bold), ("i", .italic), ("u", .underline), ("r", .reverse),
    ("c", .conceal), ("s", .strike), ("uu", .doubleUnderline), ("o", .overline)]

/-- The attribute that a word names, in full or in short. -/
def ofWord? (word : List Char) : Option Attribute :=
  let written := String.ofList word
  (all.find? fun a => a.name == written).or (shortNames.lookup written)

end Attribute

namespace Style

/-- The names of colours. -/
def colourNames : String := "
  default black red green yellow blue magenta cyan white bright_black bright_red bright_green
  bright_yellow bright_blue bright_magenta bright_cyan bright_white grey0 gray0 navy_blue
  dark_blue blue3 blue1 dark_green deep_sky_blue4 dodger_blue3 dodger_blue2 green4 spring_green4
  turquoise4 deep_sky_blue3 dodger_blue1 green3 spring_green3 dark_cyan light_sea_green
  deep_sky_blue2 deep_sky_blue1 spring_green2 cyan3 dark_turquoise turquoise2 green1
  spring_green1 medium_spring_green cyan2 cyan1 dark_red deep_pink4 purple4 purple3 blue_violet
  orange4 grey37 gray37 medium_purple4 slate_blue3 royal_blue1 chartreuse4 dark_sea_green4
  pale_turquoise4 steel_blue steel_blue3 cornflower_blue chartreuse3 cadet_blue sky_blue3
  steel_blue1 pale_green3 sea_green3 aquamarine3 medium_turquoise chartreuse2 sea_green2
  sea_green1 aquamarine1 dark_slate_gray2 dark_magenta dark_violet purple light_pink4 plum4
  medium_purple3 slate_blue1 yellow4 wheat4 grey53 gray53 light_slate_grey light_slate_gray
  medium_purple light_slate_blue dark_olive_green3 dark_sea_green light_sky_blue3 sky_blue2
  dark_sea_green3 dark_slate_gray3 sky_blue1 chartreuse1 light_green pale_green1 dark_slate_gray1
  red3 medium_violet_red magenta3 dark_orange3 indian_red hot_pink3 medium_orchid3 medium_orchid
  medium_purple2 dark_goldenrod light_salmon3 rosy_brown grey63 gray63 medium_purple1 gold3
  dark_khaki navajo_white3 grey69 gray69 light_steel_blue3 light_steel_blue yellow3
  dark_sea_green2 light_cyan3 light_sky_blue1 green_yellow dark_olive_green2 dark_sea_green1
  pale_turquoise1 deep_pink3 magenta2 hot_pink2 orchid medium_orchid1 orange3 light_pink3 pink3
  plum3 violet light_goldenrod3 tan misty_rose3 thistle3 plum2 khaki3 light_goldenrod2
  light_yellow3 grey84 gray84 light_steel_blue1 yellow2 dark_olive_green1 honeydew2 light_cyan1
  red1 deep_pink2 deep_pink1 magenta1 orange_red1 indian_red1 hot_pink dark_orange salmon1
  light_coral pale_violet_red1 orchid2 orchid1 orange1 sandy_brown light_salmon1 light_pink1
  pink1 plum1 gold1 navajo_white1 misty_rose1 thistle1 yellow1 light_goldenrod1 khaki1 wheat1
  cornsilk1 grey100 gray100 grey3 gray3 grey7 gray7 grey11 gray11 grey15 gray15 grey19 gray19
  grey23 gray23 grey27 gray27 grey30 gray30 grey35 gray35 grey39 gray39 grey42 gray42 grey46
  gray46 grey50 gray50 grey54 gray54 grey58 gray58 grey62 gray62 grey66 gray66 grey70 gray70
  grey74 gray74 grey78 gray78 grey82 gray82 grey85 gray85 grey89 gray89 grey93 gray93
"

/-- What a word says about a colour: it is one, it is none, or it has a faulty number. -/
inductive ColourWord where
  | colour (name : List Char)
  | none
  | faulty (fault : Fault)

/-- Whether a character is a small hexadecimal digit. -/
def isHexDigit (c : Char) : Bool := ('0' ≤ c && c ≤ '9') || ('a' ≤ c && c ≤ 'f')

/-- What stands between brackets after a stem, if a text has that form. -/
def argument? (stem : String) (text : List Char) : Option (List Char) :=
  let opening := stem.toList ++ ['(']
  if opening.isPrefixOf text && text.getLast? == some ')' then
    some ((text.drop opening.length).dropLast)
  else none

/-- The parts of a text between commas. -/
def commaParts : List Char → List (List Char)
  | [] => [[]]
  | c :: rest =>
    match commaParts rest with
    | [] => [[c]]
    | part :: parts => if c = ',' then [] :: part :: parts else (c :: part) :: parts

/-- The three parts of a colour, each at most 255. -/
def readParts (name : List Char) (parts : List (List Char)) : ColourWord :=
  if parts.length ≠ 3 then .none
  else
    match parts.mapM fun part => readCount (.text (String.ofList part)) with
    | .error fault => .faulty fault
    | .ok values => if values.all (· ≤ 255) then .colour name else .none

/-- What a word in small letters says about a colour. -/
def readColour (word : List Char) : ColourWord :=
  if (Text.words colourNames.toList).contains word then .colour word
  else
    match word with
    | '#' :: digits =>
      if digits.length = 6 ∧ digits.all isHexDigit then .colour word else .none
    | _ =>
      match argument? "color" word, argument? "rgb" word with
      | some digits, _ =>
        if 1 ≤ digits.length ∧ digits.length ≤ 3 ∧ digits.all Char.isDigit ∧
            digits.foldl (fun n c => 10 * n + (c.toNat - 48)) 0 ≤ 255 then .colour word
        else .none
      | none, some content =>
        if !content.isEmpty && content.all fun c => (Text.digitValue? c).isSome || c == ',' then
          readParts word (commaParts content)
        else .none
      | none, none => .none

/-- Says something about an attribute; what was said before about it no longer counts. -/
def withAttribute (style : Style) (trait : Attribute) (on : Bool) : Style :=
  { style with
    attributes := style.attributes.filter (fun e => decide (e.1 ≠ trait)) ++
      [(trait, on)] }

/-- A colour word as a step of reading a style. -/
def withColour (word : List Char) (set : List Char → Style) : Except Fault (Option Style) :=
  match readColour (Text.lower word) with
  | .colour name => .ok (some (set name))
  | .none => .ok none
  | .faulty fault => .error fault

/-- The style of words, given what was said before them; nothing if they have no meaning.  A
word that needs another one after it takes it whatever it is. -/
def readWords (style : Style) : List (List Char) → Except Fault (Option Style)
  | [] => .ok (some style)
  | [word] => do
    match Attribute.ofWord? (Text.lower word) with
    | some trait => return some (style.withAttribute trait true)
    | none => withColour word fun name => { style with colour := some name }
  | word :: next :: rest => do
    let lowered := String.ofList (Text.lower word)
    if lowered = "on" then
      match ← withColour next fun name => { style with background := some name } with
      | some changed => readWords changed rest
      | none => return none
    else if lowered = "not" then
      match Attribute.ofWord? next with
      | some trait => readWords (style.withAttribute trait false) rest
      | none => return none
    else if lowered = "link" then readWords { style with link := some next } rest
    else
      match Attribute.ofWord? lowered.toList with
      | some trait => readWords (style.withAttribute trait true) (next :: rest)
      | none =>
        match ← withColour word fun name => { style with colour := some name } with
        | some changed => readWords changed (next :: rest)
        | none => return none

/-- The words of a style in the order of normal texts. -/
def normalWords (style : Style) : List String :=
  let attributes := Attribute.all.filterMap fun a =>
    (style.attributes.lookup a).map fun on => if on then a.name else "not " ++ a.name
  attributes ++ (style.colour.map String.ofList).toList ++
    ((style.background.map fun name => ["on", String.ofList name]).getD []) ++
    ((style.link.map fun target => ["link", String.ofList target]).getD [])

/-- The text of a style. -/
def text (style : Style) : String :=
  match style.normalWords with
  | [] => "none"
  | words => joinTexts " " words

/-- The normal text of a description. -/
def normal (description : List Char) : Except Fault String := do
  match ← readWords {} (Text.words description) with
  | some style => return style.text
  | none => return String.ofList (Text.lower (Text.trim description))

/-- Reads a description.  One without meaning is no fault; a faulty number is. -/
def check (description : List Char) : Except Fault Unit :=
  (readWords {} (Text.words description)).map fun _ => ()

end Style

end GraphMapper
