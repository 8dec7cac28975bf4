import LintRelay.Entries
import LintRelay.LetterCase
import LintRelay.Numeral
import LintRelay.Separated

/-!
# Style names

The name of a style lists attributes, colours and a link in words. One style has many names; its
normal name has the attributes spelled out and in a fixed order, then the colour, the background and
the link. What names no style is only trimmed and written in lower case. A colour whose components
are three of which one is left out has no name at all.
-/
namespace LintRelay.StyleName

def attributes : List String :=
  ["bold", "dim", "italic", "underline", "blink", "blink2", "reverse", "conceal", "strike",
   "underline2", "frame", "encircle", "overline"]

def shortAttributes : Entries String :=
  [("d", "dim"), ("b", "bold"), ("i", "italic"), ("u", "underline"), ("r", "reverse"),
   ("c", "conceal"), ("s", "strike"), ("uu", "underline2"), ("o", "overline")]

def attribute? (word : String) : Option String :=
  if word ∈ attributes then some word else Entries.get? word shortAttributes

def greyShades : List Nat :=
  [0, 3, 7, 11, 15, 19, 23, 27, 30, 35, 37, 39, 42, 46, 50, 53, 54, 58, 62, 63, 66, 69, 70, 74, 78,
   82, 84, 85, 89, 93, 100]

def namedColours : List String :=
  ["black", "red", "green", "yellow", "blue", "magenta", "cyan", "white", "bright_black",
   "bright_red", "bright_green", "bright_yellow", "bright_blue", "bright_magenta", "bright_cyan",
   "bright_white", "navy_blue", "dark_blue", "blue3", "blue1", "dark_green", "deep_sky_blue4",
   "dodger_blue3", "dodger_blue2", "green4", "spring_green4", "turquoise4", "deep_sky_blue3",
   "dodger_blue1", "green3", "spring_green3", "dark_cyan", "light_sea_green", "deep_sky_blue2",
   "deep_sky_blue1", "spring_green2", "cyan3", "dark_turquoise", "turquoise2", "green1",
   "spring_green1", "medium_spring_green", "cyan2", "cyan1", "dark_red", "deep_pink4", "purple4",
   "purple3", "blue_violet", "orange4", "medium_purple4", "slate_blue3", "royal_blue1",
   "chartreuse4", "dark_sea_green4", "pale_turquoise4", "steel_blue", "steel_blue3",
   "cornflower_blue", "chartreuse3", "cadet_blue", "sky_blue3", "steel_blue1", "pale_green3",
   "sea_green3", "aquamarine3", "medium_turquoise", "chartreuse2", "sea_green2", "sea_green1",
   "aquamarine1", "dark_slate_gray2", "dark_magenta", "dark_violet", "purple", "light_pink4",
   "plum4", "medium_purple3", "slate_blue1", "yellow4", "wheat4", "light_slate_grey",
   "light_slate_gray", "medium_purple", "light_slate_blue", "dark_olive_green3", "dark_sea_green",
   "light_sky_blue3", "sky_blue2", "dark_sea_green3", "dark_slate_gray3", "sky_blue1",
   "chartreuse1", "light_green", "pale_green1", "dark_slate_gray1", "red3", "medium_violet_red",
   "magenta3", "dark_orange3", "indian_red", "hot_pink3", "medium_orchid3", "medium_orchid",
   "medium_purple2", "dark_goldenrod", "light_salmon3", "rosy_brown", "medium_purple1", "gold3",
   "dark_khaki", "navajo_white3", "light_steel_blue3", "light_steel_blue", "yellow3",
   "dark_sea_green2", "light_cyan3", "light_sky_blue1", "green_yellow", "dark_olive_green2",
   "dark_sea_green1", "pale_turquoise1", "deep_pink3", "magenta2", "hot_pink2", "orchid",
   "medium_orchid1", "orange3", "light_pink3", "pink3", "plum3", "violet", "light_goldenrod3",
   "tan", "misty_rose3", "thistle3", "plum2", "khaki3", "light_goldenrod2", "light_yellow3",
   "light_steel_blue1", "yellow2", "dark_olive_green1", "honeydew2", "light_cyan1", "red1",
   "deep_pink2", "deep_pink1", "magenta1", "orange_red1", "indian_red1", "hot_pink", "dark_orange",
   "salmon1", "light_coral", "pale_violet_red1", "orchid2", "orchid1", "orange1", "sandy_brown",
   "light_salmon1", "light_pink1", "pink1", "plum1", "gold1", "navajo_white1", "misty_rose1",
   "thistle1", "yellow1", "light_goldenrod1", "khaki1", "wheat1", "cornsilk1"]

def isHexDigit (c : Char) : Bool := c.isDigit || ('a' ≤ c && c ≤ 'f')

/-- What stands between an opening text and a closing bracket at the end. -/
def between? (opening : String) (cs : List Char) : Option (List Char) :=
  if opening.toList.isPrefixOf cs ∧ cs.getLast? = some ')' then
    some (cs.drop opening.length).dropLast
  else none

def isByte (n : Int) : Bool := n ≤ 255

/-- A number of a colour has up to three plain digits. -/
def isColourNumber (cs : List Char) : Bool :=
  cs.length ≤ 3 && cs.all Char.isDigit && (Numeral.ofChars? cs).any isByte

def isComponentChar (c : Char) : Bool := c = ',' || (CharacterTables.digitValue? c).isSome

/-- Whether some text gives the three components of a colour, in digits of any script. -/
def areComponents (cs : List Char) : Except Fault Bool :=
  let components := piecesAt (· = ',') cs
  if cs.all isComponentChar ∧ components.length = 3 then
    (components.mapM fun c => Numeral.ofText (String.ofList c)).map (·.all isByte)
  else .ok false

/-- Whether a word in lower case is a colour: by name, by number, or by its components. -/
def isColour (word : String) : Except Fault Bool :=
  let cs := word.toList
  match between? "rgb(" cs with
  | some components => areComponents components
  | none =>
    .ok (word = "default" || word ∈ namedColours ||
      greyShades.any (fun n => word = s!"grey{n}" || word = s!"gray{n}") ||
      (cs.length = 7 && cs.head? = some '#' && cs.tail.all isHexDigit) ||
      (between? "color(" cs).any isColourNumber)

structure Style where
  attributes : Entries Bool
  colour : Option String
  background : Option String
  link : Option String

namespace Style

def empty : Style := ⟨[], none, none, none⟩

def words (s : Style) : List String :=
  (StyleName.attributes.flatMap fun name =>
    match Entries.get? name s.attributes with
    | some true => [name]
    | some false => ["not", name]
    | none => []) ++
  s.colour.toList ++ (s.background.toList.flatMap fun c => ["on", c]) ++
    (s.link.toList.flatMap fun l => ["link", l])

end Style

def read : List String → Style → Except Fault (Option Style)
  | [], s => .ok (some s)
  | word :: rest, s =>
    let plain := LetterCase.lower word
    if plain = "on" then
      match rest with
      | c :: rest => do
        let colour := LetterCase.lower c
        if ← isColour colour then read rest { s with background := some colour } else .ok none
      | [] => .ok none
    else if plain = "not" then
      match rest with
      | a :: rest =>
        match attribute? a with
        | some a => read rest { s with attributes := Entries.put a false s.attributes }
        | none => .ok none
      | [] => .ok none
    else if plain = "link" then
      match rest with
      | l :: rest => read rest { s with link := some l }
      | [] => .ok none
    else
      match attribute? plain with
      | some a => read rest { s with attributes := Entries.put a true s.attributes }
      | none => do
        if ← isColour plain then read rest { s with colour := some plain } else .ok none

def split (cs : List Char) : List String :=
  ((piecesAt CharacterTables.isBlank cs).filter (!·.isEmpty)).map String.ofList

def joined : List String → String
  | [] => "none"
  | [word] => word
  | word :: rest => word ++ " " ++ joined rest

/-- The name under which a style is known, however it was written. -/
def normal (name : List Char) : Except Fault String :=
  let trimmed := String.ofList (CharacterTables.trim name)
  if trimmed = "none" then .ok trimmed
  else
    (read (split name) Style.empty).map fun
      | some s => joined s.words
      | none => LetterCase.lower trimmed

end LintRelay.StyleName
