import GraphMapper.Text.CharacterNames.Table
import GraphMapper.Text.Blank
import GraphMapper.Text.Ranges

/-!
# Which names are names of characters

Most characters have a name of their own, which is looked up in the table without regard to letter
case.  Two kinds of names are made by a rule and must be written in capitals: a unified ideograph
is named by the digits of its code point, a Hangul syllable by its letters.
-/

namespace GraphMapper.Text

/-- How much letters count: `a` for nothing, `b` for one, and so on. -/
def letterCount (letters : List Char) : Nat :=
  letters.foldl (fun count c => count + (c.toNat - 'a'.toNat)) 0

/-- The name that an entry of the table means after another name. -/
def nextName (last entry : List Char) : List Char :=
  let letters := entry.takeWhile Char.isLower
  last.take (letterCount letters) ++ entry.drop letters.length

/-- Whether a name is among entries of the table that follow another name. -/
def listsName (name : List Char) : List Char → List (List Char) → Bool
  | _, [] => false
  | last, entry :: entries =>
    let next := nextName last entry
    next == name || listsName name next entries

/-- Whether a name stands in the table, in any letter case. -/
def isListedName (name : List Char) : Bool :=
  !name.contains '_' &&
    listsName (name.map fun c => if c = ' ' then '_' else c.toUpper) []
      (words characterNameTable.toList)

/-- The code points of unified ideographs. -/
def ideographRanges : List (Nat × Nat) :=
  [(0x3400, 0x4DBF), (0x4E00, 0x9FFF), (0x20000, 0x2A6DF), (0x2A700, 0x2B738), (0x2B740, 0x2B81D),
    (0x2B820, 0x2CEA1), (0x2CEB0, 0x2EBE0), (0x30000, 0x3134A)]

/-- Whether a text of digits and capitals is the code point of a unified ideograph. -/
def isIdeographCode (digits : List Char) : Bool :=
  (digits.length == 4 || digits.length == 5) &&
    digits.all (fun c => "0123456789ABCDEF".toList.contains c) &&
    inRanges ideographRanges (digits.foldl
      (fun value c => value * 16 + "0123456789ABCDEF".toList.idxOf c) 0)

/-- What a Hangul syllable can begin with. -/
def syllableOnsets : List String :=
  ["G", "GG", "N", "D", "DD", "R", "M", "B", "BB", "S", "SS", "", "J", "JJ", "C", "K", "T", "P",
    "H"]

/-- The vowels of Hangul syllables. -/
def syllableVowels : List String :=
  ["A", "AE", "YA", "YAE", "EO", "E", "YEO", "YE", "O", "WA", "WAE", "OE", "YO", "U", "WEO", "WE",
    "WI", "YU", "EU", "YI", "I"]

/-- What a Hangul syllable can end with. -/
def syllableCodas : List String :=
  ["", "G", "GG", "GS", "N", "NJ", "NH", "D", "L", "LG", "LM", "LB", "LS", "LT", "LP", "LH", "M",
    "B", "BS", "S", "SS", "NG", "J", "C", "K", "T", "P", "H"]

/-- Whether letters are those of a Hangul syllable. -/
def isSyllable (letters : List Char) : Bool :=
  syllableOnsets.any fun onset => syllableVowels.any fun vowel => syllableCodas.any fun coda =>
    (onset ++ vowel ++ coda).toList == letters

/-- Whether a text is the name of a character. -/
def isCharacterName (name : List Char) : Bool :=
  let syllable := "HANGUL SYLLABLE ".toList
  let ideograph := "CJK UNIFIED IDEOGRAPH-".toList
  if syllable.isPrefixOf name then isSyllable (name.drop syllable.length)
  else if ideograph.isPrefixOf name then isIdeographCode (name.drop ideograph.length)
  else isListedName name

end GraphMapper.Text
