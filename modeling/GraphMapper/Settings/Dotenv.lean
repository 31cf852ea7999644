import GraphMapper.Text.Blank
import GraphMapper.Value.Entries

/-!
# Files of variables

Settings may be kept in a file of lines `NAME=value`.  The format is the usual loose one: a
line may begin with `export`, there may be blanks around the equals sign, a name may stand in
single quotes, a value in single or double ones, and comments begin with `#`.

* A value without quotes ends at the end of its line, or before blanks that are followed by
  `#`; the blanks after the equals sign count among them.
* A value in quotes may run over several lines.  A backslash takes the character after it out of
  its role, so a quote inside the value is written with a backslash before it.
* A name without an equals sign is mentioned but has no value.
* What is left of a line that does not fit the format is skipped.

A byte order mark at the very beginning belongs to the file and not to its text.

## References

A value may refer to other variables, as `${NAME}` or with a default as `${NAME:-default}`.
A reference is looked up among the variables that stand earlier in the file and then in the
environment, and what is not found is empty unless there is a default.
-/

namespace GraphMapper.Dotenv

open Text (isBlank)

/-- A blank that does not end a line. -/
def isLineBlank (c : Char) : Bool := isBlank c && c != '\n' && c != '\r'

/-- A character that ends a line. -/
def isLineEnd (c : Char) : Bool := c == '\n' || c == '\r'

/-- A text with every end of line written as one line feed. -/
def normalLines : List Char → List Char
  | [] => []
  | '\r' :: '\n' :: rest => '\n' :: normalLines rest
  | '\r' :: rest => '\n' :: normalLines rest
  | c :: rest => c :: normalLines rest

/-! ## Pieces of a line -/

/-- The text after a word and at least one blank, or the whole text. -/
def skipExport (s : List Char) : List Char :=
  let word := "export".toList
  match word.isPrefixOf s, s.drop word.length with
  | true, c :: rest => if isLineBlank c then rest.dropWhile isLineBlank else s
  | _, _ => s

/-- The text up to an unescaped quote, and the text after that quote. -/
def quotedBody (quote : Char) : List Char → Option (List Char × List Char)
  | [] => none
  | ['\\'] => none
  | '\\' :: c :: rest =>
    (quotedBody quote rest).map fun (body, after) => ('\\' :: c :: body, after)
  | c :: rest =>
    if c = quote then some ([], rest)
    else (quotedBody quote rest).map fun (body, after) => (c :: body, after)

/-- The characters that a backslash can stand before in single quotes, and what they mean. -/
def singleEscape? : Char → Option Char
  | '\\' => some '\\'
  | '\'' => some '\''
  | _ => none

/-- The characters that a backslash can stand before in double quotes, and what they mean. -/
def doubleEscape? : Char → Option Char
  | '\\' => some '\\'
  | '\'' => some '\''
  | '"' => some '"'
  | 'a' => some '\x07'
  | 'b' => some '\x08'
  | 'f' => some '\x0c'
  | 'n' => some '\n'
  | 'r' => some '\r'
  | 't' => some '\t'
  | 'v' => some '\x0b'
  | _ => none

/-- A text with its escapes replaced by what they mean. -/
def unescape (escape? : Char → Option Char) : List Char → List Char
  | '\\' :: c :: rest =>
    match escape? c with
    | some meant => meant :: unescape escape? rest
    | none => '\\' :: unescape escape? (c :: rest)
  | c :: rest => c :: unescape escape? rest
  | [] => []

/-- Whether a text is blanks, at least one, and then a comment. -/
def beginsComment : List Char → Bool
  | c :: rest => isBlank c && (rest.dropWhile isBlank).head? == some '#'
  | [] => false

/-- A text up to its comment. -/
def beforeComment : List Char → List Char
  | [] => []
  | c :: rest => if beginsComment (c :: rest) then [] else c :: beforeComment rest

/-- The text after a comment, if one begins here. -/
def skipComment (s : List Char) : List Char :=
  match s.dropWhile isLineBlank with
  | '#' :: rest => rest.dropWhile (!isLineEnd ·)
  | _ => s

/-- The text after an end of line, if one is here. -/
def endOfLine? (s : List Char) : Option (List Char) :=
  match s.dropWhile isLineBlank with
  | [] => some []
  | c :: rest => if isLineEnd c then some rest else none

/-- The text after the line that one is in. -/
def skipLine (s : List Char) : List Char := (s.dropWhile (!isLineEnd ·)).drop 1

/-! ## Bindings -/

/-- A reader: what it read, and either way what is left. -/
abbrev Reading (α : Type) : Type := Option α × List Char

/-- The name at the start of a text; none is read where a comment begins. -/
def readName (s : List Char) : Reading (Option (List Char)) :=
  match s with
  | '#' :: _ => (some none, s)
  | '\'' :: rest =>
    let name := rest.takeWhile (· != '\'')
    match name, rest.drop name.length with
    | _ :: _, _ :: after => (some (some name), after)
    | _, _ => (none, s)
  | _ =>
    let name := s.takeWhile fun c => c != '=' && c != '#' && !isBlank c
    if name.isEmpty then (none, s) else (some (some name), s.drop name.length)

/-- The value at the start of a text; `apart` tells whether there are blanks before it. -/
def readValue (apart : Bool) (s : List Char) : Reading (List Char) :=
  let quoted (quote : Char) (escape? : Char → Option Char) (rest : List Char) :
      Reading (List Char) :=
    match quotedBody quote rest with
    | some (body, after) => (some (unescape escape? body), after)
    | none => (none, s)
  match s with
  | '\'' :: rest => quoted '\'' singleEscape? rest
  | '"' :: rest => quoted '"' doubleEscape? rest
  | _ =>
    let line := s.takeWhile (!isLineEnd ·)
    let value := if apart && line.head? == some '#' then [] else beforeComment line
    (some (Text.trimRight value), s.drop line.length)

/-- A name and its value, if it has one. -/
structure Mention where
  name : List Char
  value : Option (List Char)

/-- What follows a name: its value, then nothing but a comment up to the end of the line. -/
def readRest (name : Option (List Char)) (s : List Char) : Reading (Option Mention) :=
  let (value, rest) : Reading (Option (List Char)) :=
    match s.dropWhile isLineBlank with
    | '=' :: after =>
      let apart := (after.head?.map isLineBlank).getD false
      let (value, rest) := readValue apart (after.dropWhile isLineBlank)
      (value.map some, rest)
    | other => (some none, other)
  match value, endOfLine? (skipComment rest) with
  | some value, some after => (some (name.map fun name => ⟨name, value⟩), after)
  | some _, none => (none, skipComment rest)
  | none, _ => (none, rest)

/-- One line, or several if a quoted value runs over them.  A line that does not fit counts
as empty. -/
def readLine (s : List Char) : Option Mention × List Char :=
  let begun := skipExport (s.dropWhile isBlank)
  match readName begun with
  | (none, rest) => (none, skipLine rest)
  | (some name, rest) =>
    match readRest name rest with
    | (some mention, after) => (mention, after)
    | (none, rest) => (none, skipLine rest)

/-- All mentions of a text, read in at most `fuel` lines. -/
def mentionsWithin : Nat → List Char → List Mention
  | 0, _ => []
  | _, [] => []
  | fuel + 1, c :: rest =>
    let (mention, after) := readLine (c :: rest)
    mention.toList ++ mentionsWithin fuel after

/-- A text without the byte order mark at its beginning. -/
def withoutMark : List Char → List Char
  | '\uFEFF' :: rest => rest
  | s => s

/-- All mentions of a text.  There are at most as many as it has characters. -/
def mentions (text : String) : List Mention :=
  let lines := normalLines (withoutMark text.toList)
  mentionsWithin lines.length lines

/-! ## References -/

/-- The reference at the start of a text, after its opening brace: the name, the default, and
what is left. -/
def readReference (s : List Char) : Option (List Char × Option (List Char) × List Char) :=
  let name := s.takeWhile fun c => c != '\x7d' && c != ':'
  match s.drop name.length with
  | '\x7d' :: rest => some (name, none, rest)
  | ':' :: '-' :: rest =>
    let default := rest.takeWhile (· != '\x7d')
    match rest.drop default.length with
    | _ :: after => some (name, some default, after)
    | [] => none
  | _ => none

/-- The text that a variable stands for. -/
def resolve (known : Entries) (name : List Char) (default : Option (List Char)) : List Char :=
  match Entries.get? known (.text (String.ofList name)) with
  | some (.text s) => s.toList
  | some _ => []
  | none => default.getD []

/-- A text with its references replaced, in at most `fuel` pieces. -/
def expandWithin (known : Entries) : Nat → List Char → List Char
  | 0, s => s
  | _, [] => []
  | fuel + 1, c :: rest =>
    match c, rest with
    | '$', '\x7b' :: inner =>
      match readReference inner with
      | some (name, default, after) =>
        resolve known name default ++ expandWithin known fuel after
      | none => c :: expandWithin known fuel rest
    | _, _ => c :: expandWithin known fuel rest

/-- A text with its references replaced. -/
def expand (known : Entries) (s : List Char) : List Char := expandWithin known s.length s

/-- The variables after one more mention; null stands for a name without a value. -/
def define (environment : Entries) (defined : Entries) (mention : Mention) : Entries :=
  defined.put (.text (String.ofList mention.name))
    (match mention.value with
    | none => .null
    | some value =>
      .text (String.ofList (expand (Entries.merge environment defined) value)))

/-- The variables of a file.  Of a name that is mentioned twice the last value counts, at the
place of the first. -/
def read (environment : Entries) (text : String) : Entries :=
  (mentions text).foldl (define environment) []

end GraphMapper.Dotenv
