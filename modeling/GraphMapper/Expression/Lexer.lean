import GraphMapper.Expression.Number
import GraphMapper.Text.Names

/-!
# Cutting an expression into tokens

Line ends count outside of brackets only; there, the margin of a line counts too.  A comment goes
from `#` to the end of the line, and a backslash joins two lines.  A text stands between single
quotation marks and ends on its line, or between triple ones; letters before it say how it is to
be read.

The first flaw ends the tokens.  It is not always what is wrong with the expression: the grammar
may have given up before.
-/

namespace GraphMapper.Expression

/-- What is left of a text, the line on which it begins, the open brackets with their lines, the
innermost first, the margins of the enclosing lines, each measured in two ways, and whether the
end of the text was looked at behind the token before. -/
structure Scanner where
  rest : List Char
  line : Nat
  brackets : List (Char × Nat)
  margins : List (Nat × Nat)
  noticed : Bool

/-- The most brackets that may be open. -/
def mostBrackets : Nat := 200

/-- The most margins that lines may have inside each other. -/
def mostMargins : Nat := 100

/-- The end of the tokens at a flaw. -/
def Scanner.stop (scanner : Scanner) (flaw : Flaw) (decisive : Bool) : List Token × Option Stop :=
  ([], some ⟨flaw, decisive, scanner.brackets.head?, scanner.noticed⟩)

/-- A token before other tokens. -/
def Scanner.emit (scanner : Scanner) (kind : Kind) (after : List Token × Option Stop) :
    List Token × Option Stop :=
  (⟨kind, scanner.line, scanner.brackets.length⟩ :: after.1, after.2)

/-- The line ends in a text. -/
def lineEnds (s : List Char) : Nat := s.count '\n'

/-- The number of characters up to the end of a text that is closed by a number of quotation
marks, given how many of them stand right before, or how many there are without finding its
end. -/
def textLength (quote : Char) (size : Nat) (read ends : Nat) : List Char → Except Nat Nat
  | [] => if ends = size then .ok read else .error read
  | [c] =>
    if ends = size then .ok read
    else if size = 1 ∧ c = '\n' then .error read
    else if c = quote ∧ ends + 1 = size then .ok (read + 1)
    else .error (read + 1)
  | c :: d :: rest =>
    if ends = size then .ok read
    else if size = 1 ∧ c = '\n' then .error read
    else if c = quote then textLength quote size (read + 1) (ends + 1) (d :: rest)
    else if c = '\\' then textLength quote size (read + 2) 0 rest
    else textLength quote size (read + 1) 0 (d :: rest)

/-- Whether letters may stand before a text. -/
def announcesText (letters : List Char) : Bool :=
  ["", "b", "u", "r", "f", "br", "rb", "fr", "rf"].contains
    (String.ofList (letters.map Char.toLower))

/-- The number of letters before a text, if one begins here. -/
def lettersBeforeText? (s : List Char) : Option Nat :=
  let letters := (s.takeWhile Char.isAlpha).take 3
  if announcesText letters &&
      ((s.drop letters.length).head?.any fun c => c == '\'' || c == '"') then
    some letters.length
  else none

/-- The text of a name, or its first character that cannot stand there. -/
def checkName : List Char → Except Char Unit
  | [] => .ok ()
  | c :: rest =>
    if !Text.beginsName c then .error c
    else match rest.find? (!Text.continuesName ·) with
      | some c => .error c
      | none => .ok ()

/-- The flaw of a character that has no meaning. -/
def strangeCharacter (c : Char) : Flaw :=
  if Text.isPrintable c then .badCharacter c else .hiddenCharacter c

/-- The opening bracket that belongs to a closing one. -/
def opening? : Char → Option Char
  | ')' => some '('
  | ']' => some '['
  | '\x7d' => some '\x7b'
  | _ => none

/-- The margin of a line and what follows it: its columns with tab stops at every eighth one, its
characters, and those up to the first backslash that joins it to the next line. -/
structure Margin where
  columns : Nat
  characters : Nat
  joined : Nat
  rest : List Char
  line : Nat

/-- The margin that begins a text, after a part of it; nothing if a backslash joins no line. -/
def marginFrom (margin : Margin) : List Char → Except Flaw Margin
  | ' ' :: rest =>
    marginFrom { margin with columns := margin.columns + 1, characters := margin.characters + 1 }
      rest
  | '\t' :: rest =>
    marginFrom
      { margin with columns := (margin.columns / 8 + 1) * 8, characters := margin.characters + 1 }
      rest
  | '\x0c' :: rest => marginFrom { margin with columns := 0, characters := 0 } rest
  | '\\' :: '\n' :: rest =>
    let joined := if margin.joined = 0 then margin.columns else margin.joined
    if rest.isEmpty then .error .cutShort
    else marginFrom { margin with joined := joined, line := margin.line + 1 } rest
  | '\\' :: _ => .error .strayBackslash
  | rest => .ok { margin with rest := rest }

/-- The margins left after the deeper ones. -/
def closeMargins (columns : Nat) : List (Nat × Nat) → List (Nat × Nat)
  | [] => []
  | margin :: rest => if columns < margin.1 then closeMargins columns rest else margin :: rest

/-- The tokens of a text, at most `fuel` steps; `fresh` tells whether it begins a line, and
`blank` whether the line has nothing but a comment. -/
def scan : Nat → Bool → Bool → Scanner → List Token × Option Stop
  | 0, _, _, scanner => scanner.stop .malformed false
  | fuel + 1, true, _, scanner =>
    match marginFrom ⟨0, 0, 0, [], scanner.line⟩ scanner.rest with
    | .error flaw => scanner.stop flaw false
    | .ok margin =>
      let here : Scanner := { scanner with rest := margin.rest, line := margin.line }
      let blank := margin.rest.head? = some '#' || margin.rest.head? = some '\n'
      let columns := if margin.joined = 0 then margin.columns else margin.joined
      let characters := if margin.joined = 0 then margin.characters else margin.joined
      let current := scanner.margins.headD (0, 0)
      if blank || !scanner.brackets.isEmpty then scan fuel false blank here
      else if columns = current.1 then
        if characters = current.2 then scan fuel false false here else here.stop .mixedMargins false
      else if current.1 < columns then
        if mostMargins ≤ scanner.margins.length + 1 then here.stop .tooManyMargins false
        else if characters ≤ current.2 then here.stop .mixedMargins false
        else
          here.emit .indent
            (scan fuel false false { here with margins := (columns, characters) :: here.margins })
      else
        let left := closeMargins columns scanner.margins
        let outer := left.headD (0, 0)
        if columns ≠ outer.1 then here.stop .unknownMargin false
        else if characters ≠ outer.2 then here.stop .mixedMargins false
        else
          (List.range (scanner.margins.length - left.length)).foldl
            (fun after _ => here.emit .dedent after)
            (scan fuel false false { here with margins := left })
  | fuel + 1, false, blank, scanner =>
    match scanner.rest with
    | [] =>
      match scanner.brackets with
      | [] => scanner.emit .ending ([], none)
      | (bracket, _) :: _ => scanner.stop (.unclosed bracket) false
    | c :: rest =>
      let next (left : List Char) : Scanner := { scanner with rest := left, noticed := false }
      let look (left : List Char) : Scanner :=
        { scanner with rest := left, noticed := left.isEmpty }
      if c = ' ' ∨ c = '\t' ∨ c = '\x0c' then scan fuel false blank (next rest)
      else if c = '#' then scan fuel false blank (next (rest.dropWhile (· ≠ '\n')))
      else if c = '\n' then
        let after := { next rest with line := scanner.line + 1 }
        if blank || !scanner.brackets.isEmpty then scan fuel true false after
        else scanner.emit .newline (scan fuel true false after)
      else if c = '\\' then
        match rest with
        | '\n' :: left =>
          if left.isEmpty then
            scanner.stop ((scanner.brackets.head?.map fun b => .unclosed b.1).getD .cutShort) false
          else scan fuel false blank { next left with line := scanner.line + 1 }
        | _ => scanner.stop .strayBackslash false
      else
        match lettersBeforeText? scanner.rest with
        | some letters =>
          match scanner.rest.drop letters with
          | [] => scanner.stop .malformed false
          | quote :: body =>
            let size := if body.take 2 = [quote, quote] then 3 else 1
            let start := if size = 3 then 2 else 0
            match textLength quote size 0 0 (body.drop start) with
            | .ok length =>
              let taken := letters + 1 + start + length
              let written := scanner.rest.take taken
              let left := scanner.rest.drop taken
              let after := if size = 1 ∧ length = 1 then look left else next left
              scanner.emit (.text written)
                (scan fuel false blank { after with line := scanner.line + lineEnds written })
            | .error length =>
              let read := (body.drop start).take length
              let ended := body.length ≤ start + length
              let line := scanner.line + lineEnds (if ended then read.dropLast else read)
              scanner.stop (if size = 3 then .endlessBlock line else .endlessText line) true
        | none =>
          if c.isDigit ∨ (c = '.' ∧ (rest.head?.any Char.isDigit) = true) then
            match if c = '.' then afterPoint rest else afterNumber scanner.rest with
            | .error flaw => scanner.stop flaw true
            | .ok left =>
              let written := scanner.rest.take (scanner.rest.length - left.length)
              scanner.emit (.number (readNumber written)) (scan fuel false blank (look left))
          else if mayContinueName c then
            let name := c :: rest.takeWhile mayContinueName
            match if name.all (·.toNat < 128) then .ok () else checkName name with
            | .error strange => scanner.stop (strangeCharacter strange) true
            | .ok () =>
              let text := String.ofList name
              let kind := if keywords.contains text then Kind.word text else .name text
              scanner.emit kind (scan fuel false blank (look (rest.drop (name.length - 1))))
          else
            match longMarks.find? fun mark => mark.toList.isPrefixOf scanner.rest with
            | some mark =>
              let left := scanner.rest.drop mark.length
              scanner.emit (.word mark)
                (scan fuel false blank (if mark.length = 2 then look left else next left))
            | none =>
              if c = '(' ∨ c = '[' ∨ c = '\x7b' then
                if mostBrackets ≤ scanner.brackets.length then scanner.stop .tooManyBrackets true
                else
                  let inside := { look rest with brackets := (c, scanner.line) :: scanner.brackets }
                  inside.emit (.word c.toString) (scan fuel false blank inside)
              else
                match opening? c, scanner.brackets with
                | some _, [] => scanner.stop (.unopened c) true
                | some wanted, (bracket, line) :: others =>
                  if bracket = wanted then
                    let outside := { look rest with brackets := others }
                    outside.emit (.word c.toString) (scan fuel false blank outside)
                  else
                    { scanner with brackets := others }.stop
                      (.mismatched c bracket (if line = scanner.line then none else some line)) true
                | none, _ =>
                  if Text.isPrintable c then
                    scanner.emit (.word c.toString) (scan fuel false blank (look rest))
                  else scanner.stop (.hiddenCharacter c) true

/-- A text whose lines end in line feeds. -/
def withLineFeeds : List Char → List Char
  | '\r' :: '\n' :: rest => '\n' :: withLineFeeds rest
  | c :: rest => (if c = '\r' then '\n' else c) :: withLineFeeds rest
  | [] => []

/-- The tokens of a text. -/
def tokensOf (text : List Char) : Tokens :=
  let s := withLineFeeds text
  let (list, stop) := scan (2 * s.length + 3) true false ⟨s, 1, [], [], false⟩
  ⟨list.toArray, stop⟩

end GraphMapper.Expression
