import GraphMapper.Expression.Escapes

/-!
# Texts with expressions

A text announced by the letter `f` may have expressions in braces, each with a conversion after an
exclamation mark and a form after a colon; the form may have expressions of its own.  A brace that
is written twice stands for itself.

An expression is found by its brackets and quotation marks alone, and then read by a reader that
is given.  `checkTemplate` reports the first flaw.
-/

namespace GraphMapper.Expression

/-- The text up to the next expression, last character first, whether it ends with a brace that is
written twice, and what is left.  Outside of forms, a closing brace alone is a flaw. -/
def plainPart (raw top : Bool) :
    Nat → List Char → List Char → Except TemplateFlaw (List Char × Bool × List Char)
  | 0, before, s => .ok (before, false, s)
  | _, before, [] => .ok (before, false, [])
  | fuel + 1, before, c :: rest =>
    let brace (c : Char) (before rest : List Char) :
        Except TemplateFlaw (List Char × Bool × List Char) :=
      if c = '\x7b' ∨ c = '\x7d' then
        if top then
          if rest.head? = some c then .ok (c :: before, true, rest.drop 1)
          else if c = '\x7d' then .error .closingBrace
          else .ok (before, false, c :: rest)
        else .ok (before, false, c :: rest)
      else plainPart raw top fuel (c :: before) rest
    if raw || c != '\\' then brace c before rest
    else
      match rest with
      | 'N' :: '\x7b' :: inner =>
        let name := inner.takeWhile (· ≠ '\x7d')
        let left := inner.drop name.length
        plainPart raw top fuel (left.take 1 ++ name.reverse ++ '\x7b' :: 'N' :: '\\' :: before)
          (left.drop 1)
      | 'N' :: d :: left => plainPart raw top fuel (d :: 'N' :: '\\' :: before) left
      | ['N'] => .ok ('N' :: '\\' :: before, false, [])
      | d :: left => brace d ('\\' :: before) left
      | [] => brace c before []

/-- The place inside an expression: the quotation mark of the text that is open and whether it is
a triple one, and the open brackets. -/
structure Inside where
  quote : Option (Char × Bool)
  brackets : List Char

/-- An expression, last character first, and what is left after it. -/
def expressionPart : Nat → Inside → List Char → List Char →
    Except TemplateFlaw (List Char × Inside × List Char)
  | 0, inside, before, s => .ok (before, inside, s)
  | _, inside, before, [] => .ok (before, inside, [])
  | fuel + 1, inside, before, c :: rest =>
    let next (inside : Inside) := expressionPart fuel inside (c :: before) rest
    let triple := rest.take 2 = [c, c]
    if c = '\\' then .error .backslash
    else
      match inside.quote with
      | some (quote, isTriple) =>
        if c = quote ∧ !isTriple then next { inside with quote := none }
        else if c = quote ∧ triple then
          expressionPart fuel { inside with quote := none } (c :: c :: c :: before) (rest.drop 2)
        else next inside
      | none =>
        if c = '\'' ∨ c = '"' then
          if triple then
            expressionPart fuel { inside with quote := some (c, true) } (c :: c :: c :: before)
              (rest.drop 2)
          else next { inside with quote := some (c, false) }
        else if c = '[' ∨ c = '\x7b' ∨ c = '(' then
          if 200 ≤ inside.brackets.length then .error .tooManyBrackets
          else next { inside with brackets := c :: inside.brackets }
        else if c = '#' then .error .comment
        else if inside.brackets.isEmpty && "!:\x7d=<>".toList.contains c then
          if "!=<>".toList.contains c && rest.head? == some '=' then
            expressionPart fuel inside ('=' :: c :: before) (rest.drop 1)
          else if c = '<' ∨ c = '>' then next inside
          else .ok (before, inside, c :: rest)
        else if c = ']' ∨ c = '\x7d' ∨ c = ')' then
          match inside.brackets with
          | [] => .error (.unopened c)
          | opening :: others =>
            if (opening == '(' && c == ')') || (opening == '[' && c == ']') ||
                (opening == '\x7b' && c == '\x7d') then
              next { inside with brackets := others }
            else .error (.mismatched c opening)
        else next inside

/-- Whether a character is blank between the tokens of an expression. -/
def isGap (c : Char) : Bool := c == ' ' || c == '\t' || c == '\n' || c == '\x0c'

/-- What is left after the conversion of an expression. -/
def afterConversion (s : List Char) : Except TemplateFlaw (List Char) :=
  match s with
  | ['!'] => .error .missingBrace
  | '!' :: letter :: rest =>
    if letter = 's' ∨ letter = 'r' ∨ letter = 'a' then .ok rest else .error .badConversion
  | _ => .ok s

/-- Checks an expression and what follows it up to the closing brace, given after the opening one.
`form` checks a form and gives what is left. -/
def checkField (reader : List Char → Except Flaw Unit)
    (form : List Char → Except Flaw (List Char)) (s : List Char) : Except Flaw (List Char) := do
  let (backwards, inside, left) ← (expressionPart s.length ⟨none, []⟩ [] s).mapError .template
  if inside.quote.isSome then throw (.template .endlessText)
  if let bracket :: _ := inside.brackets then throw (.template (.unclosed bracket))
  match left with
  | [] => throw (.template .missingBrace)
  | mark :: rest =>
    let expression := backwards.reverse
    if expression.all isGap then
      if mark = '!' ∨ mark = ':' ∨ mark = '=' then throw (.template (.nothingBefore mark))
      else throw (.template .emptyExpression)
    reader ('(' :: expression ++ [')'])
    let afterEquals := if mark = '=' then rest else left
    if afterEquals.isEmpty then throw (.template .missingBrace)
    match ← (afterConversion afterEquals).mapError .template with
    | ':' :: spec =>
      if spec.isEmpty then throw (.template .missingBrace)
      match ← form spec with
      | '\x7d' :: rest => return rest
      | _ => throw (.template .missingBrace)
    | '\x7d' :: rest => return rest
    | _ => throw (.template .missingBrace)

/-- Checks a text with expressions, or a form inside one, and gives what is left; `fuel` bounds
its parts. -/
def checkParts (reader : List Char → Except Flaw Unit) (raw : Bool) :
    Nat → Nat → List Char → Except Flaw (List Char)
  | 0, _, s => .ok s
  | fuel + 1, level, s => do
    let (backwards, doubled, left) ← (plainPart raw (level == 0) s.length [] s).mapError .template
    checkPiece raw backwards.reverse
    if doubled then checkParts reader raw fuel level left
    else
      match left with
      | '\x7b' :: inner =>
        if 2 ≤ level then throw (.template .nestedTooDeep)
        let after ← checkField reader (checkParts reader raw fuel (level + 1)) inner
        checkParts reader raw fuel level after
      | _ => return left

/-- Checks a text with expressions. -/
def checkTemplate (reader : List Char → Except Flaw Unit) (raw : Bool) (body : List Char) :
    Except Flaw Unit := do
  let left ← checkParts reader raw (2 * body.length + 2) 0 body
  if !left.isEmpty then throw (.template .leftover)

end GraphMapper.Expression
