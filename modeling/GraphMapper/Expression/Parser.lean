import GraphMapper.Expression.Grammar
import GraphMapper.Expression.Lexer
import GraphMapper.Expression.Template
import Std.Data.HashMap

/-!
# Reading an expression

`apply` puts tokens together by the rules of the grammar.  It goes down to the items and comes
back with a tree and the place after it, or with nothing; a flaw ends it at once.

1. Tokens are asked for one after another, and the flaw that ended them shows only when the
   missing token is asked for.
2. If an expression does not read, it is read a second time, now with the alternatives that match
   slips.
3. A slip, or the plain statement that an expression is malformed, gives way to a flaw in the
   characters further on, and to a bracket left open on an earlier line.  A slip that is found at
   the very end of the text does not.

Texts with expressions need a reader for these, so reading goes in rounds: `readWithin` bounds how
deep texts stand in texts.
-/

namespace GraphMapper.Expression

/-- What is known while tokens are put together: the results that are kept, how many tokens were
asked for, and whether slips are looked for. -/
structure Reading where
  kept : Std.HashMap (Rule × Nat) (Option (Tree × Nat))
  asked : Nat
  seeking : Bool

/-- A computation on tokens. -/
abbrev Reader := ExceptT Flaw (StateM Reading)

/-- What tokens are put together from, and how texts are read. -/
structure Source where
  tokens : Tokens
  readTexts : List (List Char) → Except Flaw Tree

/-- The token at a place. -/
def Source.token (source : Source) (place : Nat) : Reader Token := do
  modify fun reading => { reading with asked := max reading.asked (place + 1) }
  match source.tokens.list[place]? with
  | some token => return token
  | none => throw ((source.tokens.stop.map Stop.flaw).getD .malformed)

/-- The trees of a group as one tree. -/
def groupTree (trees : List Tree) : Tree :=
  let kept := trees.filter fun tree =>
    match tree with
    | .word _ => false
    | _ => true
  match if kept.isEmpty then trees else kept with
  | [tree] => tree
  | several => .several several

/-- The texts from a place on, at most `fuel`, and the place after them. -/
def textsFrom (source : Source) : Nat → Nat → Reader (List (List Char) × Nat)
  | 0, place => return ([], place)
  | fuel + 1, place => do
    match (← source.token place).kind with
    | .text written =>
      let (rest, after) ← textsFrom source fuel (place + 1)
      return (written :: rest, after)
    | _ => return ([], place)

mutual

/-- Applies a rule at a place, or finds what it made there before. -/
def apply (source : Source) : Nat → Rule → Nat → Reader (Option (Tree × Nat))
  | 0, _, _ => throw .malformed
  | fuel + 1, rule, place => do
    if rule.isKept then
      if let some result := (← get).kept[(rule, place)]? then return result
    let seeking := (← get).seeking
    if rule = .calmExpression then modify fun reading => { reading with seeking := false }
    let result ← if rule = .texts then do
        let (written, after) ← textsFrom source (source.tokens.list.size + 1) place
        if written.isEmpty then pure none
        else pure (some ((← source.readTexts written), after))
      else do
        match ← tryAlternatives source fuel rule.alternatives [] place with
        | some (tree, after) => extend source fuel rule tree after
        | none => pure none
    if rule = .calmExpression then modify fun reading => { reading with seeking := seeking }
    if rule.isKept then
      modify fun reading => { reading with kept := reading.kept.insert (rule, place) result }
    return result

/-- Applies the extensions of a rule to what it made, as often as they fit. -/
def extend (source : Source) : Nat → Rule → Tree → Nat → Reader (Option (Tree × Nat))
  | 0, _, _, _ => throw .malformed
  | fuel + 1, rule, tree, place => do
    match ← tryAlternatives source fuel rule.extensions [tree] place with
    | some (larger, after) => extend source fuel rule larger after
    | none => return some (tree, place)

/-- The first alternative that fits, given the trees before its items. -/
def tryAlternatives (source : Source) :
    Nat → List Alternative → List Tree → Nat → Reader (Option (Tree × Nat))
  | 0, _, _, _ => throw .malformed
  | _, [], _, _ => return none
  | fuel + 1, alternative :: rest, before, place => do
    if alternative.seeksSlip && !(← get).seeking then
      tryAlternatives source fuel rest before place
    else
      let (found, committed) ← matchItems source fuel alternative.items place
      match found with
      | some (trees, after) =>
        let depth := (source.tokens.list[after - 1]?.map Token.depth).getD 0
        match alternative.build (before ++ trees) depth with
        | .tree tree => return some (tree, after)
        | .refused => tryAlternatives source fuel rest before place
        | .slip mistake => throw (.mistake mistake)
      | none =>
        if committed then return none else tryAlternatives source fuel rest before place

/-- The trees of items one after another, and whether the point of no return was passed. -/
def matchItems (source : Source) :
    Nat → List Item → Nat → Reader (Option (List Tree × Nat) × Bool)
  | 0, _, _ => throw .malformed
  | _, [], place => return (some ([], place), false)
  | fuel + 1, .commit :: rest, place => do
    let (found, _) ← matchItems source fuel rest place
    return (found, true)
  | fuel + 1, .ahead items :: rest, place => do
    match (← matchItems source fuel items place).1 with
    | some _ => matchItems source fuel rest place
    | none => return (none, false)
  | fuel + 1, .notAhead items :: rest, place => do
    match (← matchItems source fuel items place).1 with
    | some _ => return (none, false)
    | none => matchItems source fuel rest place
  | fuel + 1, item :: rest, place => do
    match ← matchItem source fuel item place with
    | none => return (none, false)
    | some (tree, after) =>
      let (found, committed) ← matchItems source fuel rest after
      return (found.map fun (trees, last) => (tree :: trees, last), committed)

/-- The tree of an item. -/
def matchItem (source : Source) : Nat → Item → Nat → Reader (Option (Tree × Nat))
  | 0, _, _ => throw .malformed
  | fuel + 1, item, place => do
    match item with
    | .rule rule => apply source fuel rule place
    | .choice options => firstOption source fuel options place
    | .maybe items =>
      match (← matchItems source fuel items place).1 with
      | some (trees, after) => return some (groupTree trees, after)
      | none => return some (.missing, place)
    | .many items =>
      let (trees, after) ← repeated source fuel items items place
      return some (.several trees, after)
    | .some items =>
      let (trees, after) ← repeated source fuel items items place
      return if trees.isEmpty then none else some (.several trees, after)
    | .separated items =>
      let (trees, after) ← repeated source fuel items (.word "," :: items) place
      return if trees.isEmpty then none else some (.several trees, after)
    | item =>
      let token ← source.token place
      return (← accept item token.kind).map fun tree => (tree, place + 1)

/-- The first group that fits. -/
def firstOption (source : Source) :
    Nat → List (List Item) → Nat → Reader (Option (Tree × Nat))
  | 0, _, _ => throw .malformed
  | _, [], _ => return none
  | fuel + 1, items :: rest, place => do
    match (← matchItems source fuel items place).1 with
    | some (trees, after) => return some (groupTree trees, after)
    | none => firstOption source fuel rest place

/-- The trees of a group as often as it fits, later ones in another form. -/
def repeated (source : Source) :
    Nat → List Item → List Item → Nat → Reader (List Tree × Nat)
  | 0, _, _, _ => throw .malformed
  | fuel + 1, items, later, place => do
    match (← matchItems source fuel items place).1 with
    | some (trees, after) =>
      if after = place then return ([groupTree trees], after)
      let (others, last) ← repeated source fuel later later after
      return (groupTree trees :: others, last)
    | none => return ([], place)

end

/-- How deep rules stand in rules for a number of tokens. -/
def fuelFor (tokens : Nat) : Nat := 400 * (tokens + 4)

/-- Reads by a rule from the first token on. -/
def Source.run (source : Source) (rule : Rule) (seeking : Bool) (asked : Nat) :
    Except Flaw (Option Tree) × Nat :=
  let (result, reading) :=
    (apply source (fuelFor source.tokens.list.size) rule 0).run.run ⟨∅, asked, seeking⟩
  (result.map fun found => found.map Prod.fst, reading.asked)

/-- A flaw of the grammar, unless the rest of the characters has one that counts more. -/
def Source.outweigh (source : Source) (asked : Nat) (flaw : Flaw) : Flaw :=
  match source.tokens.stop with
  | none => flaw
  | some stop =>
    if stop.decisive then stop.flaw
    else
      match stop.bracket, source.tokens.list[asked - 1]? with
      | some (bracket, line), some token => if line < token.line then .unclosed bracket else flaw
      | _, _ => flaw

/-- Whether the end of the text was noticed with the last token that was asked for. -/
def Source.noticesEnd (source : Source) (asked : Nat) : Bool :=
  asked = source.tokens.list.size && (source.tokens.stop.map Stop.noticed) = some true

/-- Whether the last token that was asked for is the margin of a line. -/
def Source.endsAtMargin (source : Source) (asked : Nat) : Bool :=
  match source.tokens.list[asked - 1]?.map Token.kind with
  | some .indent => true
  | some .dedent => true
  | _ => false

/-- Reads tokens by a rule. -/
def Source.read (source : Source) (rule : Rule) : Except Flaw Tree :=
  let size := source.tokens.list.size
  let final (asked : Nat) (flaw : Flaw) : Flaw :=
    if size < asked || source.noticesEnd asked then flaw else source.outweigh asked flaw
  match source.run rule false 0 with
  | (.ok (some tree), _) => .ok tree
  | (.error flaw, asked) => .error (final asked flaw)
  | (.ok none, first) =>
    match source.run rule true first with
    | (.error flaw, asked) => .error (final asked flaw)
    | (.ok _, asked) =>
      .error (if source.endsAtMargin first then .unexpectedMargin
        else source.outweigh asked .malformed)

/-- What several texts side by side make. -/
def combineTexts (reader : List Char → Except Flaw Unit) (first : Bool) (bytes : Bool) :
    List (List Char) → Except Flaw Bool
  | [] => .ok false
  | written :: rest => do
    let text := Written.ofToken written
    if !text.isTemplate then text.check
    if !first && text.isBytes != bytes then throw .mixedTexts
    if text.isTemplate then checkTemplate reader (text.letters.contains 'r') text.body
    return (← combineTexts reader false text.isBytes rest) || text.isTemplate

/-- The flaw of an expression inside of a text. -/
def Flaw.inside (flaw : Flaw) (stop : Option Stop) : Flaw :=
  if stop.map Stop.flaw = some flaw then flaw else .inTemplate flaw

/-- Reads an expression, in which texts stand in texts at most so deep. -/
def readWithin : Nat → Rule → List Char → Except Flaw Tree
  | 0, _, _ => .error .malformed
  | depth + 1, rule, text =>
    let tokens := tokensOf text
    let reader (inner : List Char) : Except Flaw Unit :=
      match readWithin depth .starExpressions inner with
      | .ok _ => .ok ()
      | .error flaw => .error (flaw.inside (tokensOf inner).stop)
    let source : Source := ⟨tokens, fun texts =>
      (combineTexts reader true false texts).map fun isTemplate =>
        if isTemplate then .node .template [] else .constant .text⟩
    source.read rule

/-- Reads an expression. -/
def read (text : List Char) : Except Flaw Tree := readWithin (text.length + 1) .whole text

end GraphMapper.Expression
