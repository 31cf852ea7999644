import GraphMapper.Expression.Tree

/-!
# The grammar of expressions

A grammar is a value: every `Rule` has a list of alternatives, which are tried in order, and the
first that fits is taken.  An alternative is a list of items and says what is made of them.

1. A rule may be applied to what it made: `Rule.extensions` lists how it goes on.  Operators that
   group to the left are written in this way.
2. Some alternatives match slips.  Most of them are tried only when an expression was found not to
   read, and instead of a tree they give a `Mistake`.
3. Each item gives one tree, except those that only look ahead.  Words and marks inside of a group
   are left out, unless the group has nothing else.
4. What some rules made at a place is kept (`Rule.isKept`).  This is not only quick: below
   `Rule.calmExpression` slips are not looked for, and what was kept there is used elsewhere too.
-/

namespace GraphMapper.Expression

/-- The rules. -/
inductive Rule where
  | whole
  | expressions
  | expression
  | calmExpression
  | yielded
  | starExpressions
  | starExpression
  | starNamedExpressions
  | starNamedExpression
  | assignmentExpression
  | namedExpression
  | disjunction
  | conjunction
  | inversion
  | comparison
  | comparisonPart
  | bitOr
  | bitXor
  | bitAnd
  | shift
  | sum
  | term
  | factor
  | power
  | awaited
  | primary
  | atom
  | texts
  | group
  | tuple
  | set
  | map
  | mapItems
  | mapItem
  | pair
  | setComprehension
  | mapComprehension
  | generator
  | clauses
  | clause
  | arguments
  | callArguments
  | keywordArguments
  | starredArgument
  | keywordOrStarred
  | keywordOrUnpacking
  | targets
  | targetTuple
  | target
  | innerTarget
  | targetAtom
  | targetPrimary
  | targetGoesOn
  | anonymous
  | parameters
  | plainParameters
  | slashWithoutDefaults
  | slashWithDefaults
  | starParameters
  | doubleStarParameter
  | parameterWithoutDefault
  | parameterWithDefault
  | parameterMaybeDefault
  | default
  | slipInExpression
  | slipInCall
  | slipInNamed
  | slipInGroup
  | slipInMap
  | slipInPair
  | slipInComprehension
  | slipInMapComprehension
  | slipInTarget
  | slipInArguments
  | slipInKeyword
  | slipInParameters
  | slipInStarParameters
  | slipInDoubleStar
  deriving DecidableEq, Hashable

/-- The items of alternatives. -/
inductive Item where
  | word (text : String)
  | name
  | contextualWord
  | number
  | text
  | newline
  | ending
  | rule (rule : Rule)
  | choice (options : List (List Item))
  | maybe (items : List Item)
  | many (items : List Item)
  | some (items : List Item)
  | separated (items : List Item)
  | ahead (items : List Item)
  | notAhead (items : List Item)
  | commit

/-- The tree of a token that an item stands for. -/
def accept (item : Item) (kind : Kind) : Except Flaw (Option Tree) :=
  match item, kind with
  | .word wanted, .word written => .ok (if written = wanted then some (.word wanted) else none)
  | .name, .name written => .ok (some (.name written))
  | .contextualWord, .name written =>
    .ok (if ["_", "case", "match"].any fun word => written.isPrefixOf word then
      some (.name written) else none)
  | .number, .number value => value.map fun numeral => some (.constant (.number numeral))
  | .text, .text _ => .ok (some .missing)
  | .newline, .newline => .ok (some .missing)
  | .ending, .ending => .ok (some .missing)
  | _, _ => .ok none

/-- What is made of the items of an alternative. -/
inductive Verdict where
  | tree (tree : Tree)
  | refused
  | slip (mistake : Mistake)

/-- An alternative: its items, what is made of their trees and of the number of brackets that are
open after the last token, and whether it is tried only to find slips. -/
structure Alternative where
  items : List Item
  build : List Tree → Nat → Verdict
  seeksSlip : Bool := false

/-- The rules whose results are kept. -/
def Rule.isKept : Rule → Bool
  | .expression | .starExpression | .disjunction | .conjunction | .inversion | .factor | .awaited
  | .texts | .arguments | .target | .innerTarget | .slipInNamed => true
  | .bitOr | .bitXor | .bitAnd | .shift | .sum | .term | .primary | .targetPrimary => true
  | _ => false

/-- An alternative that is one of its items. -/
def pick (index : Nat) (items : List Item) : Alternative :=
  ⟨items, fun trees _ => .tree (trees.getD index .missing), false⟩

/-- An alternative that is a rule. -/
def is (rule : Rule) : Alternative := pick 0 [.rule rule]

/-- An alternative that makes a node of some of its items. -/
def make (shape : Shape) (indices : List Nat) (items : List Item) : Alternative :=
  ⟨items, fun trees _ => .tree (.node shape (indices.map (trees.getD · .missing))), false⟩

/-- An alternative that makes a node of what it finds in its items, sequences opened. -/
def spread (shape : Shape) (indices : List Nat) (items : List Item) : Alternative :=
  ⟨items, fun trees _ =>
    .tree (.node shape (indices.flatMap fun index => (trees.getD index .missing).items)), false⟩

/-- An alternative that makes a sequence of what it finds in its items. -/
def gather (indices : List Nat) (items : List Item) : Alternative :=
  ⟨items, fun trees _ =>
    .tree (.several (indices.flatMap fun index => (trees.getD index .missing).items)), false⟩

/-- An alternative that is a constant. -/
def constant (value : Constant) (items : List Item) : Alternative :=
  ⟨items, fun _ _ => .tree (.constant value), false⟩

/-- An alternative that is a slip. -/
def slip (mistake : Mistake) (items : List Item) : Alternative :=
  ⟨items, fun _ _ => .slip mistake, false⟩

/-- An alternative that looks for slips by a rule. -/
def seek (rule : Rule) : Alternative := { is rule with seeksSlip := true }

/-- An operator between two operands. -/
def operator (mark : String) (operand : Rule) : Alternative :=
  make .operation [0, 2] [.word mark, .rule operand]

/-- More of a rule after commas. -/
def afterCommas (rule : Rule) : List Item := [.some [.word ",", .rule rule], .maybe [.word ","]]

/-- The positional arguments among arguments. -/
def positional (arguments : Tree) : List Tree :=
  match arguments with
  | .node _ parts => parts.filter fun part =>
      match part with
      | .node .keyword _ | .node .unpacking _ => false
      | _ => true
  | _ => []

/-- Whether arguments unpack a map. -/
def unpacks (arguments : Tree) : Bool :=
  match arguments with
  | .node _ parts => parts.any fun part =>
      match part with
      | .node .unpacking _ => true
      | _ => false
  | _ => false

/-- The names that were commands once. -/
def isCommand (tree : Tree) : Bool := tree.name? = some "print" || tree.name? = some "exec"

/-- A tuple of a tree and those after it, or an empty one. -/
def tupleOf (trees : List Tree) (_ : Nat) : Verdict :=
  match trees with
  | first :: rest => .tree (.node .tuple (first :: (rest.headD .missing).items))
  | [] => .tree (.node .tuple [])

/-- An argument that is no keyword. -/
def plainArgument : List Item :=
  [.choice [[.rule .starredArgument],
    [.choice [[.rule .assignmentExpression], [.rule .expression, .notAhead [.word ":="]]],
      .notAhead [.word "="]]]]

/-- A comparison with a word or mark. -/
def compare (marks : List String) : Alternative :=
  gather [0, marks.length] (marks.map Item.word ++ [.rule .bitOr])

/-- The parameters that may begin with a slash. -/
def slashParameters : List (List Item) :=
  [[.rule .slashWithoutDefaults], [.rule .slashWithDefaults]]

/-- How a rule goes on after what it made, which is the first of the trees. -/
def Rule.extensions : Rule → List Alternative
  | .bitOr => [operator "|" .bitXor]
  | .bitXor => [operator "^" .bitAnd]
  | .bitAnd => [operator "&" .shift]
  | .shift => [operator "<<" .sum, operator ">>" .sum]
  | .sum =>
    [make (.sum false) [0, 2] [.word "+", .rule .term],
      make (.sum true) [0, 2] [.word "-", .rule .term]]
  | .term =>
    [operator "*" .factor, operator "/" .factor, operator "//" .factor, operator "%" .factor,
      operator "@" .factor]
  | .primary =>
    [make .member [0] [.word ".", .name],
      make .call [0, 1] [.rule .generator],
      ⟨[.word "(", .maybe [.rule .arguments], .word ")"], fun trees _ =>
        .tree (.node .call
          (trees.headD .missing :: match trees.getD 2 .missing with
            | .node .arguments parts => parts
            | _ => [])), false⟩]
  | .targetPrimary =>
    [make .member [0] [.word ".", .name, .ahead [.rule .targetGoesOn]],
      make .call [0, 1] [.rule .generator, .ahead [.rule .targetGoesOn]],
      make .call [0]
        [.word "(", .maybe [.rule .arguments], .word ")", .ahead [.rule .targetGoesOn]]]
  | _ => []

/-- The alternatives of a rule. -/
def Rule.alternatives : Rule → List Alternative
  | .whole => [pick 0 [.rule .expressions, .many [.newline], .ending]]
  | .expressions =>
    [⟨.rule .expression :: afterCommas .expression, tupleOf, false⟩,
      make .tuple [0] [.rule .expression, .word ","],
      is .expression]
  | .expression =>
    [seek .slipInExpression,
      seek .slipInCall,
      make .conditional [0, 2, 4]
        [.rule .disjunction, .word "if", .rule .disjunction, .word "else", .rule .expression],
      is .disjunction,
      is .anonymous]
  | .calmExpression =>
    [make .conditional [0, 2, 4]
        [.rule .disjunction, .word "if", .rule .disjunction, .word "else", .rule .expression],
      is .disjunction,
      is .anonymous]
  | .yielded =>
    [make .yielded [2] [.word "yield", .word "from", .rule .expression],
      make .yielded [1] [.word "yield", .maybe [.rule .starExpressions]]]
  | .starExpressions =>
    [⟨.rule .starExpression :: afterCommas .starExpression, tupleOf, false⟩,
      make .tuple [0] [.rule .starExpression, .word ","],
      is .starExpression]
  | .starExpression =>
    [make .starred [1] [.word "*", .rule .bitOr],
      is .expression]
  | .starNamedExpressions =>
    [gather [0] [.separated [.rule .starNamedExpression], .maybe [.word ","]]]
  | .starNamedExpression =>
    [make .starred [1] [.word "*", .rule .bitOr],
      is .namedExpression]
  | .assignmentExpression =>
    [make .named [0, 2] [.name, .word ":=", .commit, .rule .expression]]
  | .namedExpression =>
    [is .assignmentExpression,
      seek .slipInNamed,
      pick 0 [.rule .expression, .notAhead [.word ":="]]]
  | .disjunction =>
    [make .operation [0, 1] [.rule .conjunction, .some [.word "or", .rule .conjunction]],
      is .conjunction]
  | .conjunction =>
    [make .operation [0, 1] [.rule .inversion, .some [.word "and", .rule .inversion]],
      is .inversion]
  | .inversion =>
    [make .operation [1] [.word "not", .rule .inversion],
      is .comparison]
  | .comparison =>
    [⟨[.rule .bitOr, .some [.rule .comparisonPart]], fun trees _ =>
        let first := (trees.getD 1 .missing).items.headD .missing
        let shape := match first.items.head? with
          | some (.word "in") => Shape.membership
          | _ => Shape.comparison
        .tree (.node shape [trees.headD .missing]), false⟩,
      is .bitOr]
  | .comparisonPart =>
    [compare ["=="], compare ["!="], compare ["<="], compare ["<"], compare [">="], compare [">"],
      compare ["not", "in"], compare ["in"], compare ["is", "not"], compare ["is"]]
  | .bitOr => [is .bitXor]
  | .bitXor => [is .bitAnd]
  | .bitAnd => [is .shift]
  | .shift => [is .sum]
  | .sum => [is .term]
  | .term => [is .factor]
  | .factor =>
    [make (.signed false) [1] [.word "+", .rule .factor],
      make (.signed true) [1] [.word "-", .rule .factor],
      make .operation [1] [.word "~", .rule .factor],
      is .power]
  | .power =>
    [make .operation [0, 2] [.rule .awaited, .word "**", .rule .factor],
      is .awaited]
  | .awaited =>
    [make .awaited [1] [.word "await", .rule .primary],
      is .primary]
  | .primary => [is .atom]
  | .atom =>
    [pick 0 [.name],
      constant .true [.word "True"],
      constant .false [.word "False"],
      constant .none [.word "None"],
      pick 0 [.ahead [.text], .rule .texts],
      pick 0 [.number],
      pick 0 [.ahead [.word "("],
        .choice [[.rule .tuple], [.rule .group], [.rule .generator]]],
      pick 0 [.ahead [.word "\x7b"],
        .choice [[.rule .map], [.rule .set], [.rule .mapComprehension],
          [.rule .setComprehension]]],
      constant .ellipsis [.word "..."]]
  | .texts => []
  | .group =>
    [pick 1 [.word "(", .choice [[.rule .yielded], [.rule .namedExpression]], .word ")"],
      seek .slipInGroup]
  | .tuple =>
    [⟨[.word "(",
        .maybe [.rule .starNamedExpression, .word ",", .maybe [.rule .starNamedExpressions]],
        .word ")"], fun trees _ =>
        tupleOf (trees.getD 1 .missing).items 0, false⟩]
  | .set => [spread .set [1] [.word "\x7b", .rule .starNamedExpressions, .word "\x7d"]]
  | .map =>
    [spread .map [1] [.word "\x7b", .maybe [.rule .mapItems], .word "\x7d"],
      pick 1 [.word "\x7b", .rule .slipInMap, .word "\x7d"]]
  | .mapItems => [gather [0] [.separated [.rule .mapItem], .maybe [.word ","]]]
  | .mapItem =>
    [make .unpacking [1] [.word "**", .rule .bitOr],
      is .pair]
  | .pair => [make .pair [0, 2] [.rule .expression, .word ":", .rule .expression]]
  | .setComprehension =>
    [make .setComprehension [1]
        [.word "\x7b", .rule .namedExpression, .rule .clauses, .word "\x7d"],
      seek .slipInComprehension]
  | .mapComprehension =>
    [make .mapComprehension [1] [.word "\x7b", .rule .pair, .rule .clauses, .word "\x7d"],
      seek .slipInMapComprehension]
  | .generator =>
    [make .generator [1]
        [.word "(",
          .choice [[.rule .assignmentExpression], [.rule .expression, .notAhead [.word ":="]]],
          .rule .clauses, .word ")"],
      seek .slipInComprehension]
  | .clauses => [gather [0] [.some [.rule .clause]]]
  | .clause =>
    [pick 2 [.word "async", .word "for", .rule .targets, .word "in", .commit, .rule .disjunction,
        .many [.word "if", .rule .disjunction]],
      pick 1 [.word "for", .rule .targets, .word "in", .commit, .rule .disjunction,
        .many [.word "if", .rule .disjunction]],
      seek .slipInTarget]
  | .arguments =>
    [pick 0 [.rule .callArguments, .maybe [.word ","], .ahead [.word ")"]],
      seek .slipInArguments]
  | .callArguments =>
    [spread .arguments [0, 1]
        [.separated plainArgument, .maybe [.word ",", .rule .keywordArguments]],
      spread .arguments [0] [.rule .keywordArguments]]
  | .keywordArguments =>
    [gather [0, 2]
        [.separated [.rule .keywordOrStarred], .word ",", .separated [.rule .keywordOrUnpacking]],
      gather [0] [.separated [.rule .keywordOrStarred]],
      gather [0] [.separated [.rule .keywordOrUnpacking]]]
  | .starredArgument =>
    [make .starred [1] [.word "*", .rule .expression],
      slip .bareStarred [.word "*"]]
  | .keywordOrStarred =>
    [seek .slipInKeyword,
      make .keyword [0, 2] [.name, .word "=", .rule .expression],
      is .starredArgument]
  | .keywordOrUnpacking =>
    [seek .slipInKeyword,
      make .keyword [0, 2] [.name, .word "=", .rule .expression],
      make .unpacking [1] [.word "**", .rule .expression]]
  | .targets =>
    [pick 0 [.rule .target, .notAhead [.word ","]],
      spread .tuple [0, 1]
        [.rule .target, .many [.word ",", .rule .target], .maybe [.word ","]]]
  | .targetTuple =>
    [gather [0, 1] [.rule .target, .some [.word ",", .rule .target], .maybe [.word ","]],
      gather [0] [.rule .target, .word ","]]
  | .target =>
    [make .starred [1] [.word "*", .notAhead [.word "*"], .rule .target],
      is .innerTarget]
  | .innerTarget =>
    [make .member [0]
        [.rule .targetPrimary, .word ".", .name, .notAhead [.rule .targetGoesOn]],
      is .targetAtom]
  | .targetAtom =>
    [pick 0 [.name],
      pick 1 [.word "(", .rule .innerTarget, .word ")"],
      spread .tuple [1] [.word "(", .maybe [.rule .targetTuple], .word ")"]]
  | .targetPrimary => [pick 0 [.rule .atom, .ahead [.rule .targetGoesOn]]]
  | .targetGoesOn => [pick 0 [.word "("], pick 0 [.word "["], pick 0 [.word "."]]
  | .anonymous =>
    [make .anonymous [3]
      [.word "lambda", .maybe [.rule .parameters], .word ":", .rule .expression]]
  | .parameters => [seek .slipInParameters, is .plainParameters]
  | .plainParameters =>
    [gather [] [.rule .slashWithoutDefaults, .many [.rule .parameterWithoutDefault],
        .many [.rule .parameterWithDefault], .maybe [.rule .starParameters]],
      gather [] [.rule .slashWithDefaults, .many [.rule .parameterWithDefault],
        .maybe [.rule .starParameters]],
      gather [] [.some [.rule .parameterWithoutDefault], .many [.rule .parameterWithDefault],
        .maybe [.rule .starParameters]],
      gather [] [.some [.rule .parameterWithDefault], .maybe [.rule .starParameters]],
      gather [] [.rule .starParameters]]
  | .slashWithoutDefaults =>
    [gather [] [.some [.rule .parameterWithoutDefault], .word "/", .word ","],
      gather [] [.some [.rule .parameterWithoutDefault], .word "/", .ahead [.word ":"]]]
  | .slashWithDefaults =>
    [gather [] [.many [.rule .parameterWithoutDefault], .some [.rule .parameterWithDefault],
        .word "/", .word ","],
      gather [] [.many [.rule .parameterWithoutDefault], .some [.rule .parameterWithDefault],
        .word "/", .ahead [.word ":"]]]
  | .starParameters =>
    [seek .slipInStarParameters,
      gather [] [.word "*", .rule .parameterWithoutDefault, .many [.rule .parameterMaybeDefault],
        .maybe [.rule .doubleStarParameter]],
      gather [] [.word "*", .word ",", .some [.rule .parameterMaybeDefault],
        .maybe [.rule .doubleStarParameter]],
      gather [] [.rule .doubleStarParameter]]
  | .doubleStarParameter =>
    [seek .slipInDoubleStar,
      gather [] [.word "**", .rule .parameterWithoutDefault]]
  | .parameterWithoutDefault =>
    [gather [] [.name, .word ","],
      gather [] [.name, .ahead [.word ":"]]]
  | .parameterWithDefault =>
    [gather [] [.name, .rule .default, .word ","],
      gather [] [.name, .rule .default, .ahead [.word ":"]]]
  | .parameterMaybeDefault =>
    [gather [] [.name, .maybe [.rule .default], .word ","],
      gather [] [.name, .maybe [.rule .default], .ahead [.word ":"]]]
  | .default =>
    [gather [] [.word "=", .rule .expression],
      { slip .missingDefault [.word "=", .ahead [.choice [[.word ")"], [.word ","]]]] with
        seeksSlip := true }]
  | .slipInExpression =>
    [⟨[.notAhead [.choice [[.name, .text], [.contextualWord]]],
        .rule .disjunction, .rule .calmExpression], fun trees depth =>
        if isCommand (trees.headD .missing) || depth == 0 then .refused
        else .slip .missingComma, false⟩,
      slip .missingElse
        [.rule .disjunction, .word "if", .rule .disjunction,
          .notAhead [.choice [[.word "else"], [.word ":"]]]]]
  | .slipInCall =>
    [⟨[.name, .notAhead [.word "("], .rule .starExpressions], fun trees _ =>
        let first := trees.headD .missing
        if isCommand first then .slip (.missingCall (first.name?.getD "")) else .refused, false⟩]
  | .slipInNamed =>
    [⟨[.rule .expression, .word ":=", .rule .expression], fun trees _ =>
        .slip (.namedAssignment (trees.headD .missing).description), false⟩,
      slip .equalsForComparison
        [.name, .word "=", .rule .bitOr, .notAhead [.choice [[.word "="], [.word ":="]]]],
      ⟨[.notAhead [.choice [[.rule .tuple], [.rule .generator], [.word "True"], [.word "None"],
          [.word "False"]]],
        .rule .bitOr, .word "=", .rule .bitOr,
        .notAhead [.choice [[.word "="], [.word ":="]]]], fun trees _ =>
        .slip (.assignmentHere (trees.headD .missing).description), false⟩]
  | .slipInGroup =>
    [slip .starredGroup [.word "(", .rule .starredArgument, .word ")"],
      slip .doubleStarredGroup [.word "(", .word "**", .rule .expression, .word ")"]]
  | .slipInMap =>
    [gather [] [.separated [.rule .mapItem], .word ",", .rule .slipInPair],
      slip .starredValue [.rule .expression, .word ":", .word "*", .rule .bitOr],
      slip .missingValueAfterKey
        [.rule .expression, .word ":", .ahead [.choice [[.word "\x7d"], [.word ","]]]]]
  | .slipInPair =>
    [slip .missingColonAfterKey [.rule .expression, .notAhead [.word ":"]],
      slip .starredValue [.rule .expression, .word ":", .word "*", .rule .bitOr],
      slip .missingValueAfterKey
        [.rule .expression, .word ":", .ahead [.choice [[.word "\x7d"], [.word ","]]]]]
  | .slipInComprehension =>
    [slip .starredComprehension
        [.choice [[.word "["], [.word "("], [.word "\x7b"]], .rule .starredArgument,
          .rule .clauses],
      slip .bareTarget
        [.choice [[.word "["], [.word "\x7b"]], .rule .starNamedExpression, .word ",",
          .rule .starNamedExpressions, .rule .clauses],
      slip .bareTarget
        [.choice [[.word "["], [.word "\x7b"]], .rule .starNamedExpression, .word ",",
          .rule .clauses]]
  | .slipInMapComprehension =>
    [slip .unpackingComprehension
      [.word "\x7b", .word "**", .rule .bitOr, .rule .clauses, .word "\x7d"]]
  | .slipInTarget =>
    [⟨[.maybe [.word "async"], .word "for", .rule .starExpressions], fun trees _ =>
        match (trees.getD 2 .missing).invalidTarget? with
        | some tree => .slip (.assignment tree.description)
        | none => .refused, false⟩]
  | .slipInArguments =>
    [slip .starredAfterUnpacking
        [.choice [[.separated plainArgument, .word ",", .rule .keywordArguments],
            [.rule .keywordArguments]],
          .word ",", .separated [.rule .starredArgument, .notAhead [.word "="]]],
      slip .bareGenerator
        [.rule .expression, .rule .clauses, .word ",",
          .maybe [.choice [[.rule .callArguments], [.rule .expression, .rule .clauses]]]],
      slip .equalsForComparison [.name, .word "=", .rule .expression, .rule .clauses],
      ⟨[.rule .callArguments, .rule .clauses], fun trees _ =>
        if (positional (trees.headD .missing)).length ≤ 1 then .refused
        else .slip .bareGenerator, false⟩,
      slip .bareGenerator
        [.rule .callArguments, .word ",", .rule .expression, .rule .clauses],
      ⟨[.rule .callArguments, .word ",", .rule .callArguments], fun trees _ =>
        if unpacks (trees.headD .missing) then .slip .positionalAfterUnpacking
        else .slip .positionalAfterKeyword, false⟩]
  | .slipInKeyword =>
    [⟨[.choice [[.word "True"], [.word "False"], [.word "None"]], .word "="], fun trees _ =>
        match trees.headD .missing with
        | .word text => .slip (.assignment text)
        | _ => .refused, false⟩,
      slip .equalsForComparison [.name, .word "=", .rule .expression, .rule .clauses],
      slip .equalsInKeyword
        [.notAhead [.name, .word "="], .rule .expression, .word "="]]
  | .slipInParameters =>
    [slip .parameterWithoutDefault
        [.many [.rule .parameterWithoutDefault],
          .choice [[.rule .slashWithDefaults], [.some [.rule .parameterWithDefault]]],
          .rule .parameterWithoutDefault],
      slip .bracketedParameters
        [.many [.rule .parameterWithoutDefault], .word "(", .separated [.name],
          .maybe [.word ","], .word ")"],
      slip .nothingBeforeSlash [.word "/", .word ","],
      slip .secondSlash
        [.choice slashParameters, .many [.rule .parameterMaybeDefault], .word "/"],
      slip .slashAfterStar
        [.maybe [.choice slashParameters], .many [.rule .parameterMaybeDefault], .word "*",
          .choice [[.word ","], [.rule .parameterWithoutDefault]],
          .many [.rule .parameterMaybeDefault], .word "/"],
      slip .starAfterSlash [.some [.rule .parameterMaybeDefault], .word "/", .word "*"]]
  | .slipInStarParameters =>
    [slip .nothingAfterStar
        [.word "*", .choice [[.word ":"],
          [.word ",", .choice [[.word ":"], [.word "**"]]]]],
      slip .defaultOfStarred [.word "*", .name, .word "="],
      slip .secondStar
        [.word "*", .choice [[.rule .parameterWithoutDefault], [.word ","]],
          .many [.rule .parameterMaybeDefault], .word "*",
          .choice [[.rule .parameterWithoutDefault], [.word ","]]]]
  | .slipInDoubleStar =>
    [slip .defaultOfDoubleStarred [.word "**", .name, .word "="],
      slip .parameterAfterDoubleStarred [.word "**", .name, .word ",", .name],
      slip .parameterAfterDoubleStarred
        [.word "**", .name, .word ",", .choice [[.word "*"], [.word "**"], [.word "/"]]]]

end GraphMapper.Expression
