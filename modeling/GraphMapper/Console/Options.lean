/-!
# The command line

There are two commands, each with a few options.  An option has a long name after two dashes
and a short one after a single dash; short names can be written together, and an option that
takes a value takes the rest of its own word or else the whole next word, whatever that looks
like.  A word of two dashes ends the options.  Options may come in any order and may be
repeated; the last value counts.

Anything else is a usage error: an unknown command or option, a missing value, a value for an
option that takes none, a word that is left over.
-/

namespace GraphMapper

/-- What a user asks for. -/
inductive Command where
  | stats (detailed : Bool)
  | clear (label : Option String) (force : Bool)
  deriving DecidableEq

namespace Command

/-- The option of a command that takes a value. -/
inductive OptionName where
  | detailed
  | label
  | force
  deriving DecidableEq

/-- Whether an option takes a value. -/
def OptionName.takesValue : OptionName → Bool
  | .label => true
  | _ => false

/-- The options of a command by their long and short names. -/
structure Names where
  long : List (List Char × OptionName)
  short : List (Char × OptionName)

/-- The options of the statistics command. -/
def statsNames : Names := ⟨[("--detailed".toList, .detailed)], [('d', .detailed)]⟩

/-- The options of the clearing command. -/
def clearNames : Names :=
  ⟨[("--label".toList, .label), ("--force".toList, .force)], [('l', .label), ('f', .force)]⟩

/-- An option that was given, with its value if it takes one. -/
structure Given where
  name : OptionName
  value : List Char := []

/-- The long option with a name. -/
def long? (names : Names) (name : List Char) : Option OptionName :=
  (names.long.find? fun e => e.1 == name).map (·.2)

/-- The short option with a name. -/
def short? (names : Names) (name : Char) : Option OptionName :=
  (names.short.find? fun e => e.1 == name).map (·.2)

/-- The options of a word of short names, and the words after it; the last one may take its
value from there. -/
def readShort (names : Names) (words : List (List Char)) :
    List Char → Option (List Given × List (List Char))
  | [] => some ([], words)
  | c :: rest =>
    match short? names c with
    | none => none
    | some name =>
      if name.takesValue then
        match rest, words with
        | _ :: _, _ => some ([⟨name, rest⟩], words)
        | [], value :: others => some ([⟨name, value⟩], others)
        | [], [] => none
      else (readShort names words rest).map fun (given, others) => (⟨name, []⟩ :: given, others)

/-- The option of a word with a long name, and the words after it. -/
def readLong (names : Names) (word : List Char) (words : List (List Char)) :
    Option (List Given × List (List Char)) :=
  let written := word.takeWhile (· != '=')
  let value? := (word.drop written.length).tail?
  match long? names written with
  | none => none
  | some name =>
    match name.takesValue, value?, words with
    | true, some value, _ => some ([⟨name, value⟩], words)
    | true, none, value :: others => some ([⟨name, value⟩], others)
    | true, none, [] => none
    | false, none, _ => some ([⟨name, []⟩], words)
    | false, some _, _ => none

/-- The options of a list of words, none of which is left over.  Each step uses up a word, so
as much fuel as there are words is enough. -/
def readWords (names : Names) : Nat → List (List Char) → Option (List Given)
  | _, [] => some []
  | 0, _ :: _ => none
  | fuel + 1, word :: words =>
    match word with
    | ['-', '-'] => if words.isEmpty then some [] else none
    | '-' :: '-' :: _ =>
      (readLong names word words).bind fun (given, others) =>
        (readWords names fuel others).map (given ++ ·)
    | '-' :: c :: rest =>
      (readShort names words (c :: rest)).bind fun (given, others) =>
        (readWords names fuel others).map (given ++ ·)
    | _ => none

/-- Whether an option was given. -/
def isGiven (name : OptionName) (given : List Given) : Bool := given.any fun g => g.name == name

/-- The last value of an option. -/
def lastValue? (name : OptionName) (given : List Given) : Option String :=
  (given.reverse.find? fun g => g.name == name).map fun g => String.ofList g.value

/-- The command after its name. -/
def ofName? (name : List Char) (words : List (List Char)) : Option Command :=
  if name = "stats".toList then
    (readWords statsNames words.length words).map fun given => .stats (isGiven .detailed given)
  else if name = "clear".toList then
    (readWords clearNames words.length words).map fun given =>
      .clear (lastValue? .label given) (isGiven .force given)
  else none

/-- The command that a list of words asks for; none if the words are a usage error. -/
def ofWords? (words : List String) : Option Command :=
  match words.map String.toList with
  | ['-', '-'] :: name :: rest => ofName? name rest
  | name :: rest => ofName? name rest
  | [] => none

end Command

end GraphMapper
