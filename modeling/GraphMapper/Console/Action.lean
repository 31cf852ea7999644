import GraphMapper.Expression.Literal
import GraphMapper.Fault
import GraphMapper.Text.Blank
import GraphMapper.Text.Names

/-!
# Actions of tags

A tag such as `[@click=open(1, 'a')]` names an action and its arguments.  Nothing happens in a
plain text, but the arguments are read when the tag is closed, and arguments that are no literal
are a fault of the message.
-/

namespace GraphMapper.Action

/-- The arguments of an action: what stands in the brackets after its name, none if there are no
brackets, and everything if the action is no name with brackets on one line. -/
def argumentsOf (action : List Char) : List Char :=
  match action.dropWhile fun c => Text.isWordChar c || c == '.' with
  | [] => "()".toList
  | '(' :: rest =>
    if rest.getLast? = some ')' && !rest.contains '\n' then '(' :: rest else action
  | _ => action

/-- Why an expression that reads has no value. -/
def senselessText : Expression.LiteralFault → String
  | .unread flaw => flaw.message
  | .zeroCharacter => "source code string cannot contain null bytes"
  | .missingKey => "malformed node or string: None"
  | .changeable kind => "unhashable type: '" ++ kind ++ "'"
  | .tooLarge => "int too large to convert to float"
  | .noLiteral => "malformed node or string on line 1"

/-- Checks the arguments of an action as it was written.  An action without text has none. -/
def check (written : List Char) : Except Fault Unit :=
  if written.isEmpty then .ok ()
  else
    let arguments := argumentsOf (Text.trim written)
    match Expression.readLiteral arguments with
    | .ok _ => .ok ()
    | .error (.unread flaw) => .error <|
      .unreadableAction (String.ofList arguments) (String.ofList written) flaw.message
    | .error fault => .error (.senselessAction (String.ofList written) (senselessText fault))

end GraphMapper.Action
