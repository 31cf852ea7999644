import GraphMapper.Settings.Dotenv
import GraphMapper.Text.Blank

/-!
# Questions

A question that is answered with yes or no.  An empty answer means no; an answer that is
neither is pointed out, and the question is asked again.  The answers are echoed, since they
are part of what a reader of the terminal sees.  When there is nothing left to read the
question stays open.

A question may hold commands to a terminal, for colours or for the place of the cursor.  They are
left out of it; an answer is echoed as it is.
-/

namespace GraphMapper.Prompt

/-- The lines of a text; what stands after the last line feed is a line if it is not empty. -/
def linesFrom (current : List Char) : List Char → List (List Char)
  | [] => if current.isEmpty then [] else [current]
  | '\n' :: rest => current :: linesFrom [] rest
  | c :: rest => linesFrom (current ++ [c]) rest

/-- The lines that can be read from an input. -/
def inputLines (input : String) : List String :=
  (linesFrom [] (Dotenv.normalLines input.toList)).map String.ofList

/-- What an answer means, if it means anything. -/
def meaning? (answer : String) : Option Bool :=
  let word := String.ofList (Text.trim (answer.toList.map Char.toLower))
  if word = "y" ∨ word = "yes" then some true
  else if word = "n" ∨ word = "no" ∨ word = "" then some false
  else none

/-- What is left after a command to a terminal, given what stands after its escape character. -/
def afterCommand? : List Char → Option (List Char)
  | '[' :: rest =>
    match rest.dropWhile fun c => c == ';' || c == '?' || c.isDigit with
    | c :: after => if c.isAlpha then some after else none
    | [] => none
  | _ => none

/-- A text without commands to a terminal; `fuel` bounds its characters. -/
def withoutCommandsWithin : Nat → List Char → List Char
  | 0, s => s
  | _, [] => []
  | fuel + 1, c :: rest =>
    match if c = '\x1b' then afterCommand? rest else none with
    | some after => withoutCommandsWithin fuel after
    | none => c :: withoutCommandsWithin fuel rest

/-- A text without commands to a terminal. -/
def withoutCommands (text : String) : String :=
  String.ofList (withoutCommandsWithin text.toList.length text.toList)

/-- A question as it is asked. -/
def asked (question : String) : String := withoutCommands (question ++ " [y/N]:")

/-- Asks until an answer means something: what was printed, and what the answer was. -/
def confirm (question : String) : List String → List String × Option Bool
  | [] => ([asked question], none)
  | answer :: rest =>
    let echoed := asked question ++ " " ++ answer ++ "\n"
    match meaning? answer with
    | some decision => ([echoed], some decision)
    | none =>
      let (printed, decision) := confirm question rest
      (echoed :: "Error: invalid input\n" :: printed, decision)

end GraphMapper.Prompt
