import GraphMapper.Console.Emoji.Table
import GraphMapper.Text.Blank
import GraphMapper.Text.Lower

/-!
# Pictures in messages

A message may name a picture between two colons, `:heart:`, and then shows the picture instead.
Letter case does not matter.  A name that ends in `-text` or `-emoji` asks for the plain or the
coloured form of the picture, which is a mark after it.

What stands between two colons without a blank is a name, whether or not a picture has it; a
name that no picture has stays as it is, and both of its colons are used up.  In `a:b:c:`, the
last colon therefore closes nothing.
-/

namespace GraphMapper.Emoji

/-- Words in pairs. -/
def pairs : List (List Char) → List (List Char × List Char)
  | name :: picture :: rest => (name, picture) :: pairs rest
  | _ => []

/-- All names, each with its picture. -/
def pictures : List (List Char × List Char) := pairs (Text.words table.toList)

/-- The picture of a name, whatever its letter case. -/
def picture? (name : List Char) : Option (List Char) := pictures.lookup (Text.lower name)

/-- The endings of a name that ask for a form, with the mark of the form. -/
def forms : List (List Char × Char) :=
  [("-emoji".toList, Char.ofNat 0xFE0F), ("-text".toList, Char.ofNat 0xFE0E)]

/-- A name without the ending that asks for a form, and the mark of that form. -/
def splitForm (written : List Char) : List Char × List Char :=
  match forms.find? fun form => form.1.isSuffixOf written with
  | some (ending, mark) => (written.take (written.length - ending.length), [mark])
  | none => (written, [])

/-- What stands for a name between colons. -/
def shown (written : List Char) : List Char :=
  let (name, mark) := splitForm written
  match picture? name with
  | some picture => picture ++ mark
  | none => ':' :: written ++ [':']

/-- The name that begins after a colon and ends at the next one, and what is left. -/
def readName (s : List Char) : Option (List Char × List Char) :=
  let name := s.takeWhile fun c => c != ':' && !Text.isBlank c
  match s.drop name.length with
  | ':' :: rest => some (name, rest)
  | _ => none

theorem length_of_readName {s name rest : List Char} (h : readName s = some (name, rest)) :
    rest.length < s.length := by
  simp only [readName] at h
  split at h
  · rename_i heq
    obtain ⟨rfl, rfl⟩ := by simpa using h
    have := congrArg List.length heq
    simp only [List.length_drop, List.length_cons] at this
    omega
  · simp at h

/-- A text with its names replaced by pictures. -/
def replace : List Char → List Char
  | [] => []
  | c :: rest =>
    if c = ':' then
      match _ : readName rest with
      | some (name, after) => shown name ++ replace after
      | none => c :: replace rest
    else c :: replace rest
termination_by s => s.length
decreasing_by
  · have := length_of_readName ‹_›
    simp only [List.length_cons]
    omega
  · simp
  · simp

end GraphMapper.Emoji
