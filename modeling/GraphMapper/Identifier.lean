import GraphMapper.Fault

/-!
# Identifiers

Labels, property names and relationship types cannot be parameters of a statement, so they
are written into its text, and a name that is written into a text must not be able to end the
place where it stands.  The rule is an allow-list: a letter or an underscore of the basic Latin
alphabet, then letters, digits and underscores.

## The end of a name

The rule looks at a name line by line and has only its first line to itself: one line feed at
the very end is let through, and it stays part of the name.  `isName` is the intended rule,
`isIdentifier` the one that is applied; they differ on exactly those names.
-/

namespace GraphMapper

/-- A character that can begin a name. -/
def isNameStart (c : Char) : Bool := c.isAlpha || c == '_'

/-- A character that can continue a name. -/
def isNameChar (c : Char) : Bool := c.isAlphanum || c == '_'

/-- A plain name: a start, then name characters only. -/
def isName : List Char → Bool
  | [] => false
  | c :: rest => isNameStart c && rest.all isNameChar

/-- A text without one line feed at its end. -/
def dropFinalLineFeed (s : List Char) : List Char :=
  if s.getLast? = some '\n' then s.dropLast else s

/-- Whether a text is accepted where a name is written into a statement. -/
def isIdentifier (s : String) : Bool := isName (dropFinalLineFeed s.toList)

/-- The name that a value is, in the given role. -/
def identifier (role : String) : Value → Except Fault String
  | .text s => if isIdentifier s then .ok s else .error (.invalidIdentifier role (.text s))
  | v => .error (.invalidIdentifier role v)

theorem identifier_text (role s : String) :
    identifier role (.text s) =
      if isIdentifier s then .ok s else .error (.invalidIdentifier role (.text s)) := rfl

/-- The names that values are, up to the first that is none. -/
def identifiers (role : String) : List Value → Except Fault (List String)
  | [] => .ok []
  | v :: rest => do
    let name ← identifier role v
    let names ← identifiers role rest
    return name :: names

/-- The roles that names play in a statement. -/
def labelRole : String := "label"

@[inherit_doc labelRole] def fieldRole : String := "field name"

@[inherit_doc labelRole] def propertyRole : String := "property name"

@[inherit_doc labelRole] def attributeRole : String := "attribute name"

@[inherit_doc labelRole] def relationshipRole : String := "relationship type"

/-- The name of the property that identifies a node in the store. -/
def identityKey : String := "id"

end GraphMapper
