import Tabular.Text.Property.Age
import Tabular.Text.Property.Binary
import Tabular.Text.Property.Category
import Tabular.Text.Property.Script
import Tabular.Text.Property.Segmentation

set_option autoImplicit false

/-! # Looking up properties of characters

A set of characters is named by a binary property, a general category or a script, or by a pair of
a property and its value: a category, a script, an age or a kind of boundary. Names are compared
loosely: case, spaces, underscores, hyphens and a leading `is` do not count.
-/

namespace Tabular.Property

/-- The set in which a list of named sets keeps a loose name. -/
def findNamed (sets : List (List String × CodeSet)) (name : String) : Option CodeSet :=
  (sets.find? (·.1.contains name)).map (·.2)

/-- The loose form of a name. The name `isc` keeps its first two letters, since what is left
without them would name something else. -/
def looseName (name : List Char) : String :=
  let significant (cs : List Char) : List Char :=
    (cs.filter fun c => c.toNat < 128 && c != ' ' && c != '_' && c != '-').map Char.toLower
  match name with
  | a :: b :: rest =>
    if a.toLower = 'i' ∧ b.toLower = 's' then
      if significant rest = ['c'] then "isc" else String.ofList (significant rest)
    else String.ofList (significant name)
  | _ => String.ofList (significant name)

/-- Every code point. -/
def any : CodeSet := ⟨[(0, 0x10FFFF)]⟩

/-- The code points of ASCII. -/
def ascii : CodeSet := ⟨[(0, 0x7F)]⟩

/-- The assigned code points. -/
def assigned : CodeSet :=
  .unionAll [letter, mark, numeric, punctuation, symbol, separator, control, format, privateUse]

/-- The set of a general category, or of one of three wider sets. -/
def category? (name : String) : Option CodeSet :=
  if name = "any" then some any
  else if name = "ascii" then some ascii
  else if name = "assigned" then some assigned
  else findNamed categories name

/-- The script with a name. -/
def script? (name : String) : Option Script := scripts.find? (·.names.contains name)

/-- The set that a single name stands for. A few names of categories would also abbreviate other
properties; they stand for the category. -/
def ofName? (name : List Char) : Option CodeSet :=
  let name := looseName name
  let isCategory := name = "cf" ∨ name = "sc" ∨ name = "lc"
  (if isCategory then none else findNamed binaryProperties name)
    <|> category? name
    <|> (script? name).map (·.members)

/-- The set of the characters for which a property has a value. -/
def ofValue? (property value : List Char) : Option CodeSet :=
  let property := looseName property
  let value := looseName value
  if property = "gc" ∨ property = "generalcategory" then category? value
  else if property = "sc" ∨ property = "script" then (script? value).map (·.members)
  else if property = "scx" ∨ property = "scriptextensions" then
    (script? value).map fun s => s.extension.getD s.members
  else if property = "age" then assignedBy? value
  else if property = "gcb" ∨ property = "graphemeclusterbreak" then findNamed graphemeBreaks value
  else if property = "wb" ∨ property = "wordbreak" then findNamed wordBreaks value
  else if property = "sb" ∨ property = "sentencebreak" then findNamed sentenceBreaks value
  else none

/-- The characters of words: letters, marks, digits, connectors and join controls. -/
def wordCharacter : CodeSet :=
  .unionAll [alphabetic, mark, decimalNumber, connectorPunctuation, joinControl]

/-- Characters that count as letters or numbers of any kind. -/
def alphanumeric : CodeSet := .unionAll [alphabetic, numeric]

end Tabular.Property
