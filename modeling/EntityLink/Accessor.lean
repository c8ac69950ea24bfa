import EntityLink.Text.Words

/-!
# Names of accessors

How accessors are named after fields, and how the field that a getter reads is
told from the getter's name.
-/

namespace EntityLink.Accessor

def setterName (field : String) : String :=
  "set_" ++ Text.snakeCase field

def getterName (field : String) : String :=
  Text.snakeCase field

def relationConst (reference : String) : String :=
  Text.constantCase reference ++ "_RELATION"

/-- What follows a first part of a text, if the text starts with it. -/
def rest? (first text : String) : Option String :=
  let first := first.toList
  let text := text.toList
  if text.take first.length == first then
    some (String.ofList (text.drop first.length))
  else none

/-- The field that a method reads if its name is that of a getter: the given
first part and a name, or `get` and a name with a capital. -/
def getterProperty? (first method : String) : Option String :=
  match (rest? first method).filter (· != "") with
  | some name => some (Text.snakeCase name)
  | none =>
      ((rest? "get" method).filter fun name =>
        (name.toList.head?.map Text.isUpperCase).getD false).map Text.snakeCase

end EntityLink.Accessor
