import EntityLink.BuildError
import EntityLink.Code.Token
import EntityLink.Text.IdentifierChar
import EntityLink.Text.Letter

/-!
# Identifiers of generated code

A name becomes an identifier after two checks.  The first asks for letters,
digits and underscores of any script and answers with an error; the second asks
for the characters that identifiers may really have, and generation breaks off
when it fails.
-/

namespace EntityLink

/-- How the generation of code ends without a result. -/
inductive GenerationFailure where
  | build (error : BuildError)
  /-- A name passed the check of its letters and digits but is no identifier. -/
  | brokenOff (name : String)
  deriving DecidableEq, Inhabited

namespace Code

/-- Says whether a name starts with a letter or underscore and goes on with
letters, digits and underscores. -/
def looksLikeName (name : String) : Bool :=
  match name.toList with
  | [] => false
  | first :: rest =>
      (first == '_' || Text.isLetter first) &&
        rest.all fun character => character == '_' ||
          Text.isLetterOrDigit character

/-- Makes an identifier of a name. -/
def identifier (name : String) : Except GenerationFailure Token :=
  if !looksLikeName name then .error (.build (.invalidPath name))
  else if !Text.isIdentifier name then .error (.brokenOff name)
  else .ok (.word name)

end Code

end EntityLink
