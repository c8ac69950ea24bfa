import EntityLink.Code.Grammar.Basic

/-!
# Attributes

An attribute is a path in square brackets after `#`, perhaps with tokens in
brackets or a value.  It stands before what it is about, or with an exclamation
mark inside it.
-/

namespace EntityLink.Code.Grammar

variable (grammar : Grammar)

def plainPath : Rule :=
  let segment : Rule := do
    if (← get).startsSegment then anyWord else failure
  allow "::" ++ segment ++ repeated (·.starts "::") (expect "::" ++ segment)

/-- The rule for what stands in the brackets of an attribute. -/
def attributeContent : Rule := do
  let path ← if (← get).startsWord ["unsafe"] then anyWord else plainPath
  let ahead ← get
  if ahead.startsAnyGroup then return path ++ (← anyGroup)
  else if ahead.starts "=" && !ahead.startsAny ["==", "=>"] then
    let equals ← expect "="
    let ahead ← get
    if ahead.starts "#" && ahead.afterFirst.startsGroup .square then failure
    else return path ++ equals ++ (← grammar.expressionRule)
  else return path

/-- The rule for attributes before what they are about. -/
def outerAttributes : Rule :=
  repeated (·.starts "#")
    (expect "#" ++ inGroup .square (attributeContent grammar))

/-- The rule for attributes inside what they are about. -/
def innerAttributes : Rule :=
  repeated (fun ahead => ahead.starts "#" && ahead.afterFirst.starts "!")
    (expect "#" ++ expect "!" ++ inGroup .square (attributeContent grammar))

def attributedBlock : Rule :=
  inGroup .curly (innerAttributes grammar ++ grammar.statements)

end EntityLink.Code.Grammar
