import EntityLink.Code.Grammar.Pattern

/-!
# Parts of declarations

Items share how they say who may use them, which parameters they take, which
bounds hold for these, and which fields a structure has.
-/

namespace EntityLink.Code.Grammar

/-- Takes the tokens in front of an item that say who may use it, if there are
any.  A group that could be the type of a field is none of them. -/
def visibility : Rule := do
  if !(← get).startsWord ["pub"] then nothing
  else
    let keyword ← anyWord
    match ← get with
    | .group .round inner :: _ =>
        if Tokens.startsWord inner ["crate", "self", "super"] &&
            inner.length = 1 then
          return keyword ++ (← anyGroup)
        else if Tokens.startsWord inner ["in"] then
          return keyword ++ (← inGroup .round (anyWord ++ plainPath))
        else return keyword
    | _ => return keyword

variable (grammar : Grammar)

def itemParameter : Reader WrittenArgument := do
  let attributes ← outerAttributes grammar
  let ahead ← get
  if ahead.startsLifetime then
    return ⟨true, attributes ++ (← lifetimeParameter)⟩
  else if ahead.startsName then
    return ⟨false, attributes ++ (← typeParameter grammar)⟩
  else if ahead.startsWord ["_"] then return ⟨false, attributes ++ (← anyWord)⟩
  else return ⟨false, attributes ++ (← constantParameter grammar)⟩

def itemParameters : Rule := do
  if (← get).starts "<" then
    let less ← expect "<"
    let parameters ← punctuated (·.starts ">") (itemParameter grammar)
    let greater ← expect ">"
    return if parameters.isEmpty then []
      else less ++ lifetimesFirst parameters ++ greater
  else return []

private def endsBounds (ahead : Tokens) : Bool :=
  ahead.isEmpty || ahead.startsGroup .curly ||
    ahead.startsAny [",", ";", "="] ||
    (ahead.starts ":" && !ahead.starts "::")

/-- The rule for bounds that hold for a lifetime or type. -/
def predicate : Rule := do
  let ahead ← get
  if ahead.startsLifetime && ahead.afterFirst.starts ":" then
    lifetime ++ expect ":" ++ sumUntil endsBounds lifetime
  else
    binder grammar ++ grammar.typeRule ++ expect ":" ++
      sumUntil endsBounds grammar.nameBound

private def predicatesUpTo : Nat → Rule
  | 0 => failure
  | limit + 1 => ifAhead (!endsBounds ·)
      (predicate grammar ++
        ifAhead (·.starts ",") (expect "," ++ predicatesUpTo limit))

/-- The rule for a list of bounds that have to hold, if there is one. -/
def whereClause : Rule := do
  if (← get).startsWord ["where"] then
    let keyword ← anyWord
    let predicates ← predicatesUpTo grammar ((← get).length + 1)
    return if predicates.isEmpty then [] else keyword ++ predicates
  else return []

/-- The rule for fields with names, one of which may be `_`.  That one may hold
fields of its own, which are kept as they are written; they are nested no deeper
than the bound. -/
def namedFieldsUpTo : Nat → Rule
  | 0 => failure
  | bound + 1 => inGroup .curly (list (do
      let lead ← outerAttributes grammar ++ visibility
      if (← get).startsWord ["_"] then
        let name ← anyWord ++ expect ":"
        let ahead ← get
        if ahead.startsWord ["struct"] ||
            (ahead.startsWord ["union"] &&
              ahead.afterFirst.startsGroup .curly) then
          return lead ++ name ++ (← verbatim (anyWord ++ namedFieldsUpTo bound))
        else return lead ++ name ++ (← grammar.typeRule)
      else return lead ++ (← readName ++ expect ":" ++ grammar.typeRule)))

def namedFields : Rule := do
  namedFieldsUpTo grammar (Token.countAll (← get) + 1)

def unnamedFields : Rule :=
  inGroup .round
    (list (outerAttributes grammar ++ visibility ++ grammar.typeRule))

/-- The rule for the fields of a structure, and the end of its declaration. -/
def structFields : Rule := do
  let bounds ← whereClause grammar
  let ahead ← get
  if bounds.isEmpty && ahead.startsGroup .round then
    unnamedFields grammar ++ whereClause grammar ++ expect ";"
  else if ahead.startsGroup .curly then return bounds ++ (← namedFields grammar)
  else return bounds ++ (← expect ";")

/-- The rule for a variant of an enumeration.  Who may use it is not written. -/
def variant : Rule := do
  let attributes ← outerAttributes grammar
  let _ ← visibility
  let name ← readName
  let ahead ← get
  let fields ←
    if ahead.startsGroup .curly then namedFields grammar
    else if ahead.startsGroup .round then unnamedFields grammar
    else nothing
  return attributes ++ name ++ fields ++
    (← ifAhead (·.starts "=") (expect "=" ++ grammar.expressionRule))

/-- Drops what may stand before the keyword of a function. -/
def afterQualifiers (ahead : Tokens) : Tokens :=
  let drop (text : String) (tokens : Tokens) : Tokens :=
    if tokens.startsWord [text] then tokens.drop 1 else tokens
  let rest : Tokens := drop "unsafe" (drop "async" (drop "const" ahead))
  if rest.startsWord ["extern"] then
    match rest.drop 1 with
    | .literal text :: tokens =>
        if Literal.isText text then tokens else rest.drop 1
    | tokens => tokens
  else rest

def startsFunction (ahead : Tokens) : Bool :=
  (afterQualifiers ahead).startsWord ["fn"]

private def startsObject (ahead : Tokens) : Bool :=
  let isReference := ahead.starts "&"
  let rest : Tokens := if isReference then ahead.drop 1 else ahead
  let rest : Tokens :=
    if isReference && rest.startsLifetime then rest.drop 2 else rest
  let rest : Tokens := if rest.startsWord ["mut"] then rest.drop 1 else rest
  rest.startsWord ["self"] && (isReference || !rest.afterFirst.starts "::")

/-- The rule for the object that a method is called on. -/
def object : Rule := do
  let reference ← ifAhead (·.starts "&")
    (expect "&" ++ ifAhead Tokens.startsLifetime lifetime)
  let name ← allowWord "mut" ++ expectWord ["self"]
  let type ← ifAhead (fun ahead => reference.isEmpty && ahead.starts ":")
    (expect ":" ++ grammar.typeRule)
  return reference ++ name ++ type

private def argumentsUpTo (isFirst : Bool) : Nat → Rule
  | 0 => failure
  | limit + 1 => do
      if (← get).isEmpty then return []
      let attributes ← outerAttributes grammar
      let variadic : Rule := expect "..." ++ ifAhead (!·.isEmpty) (expect ",")
      let next : Rule :=
        ifAhead (!·.isEmpty) (expect "," ++ argumentsUpTo false limit)
      let ahead ← get
      if ahead.starts "..." then return attributes ++ (← variadic)
      else if startsObject ahead then
        if isFirst then return attributes ++ (← object grammar) ++ (← next)
        else failure
      else if ahead.startsName && ahead.afterFirst.starts "<" then
        return attributes ++ word "_" ++ mark ':' ++
          (← grammar.typeRule) ++ (← next)
      else
        let pattern ← grammar.patternRule ++ expect ":"
        if (← get).starts "..." then
          return attributes ++ pattern ++ (← variadic)
        else return attributes ++ pattern ++ (← grammar.typeRule) ++ (← next)

def signature : Rule :=
  allowWord "const" ++ allowWord "async" ++ allowWord "unsafe" ++ convention ++
    expectWord ["fn"] ++ readName ++ itemParameters grammar ++
    inGroup .round (do argumentsUpTo grammar true ((← get).length + 1)) ++
    ifAhead (·.starts "->") (expect "->" ++ grammar.typeRule) ++
    whereClause grammar

end EntityLink.Code.Grammar
