import EntityLink.Code.Grammar.Declaration

/-!
# Items inside code

A block may declare items: functions, constants, types, traits and their
implementations, modules, and names from elsewhere.  Some forms are read but
have no written form of their own; they keep the tokens as they are.
-/

namespace EntityLink.Code.Grammar

/-- Reads a declaration and says how it is written, if it has a written form of
its own. -/
abbrev Declared : Type := Reader (Option Tokens)

variable (grammar : Grammar)

/-- The rule for a declaration with its attributes, given its reader. -/
def attributed (reader : Declared) : Rule := do
  let before ← get
  let attributes ← outerAttributes grammar
  match ← reader with
  | some tokens => return attributes ++ tokens
  | none =>
      let after ← get
      return before.take (before.length - after.length)

/-- The rule for declarations in curly brackets, given the rule for one. -/
def members (declaration : Rule) : Rule :=
  inGroup .curly (innerAttributes grammar ++ repeated (!·.isEmpty) declaration)

/-- What the path of a name from elsewhere looks like, and whether a path inside
it starts at the top. -/
abbrev UseTree : Type := Reader (Tokens × Bool)

private def useTreeUpTo (allowTop : Bool) : Nat → UseTree
  | 0 => failure
  | limit + 1 => do
      let ahead ← get
      if ahead.startsName ||
          ahead.startsWord ["self", "super", "crate", "try"] then
        let name ← anyWord
        let ahead ← get
        if ahead.starts "::" then
          let colons ← expect "::"
          let (rest, _) ← useTreeUpTo false limit
          return (name ++ colons ++ rest, false)
        else if ahead.startsWord ["as"] then
          let keyword ← anyWord
          let renamed ← if (← get).startsWord ["_"] then anyWord else readName
          return (name ++ keyword ++ renamed, false)
        else return (name, false)
      else if ahead.starts "*" then return (← expect "*", false)
      else
        let trees ← within .curly (punctuated List.isEmpty (do
          let top ← if allowTop then allow "::" else nothing
          let (tree, hasTop) ← useTreeUpTo (allowTop && top.isEmpty) limit
          return (top ++ tree, hasTop || !top.isEmpty)))
        let written := trees.flatMap fun ((tree, _), hasComma) =>
          tree ++ if hasComma then mark ',' else []
        return (curly written, trees.any fun tree => tree.1.2)

/-- Reads the declaration of names from elsewhere. -/
def useItem : Declared := do
  let lead ← expectWord ["use"] ++ allow "::"
  let (tree, hasTop) ←
    useTreeUpTo (lead.length = 1) ((← get).length + Token.countAll (← get) + 1)
  let stop ← expect ";"
  return if hasTop then none else some (lead ++ tree ++ stop)

/-- The rule for a library from elsewhere. -/
def externItem : Rule := do
  let keywords ← expectWord ["extern"] ++ expectWord ["crate"]
  let name ← if (← get).startsWord ["self"] then anyWord else readName
  let renamed ← ifAhead (·.startsWord ["as"]) (anyWord ++ do
    if (← get).startsWord ["_"] then anyWord else readName)
  return keywords ++ name ++ renamed ++ (← expect ";")

/-- Says whether a path is ahead that a call of a macro may start with. -/
def startsMacroPath (ahead : Tokens) : Bool :=
  ahead.startsName || ahead.startsWord ["self", "super", "crate"] ||
    ahead.starts "::"

/-- The rule for a call of a macro that declares something, perhaps with a
name. -/
def macroItem (allowName : Bool) : Rule := do
  let path ← plainPath ++ expect "!"
  let name ← ifAhead
    (fun ahead => allowName &&
      (ahead.startsName || ahead.startsWord ["try"])) anyWord
  let isCurly := (← get).startsGroup .curly
  return path ++ name ++ (← anyGroup) ++
    (← if isCurly then nothing else expect ";")

/-- Reads a function.  One without a body has no written form. -/
def functionItem : Declared := do
  let head ← signature grammar
  if (← get).starts ";" then
    let _ ← expect ";"
    return none
  else return some (head ++ (← attributedBlock grammar))

def staticItem : Declared := do
  let name ← expectWord ["static"] ++ allowWord "mut" ++ readName
  if (← get).starts "=" then
    let _ ← expect "=" ++ grammar.expressionRule ++ expect ";"
    return none
  else
    let type ← expect ":" ++ grammar.typeRule
    if (← get).starts ";" then
      let _ ← expect ";"
      return none
    else
      return some (name ++ type ++
        (← expect "=" ++ grammar.expressionRule ++ expect ";"))

/-- Reads a constant.  One with parameters or bounds has no written form; one
without a value only where that is allowed. -/
def constItem (allowNoValue : Bool) : Declared := do
  let keyword ← expectWord ["const"]
  let name ← if (← get).startsWord ["_"] then anyWord else readName
  let hasParameters := (← get).starts "<"
  let _ ← itemParameters grammar
  let type ← expect ":" ++ grammar.typeRule
  let value ← ifAhead (·.starts "=") (expect "=" ++ grammar.expressionRule)
  let hasBounds := (← get).startsWord ["where"]
  let _ ← whereClause grammar
  let stop ← expect ";"
  if hasParameters || hasBounds || (value.isEmpty && !allowNoValue) then
    return none
  else return some (keyword ++ name ++ type ++ value ++ stop)

/-- A declaration of a type by a name that was read. -/
structure TypeDeclaration where
  name : Tokens
  bounds : Tokens
  hasColon : Bool
  conditions : Tokens
  value : Tokens

/-- Where the conditions of a declared type stand. -/
inductive ConditionPlace where
  | beforeValue
  | afterValue
  | anywhere
  deriving DecidableEq

/-- Reads the declaration of a type by a name. -/
def typeDeclaration (place : ConditionPlace) : Reader TypeDeclaration := do
  let name ← expectWord ["type"] ++ readName ++ itemParameters grammar
  let colon ← allow ":"
  let stops (ahead : Tokens) : Bool :=
    ahead.startsWord ["where"] || ahead.startsAny ["=", ";"]
  let bounds ← if colon.isEmpty then nothing
    else sumUntil stops grammar.nameBound
  if !stops (← get) then failure
  let before ← if place = .afterValue then nothing else whereClause grammar
  let value ← ifAhead (·.starts "=") (expect "=" ++ grammar.typeRule)
  let after ← if place = .beforeValue || !before.isEmpty then nothing
    else whereClause grammar
  let _ ← expect ";"
  return ⟨name, if bounds.isEmpty then [] else colon ++ bounds, !colon.isEmpty,
    before ++ after, value⟩

def typeItem : Declared := do
  let type ← typeDeclaration grammar .beforeValue
  if type.hasColon || type.value.isEmpty then return none
  else return some (type.name ++ type.conditions ++ type.value ++ mark ';')

def structItem : Rule :=
  expectWord ["struct"] ++ readName ++ itemParameters grammar ++
    structFields grammar

def enumItem : Rule :=
  expectWord ["enum"] ++ readName ++ itemParameters grammar ++
    whereClause grammar ++
    inGroup .curly (list (variant grammar))

/-- The rule for a structure whose fields share their place. -/
def unionItem : Rule :=
  expectWord ["union"] ++ readName ++ itemParameters grammar ++
    whereClause grammar ++
    namedFields grammar

def moduleItem : Rule := do
  let keyword ← allowWord "unsafe" ++ expectWord ["mod"]
  let name ← if (← get).startsWord ["try"] then anyWord else readName
  let content ← if (← get).starts ";" then expect ";"
    else members grammar grammar.item
  return keyword ++ name ++ content

/-- Reads a member of a trait, after its attributes.  One that says who may use
it, or that it may be replaced, has no written form. -/
def traitMember : Declared := do
  let isQualified := (← get).startsWord ["pub", "default"]
  let _ ← visibility ++ allowWord "default"
  let ahead ← get
  let declared ←
    if startsFunction ahead then do
      let head ← signature grammar
      let body ← if (← get).starts ";" then expect ";"
        else attributedBlock grammar
      pure (some (head ++ body))
    else if ahead.startsWord ["const"] then constItem grammar true
    else if ahead.startsWord ["type"] then do
      let type ← typeDeclaration grammar .afterValue
      pure (some (type.name ++ type.bounds ++ type.value ++
        type.conditions ++ mark ';'))
    else if !isQualified && startsMacroPath ahead then some <$> macroItem false
    else failure
  return if isQualified then none else declared

/-- Reads a member of an implementation, after its attributes. -/
def implMember : Declared := do
  let visible ← visibility
  let ahead ← get
  let default ← ifAhead
    (fun ahead => ahead.startsWord ["default"] &&
      !ahead.afterFirst.starts "!") anyWord
  let lead := visible ++ default
  let ahead := if default.isEmpty then ahead else ahead.drop 1
  let declared ←
    if startsFunction ahead then functionItem grammar
    else if ahead.startsWord ["const"] then constItem grammar false
    else if ahead.startsWord ["type"] then do
      let type ← typeDeclaration grammar .afterValue
      pure (if type.hasColon || type.value.isEmpty then none
        else some (type.name ++ type.value ++ type.conditions ++ mark ';'))
    else if lead.isEmpty && startsMacroPath ahead then some <$> macroItem false
    else failure
  return declared.map (lead ++ ·)

private def traitStops (isAlias : Bool) (ahead : Tokens) : Bool :=
  ahead.startsWord ["where"] ||
    if isAlias then ahead.starts ";" else ahead.startsGroup .curly

/-- The rule for a trait, or another name for bounds. -/
def traitItem : Rule := do
  let isMarked := (← get).startsWord ["unsafe", "auto"]
  let head ← allowWord "unsafe" ++ allowWord "auto" ++ expectWord ["trait"] ++
    readName ++
    itemParameters grammar
  if !isMarked && (← get).starts "=" then
    let bounds ← expect "=" ++ sumUntil (traitStops true) grammar.nameBound
    return head ++ bounds ++ (← whereClause grammar ++ expect ";")
  else
    let colon ← allow ":"
    let bounds ← if colon.isEmpty then nothing
      else sumUntil (traitStops false) grammar.nameBound
    return head ++ (if bounds.isEmpty then [] else colon ++ bounds) ++
      (← whereClause grammar ++
        members grammar (attributed grammar (traitMember grammar)))

/-- Says whether parameters are ahead rather than a path below a type. -/
def startsParameters (ahead : Tokens) : Bool :=
  let next := ahead.afterFirst
  let last := ahead.afterSecond
  ahead.starts "<" && (next.startsAny [">", "#"] || next.startsWord ["const"] ||
    ((next.startsLifetime || next.startsName) &&
      (last.startsAny [">", ",", "="] ||
        (last.starts ":" && !last.starts "::"))))

/-- Reads an implementation, after who may use it.  One that says so, one for
constants, and one of a trait that is no path have no written form. -/
def implItem (isVisible : Bool) : Declared := do
  let head ← allowWord "default" ++ allowWord "unsafe" ++ expectWord ["impl"] ++
    ifAhead startsParameters (itemParameters grammar)
  let ahead ← get
  let isConst := ahead.startsWord ["const"] ||
    (ahead.starts "?" && ahead.afterFirst.startsWord ["const"])
  if isConst then
    let _ ← allow "?" ++ expectWord ["const"]
  let before ← get
  let polarity ← ifAhead
    (fun ahead => ahead.starts "!" && !ahead.afterFirst.startsGroup .curly)
    (expect "!")
  let first ← grammar.type true
  let after ← get
  let isOfTrait := after.startsWord ["for"]
  let isPath := match first.shape with
    | .name | .path => true
    | _ => false
  let types ←
    if isOfTrait then do
      let keyword ← anyWord
      pure (polarity ++ first.tokens ++ keyword ++ (← grammar.typeRule))
    else if polarity.isEmpty then pure first.tokens
    else pure (before.take (before.length - after.length))
  let rest ← whereClause grammar ++
    members grammar (attributed grammar (implMember grammar))
  return if isVisible || isConst || (isOfTrait && !isPath) then none
    else some (head ++ types ++ rest)

/-- Reads an item of another language, after its attributes. -/
def foreignMember : Declared := do
  let visible ← visibility
  let ahead ← get
  let isSafe := ahead.startsWord ["safe"] &&
    (ahead.afterFirst.startsWord ["static"] || startsFunction (ahead.drop 1))
  let _ ← ifAhead (fun _ => isSafe) anyWord
  let rest ← get
  if startsFunction rest then
    let head ← signature grammar
    let isPlain := (← get).starts ";"
    let body ← if isPlain then expect ";" else attributedBlock grammar
    return if isPlain && !isSafe then some (visible ++ head ++ body) else none
  else if rest.startsWord ["static"] ||
      (rest.startsWord ["unsafe"] && rest.afterFirst.startsWord ["static"]) then
    let guard ← allowWord "unsafe"
    let name ←
      expectWord ["static"] ++ allowWord "mut" ++ readName ++ expect ":" ++
      grammar.typeRule
    let value ← ifAhead (·.starts "=") (expect "=" ++ grammar.expressionRule)
    let stop ← expect ";"
    return if isSafe || !guard.isEmpty || !value.isEmpty then none
      else some (visible ++ name ++ stop)
  else if rest.startsWord ["type"] then
    let type ← typeDeclaration grammar .anywhere
    return if type.hasColon || !type.value.isEmpty then none
      else some (visible ++ type.name ++ type.conditions ++ mark ';')
  else if visible.isEmpty && startsMacroPath rest then some <$> macroItem false
  else failure

/-- The rule for items of another language. -/
def foreignItems : Rule :=
  allowWord "unsafe" ++
    (do if (← get).startsWord ["extern"] then convention else failure) ++
    members grammar (attributed grammar (foreignMember grammar))

/-- Reads a macro that is declared like a function. -/
def macroDeclaration : Declared := do
  let _ ←
    expectWord ["macro"] ++ readName ++ ifAhead (·.startsGroup .round) anyGroup
  if (← get).startsGroup .curly then
    let _ ← anyGroup
    return none
  else failure

/-- Reads an item, after its attributes. -/
def readItem : Declared := do
  let visible ← visibility
  let ahead ← get
  let next := ahead.afterFirst
  let shown (rule : Rule) : Declared := do return some (visible ++ (← rule))
  let visibly (reader : Declared) : Declared := do
    return (← reader).map (visible ++ ·)
  if startsFunction ahead then visibly (functionItem grammar)
  else if ahead.startsWord ["extern"] && next.startsWord ["crate"] then
    shown externItem
  else if ahead.startsWord ["extern"] ||
      (ahead.startsWord ["unsafe"] && next.startsWord ["extern"]) then
    if visible.isEmpty then some <$> foreignItems grammar else failure
  else if ahead.startsWord ["use"] then visibly useItem
  else if ahead.startsWord ["static"] then visibly (staticItem grammar)
  else if ahead.startsWord ["const"] then visibly (constItem grammar false)
  else if ahead.startsWord ["mod"] ||
      (ahead.startsWord ["unsafe"] && next.startsWord ["mod"]) then
    shown (moduleItem grammar)
  else if ahead.startsWord ["type"] then visibly (typeItem grammar)
  else if ahead.startsWord ["struct"] then shown (structItem grammar)
  else if ahead.startsWord ["enum"] then shown (enumItem grammar)
  else if ahead.startsWord ["union"] && next.startsName then
    shown (unionItem grammar)
  else if ahead.startsWord ["trait"] ||
      (ahead.startsWord ["auto"] && next.startsWord ["trait"]) ||
      (ahead.startsWord ["unsafe"] && (next.startsWord ["trait"] ||
        (next.startsWord ["auto"] &&
          ahead.afterSecond.startsWord ["trait"]))) then
    shown (traitItem grammar)
  else if ahead.startsWord ["impl"] ||
      (ahead.startsWord ["unsafe"] && next.startsWord ["impl"]) ||
      (ahead.startsWord ["default"] && !next.starts "!") then
    implItem grammar (!visible.isEmpty)
  else if ahead.startsWord ["macro"] then macroDeclaration
  else if visible.isEmpty && startsMacroPath ahead then some <$> macroItem true
  else failure

end EntityLink.Code.Grammar
