import Nmea.Declaration.Grammar.Function

/-!
# Definitions

Statements may define functions, constants, types and whatever else a declaration could stand
beside. Each definition begins with a word of its own, perhaps behind others that say where and how
it can be used.
-/

namespace Nmea.Declaration.Grammar

/-! ### Visibility -/

/-- Takes a word that makes a definition visible, and the place in parentheses up to which it does,
if they come next. It tells whether. -/
def tryVisibility : Scan Bool := do
  let visible ← tryWord "pub"
  if visible then
    match ← get with
    | .group .round inner :: rest =>
      if atOneOf ["crate", "self", "super"] inner then
        if (pass inner).isEmpty then set rest
      else if atWord "in" inner then
        let _ ← within (pass inner) takePlainPath
        set rest
    | _ => pure ()
  pure visible

/-! ### Values -/

/-- Takes a constant behind its word. Only with a type it can be without a value. -/
def constantDefinition (g : Grammar) : Scan Unit := do
  takeIf fun ts => atName ts || atWord "_" ts
  parameters g
  takeMark ":"
  g.take (.type true)
  if ← tryMark "=" then g.take (.expression true)
  conditions g
  takeMark ";"

/-- Takes a variable behind its word. It needs a type or a value. -/
def variableDefinition (g : Grammar) : Scan Unit := do
  let _ ← tryWord "mut"
  takeName
  if !(← ask (atMark "=")) then
    takeMark ":"
    g.take (.type true)
  if ← tryMark "=" then g.take (.expression true)
  takeMark ";"

/-! ### Types -/

/-- Takes a type with a name behind its word, perhaps with bounds and with what it is. Conditions
stand in front of what it is, or behind it. -/
def typeDefinition (g : Grammar) (before behind : Bool) : Scan Unit := do
  takeName
  parameters g
  if ← tryMark ":" then
    boundsUntil g fun ts => atWord "where" ts || atMark "=" ts || atMark ";" ts
  let early := before && atWord "where" (← get)
  if early then conditions g
  if ← tryMark "=" then g.take (.type true)
  if behind && !early then conditions g
  takeMark ";"

/-- Takes a part with its name and its type. A part without a name can be a structure itself. -/
def namedPart (g : Grammar) : Scan Unit := do
  let _ ← outerAttributes g
  let _ ← tryVisibility
  let unnamed ← tryWord "_"
  if !unnamed then takeName
  takeMark ":"
  let ts ← get
  if unnamed && (atWord "struct" ts || followed (atWord "union") (atGroup .curly) ts) then
    set (pass ts)
    g.take .namedParts
  else g.take (.type true)

/-- Takes the parts of a structure with their names and types, in braces. -/
def namedParts (g : Grammar) : Scan Shape := do
  let _ ← inGroup .curly (listed (namedPart g))
  pure .plain

/-- Takes the parts of a structure without names, in parentheses. -/
def unnamedParts (g : Grammar) : Scan Unit := do
  let _ ← inGroup .round <| listed do
    let _ ← outerAttributes g
    let _ ← tryVisibility
    g.take (.type true)

/-- Takes a structure behind its word. -/
def structureDefinition (g : Grammar) : Scan Unit := do
  takeName
  parameters g
  let conditional ← ask (atWord "where")
  conditions g
  let ts ← get
  if !conditional && atGroup .round ts then
    unnamedParts g
    conditions g
    takeMark ";"
  else if atGroup .curly ts then g.take .namedParts
  else takeMark ";"

/-- Takes a case of an enumeration, perhaps with parts and a number. -/
def enumerationCase (g : Grammar) : Scan Unit := do
  let _ ← outerAttributes g
  let _ ← tryVisibility
  takeName
  let ts ← get
  if atGroup .curly ts then g.take .namedParts
  else if atGroup .round ts then unnamedParts g
  if ← tryMark "=" then g.take (.expression true)

/-- Takes an enumeration behind its word. -/
def enumerationDefinition (g : Grammar) : Scan Unit := do
  takeName
  parameters g
  conditions g
  let _ ← inGroup .curly (listed (enumerationCase g))

/-- Takes a union behind its word. -/
def unionDefinition (g : Grammar) : Scan Unit := do
  takeName
  parameters g
  conditions g
  g.take .namedParts

/-! ### Calls -/

/-- Takes a call that stands in place of a definition, perhaps with a name. It needs a semicolon
unless it has braces. -/
def calledDefinition (named : Bool) : Scan Unit := do
  let _ ← takePlainPath
  takeMark "!"
  if named then
    let _ ← tryIf fun ts => atWord "try" ts || atName ts
  let bracket ← takeAnyGroup
  if bracket != .curly then takeMark ";"

/-- Whether a call comes next that stands in place of a definition. -/
def atCalledDefinition : Ahead := fun ts =>
  atName ts || atOneOf ["self", "super", "crate"] ts || atMark "::" ts

/-- Takes a definition by a pattern of tokens, which are not looked into. -/
def patternDefinition : Scan Unit := do
  takeWord "macro"
  takeName
  if ← ask (atGroup .round) then
    let _ ← takeGroup .round
  let _ ← takeGroup .curly

/-! ### Members of types -/

/-- Takes words in front of a definition, and the definition behind them. -/
def behind (words : List String) (scan : Scan Unit) : Scan Unit := do
  for word in words do
    takeWord word
  scan

/-- Takes what stands in braces, attributes and definitions of one kind. -/
def definitions (g : Grammar) (one : Scan Unit) : Scan Unit :=
  inGroup .curly do
    innerAttributes g
    repeatUntil List.isEmpty one

/-- Takes a member of a type, which is required of it or, with `given`, given to it. -/
def member (g : Grammar) (given : Bool) : Scan Unit := do
  let _ ← outerAttributes g
  let visible ← tryVisibility
  let standard ← tryIf fun ts => atWord "default" ts && !(given && atMark "!" (pass ts))
  firstOf
    [(atSignature false, functionDefinition g false),
     (atWord "const", behind ["const"] (constantDefinition g)),
     (atWord "type", behind ["type"] (typeDefinition g false true)),
     (fun ts => !visible && !standard && atCalledDefinition ts, calledDefinition false)]

/-- Takes a definition of something that is found elsewhere. -/
def foreignMember (g : Grammar) : Scan Unit := do
  let _ ← outerAttributes g
  let visible ← tryVisibility
  firstOf
    [(atSignature true, functionDefinition g true),
     (fun ts => atWord "static" ts || followed (atOneOf ["unsafe", "safe"]) (atWord "static") ts, do
      let _ ← tryIf (atOneOf ["unsafe", "safe"])
      takeWord "static"
      let _ ← tryWord "mut"
      takeName
      takeMark ":"
      g.take (.type true)
      if ← tryMark "=" then g.take (.expression true)
      takeMark ";"),
     (atWord "type", behind ["type"] (typeDefinition g true true)),
     (fun ts => !visible && atCalledDefinition ts, calledDefinition false)]

/-- Takes what is required of types, behind its word. With `nameable`, it may be a name for some
bounds. -/
def requirementDefinition (g : Grammar) (nameable : Bool) : Scan Unit := do
  takeName
  parameters g
  let named ← if nameable then tryMark "=" else pure false
  if named then
    let stop : Ahead := fun ts => atWord "where" ts || atMark ";" ts
    let _ ← listUntil stop "+" (g.take (.bound false false))
    conditions g
    takeMark ";"
  else
    if ← tryMark ":" then boundsUntil g fun ts => atWord "where" ts || atGroup .curly ts
    conditions g
    definitions g (member g false)

/-- Takes what is given to a type, behind its word. What is required may be denied. -/
def givenDefinition (g : Grammar) : Scan Unit := do
  if ← ask atParameters then parameters g
  if ← ask (followed (atMark "?") (atWord "const")) then takeMark "?"
  let _ ← tryWord "const"
  let denied ← tryIf fun ts => atMark "!" ts && !atGroup .curly (pass ts)
  g.take (.type true)
  if ← tryWord "for" then g.take (.type true)
  else guard (!denied)
  conditions g
  definitions g (member g true)

/-! ### Modules -/

/-- Takes another name behind its word, if it comes next. -/
def tryRenaming : Scan Unit := do
  if ← tryWord "as" then takeIf fun ts => atName ts || atWord "_" ts

/-- Takes a tree of names to use. -/
def tree (g : Grammar) (rooted : Bool) : Scan Shape := do
  let ts ← get
  if atName ts || atOneOf ["self", "super", "crate", "try"] ts then
    set (pass ts)
    if ← tryMark "::" then g.take (.tree false) else tryRenaming
  else if !(← tryMark "*") then
    let _ ← inGroup .curly <| listed do
      let root ← if rooted then tryMark "::" else pure false
      g.take (.tree (rooted && !root))
  pure .plain

/-- Takes names to use behind their word. -/
def useDefinition (g : Grammar) : Scan Unit := do
  let rooted ← tryMark "::"
  g.take (.tree (!rooted))
  takeMark ";"

/-- Takes a module behind its word. -/
def moduleDefinition (g : Grammar) : Scan Unit := do
  takeIf fun ts => atWord "try" ts || atName ts
  if !(← tryMark ";") then definitions g (g.take .definition)

/-- Takes a library to use behind its words. -/
def libraryDefinition : Scan Unit := do
  takeIf fun ts => atWord "self" ts || atName ts
  tryRenaming
  takeMark ";"

/-- Takes definitions of what is found elsewhere, with the convention for its functions. -/
def foreignDefinition (g : Grammar) : Scan Unit := do
  let _ ← tryWord "unsafe"
  tryConvention
  definitions g (foreignMember g)

/-! ### Definitions -/

/-- Takes a definition with its attributes and its visibility. -/
def definition (g : Grammar) : Scan Shape := do
  let _ ← outerAttributes g
  let visible ← tryVisibility
  let atSafe (ahead : Ahead) : Ahead := fun ts => ahead (passIf (atWord "unsafe") ts)
  firstOf
    [(atSignature false, functionDefinition g false),
     (followed (atWord "extern") (atWord "crate"), behind ["extern", "crate"] libraryDefinition),
     (fun ts => !visible && atSafe (atWord "extern") ts, foreignDefinition g),
     (atWord "use", behind ["use"] (useDefinition g)),
     (atWord "static", behind ["static"] (variableDefinition g)),
     (atWord "const", behind ["const"] (constantDefinition g)),
     (atSafe (atWord "mod"), do
      let _ ← tryWord "unsafe"
      behind ["mod"] (moduleDefinition g)),
     (atWord "type", behind ["type"] (typeDefinition g true false)),
     (atWord "struct", behind ["struct"] (structureDefinition g)),
     (atWord "enum", behind ["enum"] (enumerationDefinition g)),
     (followed (atWord "union") atName, behind ["union"] (unionDefinition g)),
     (atWord "trait", behind ["trait"] (requirementDefinition g true)),
     (atSafe fun ts => atWord "trait" ts || followed (atWord "auto") (atWord "trait") ts, do
      let _ ← tryWord "unsafe"
      let _ ← tryWord "auto"
      behind ["trait"] (requirementDefinition g false)),
     (fun ts => atSafe (atWord "impl") ts || (atWord "default" ts && !atMark "!" (pass ts)), do
      let _ ← tryWord "default"
      let _ ← tryWord "unsafe"
      behind ["impl"] (givenDefinition g)),
     (atWord "macro", patternDefinition),
     (fun ts => !visible && atCalledDefinition ts, calledDefinition true)]
  pure .plain

end Nmea.Declaration.Grammar
