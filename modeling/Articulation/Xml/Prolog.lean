import Articulation.Xml.Namespace
/-!
What stands before the root element: the declaration of the document, its type with the
declarations inside, comments and instructions.
-/
set_option autoImplicit false

namespace Articulation.Xml

inductive Token where
  | space
  | name (text : String)
  | qualified (text : String)
  | nameToken
  /-- A name with a mark that says how often it may occur. -/
  | counted
  | hashName (text : String)
  | literal (body : List Char)
  | openBracket
  | closeBracket
  | openParen
  | closeParen (mark : Option Char)
  | bar
  | comma
  | close
  | declaration (keyword : String)
  | percent
  | parameterReference
  | instruction
  | xmlDeclaration (body : List Char)
  | comment
  | conditional
  | root
  deriving DecidableEq, Repr

def readLiteral (quote : Char) : List Char → Except Stop (List Char × List Char)
  | [] => .error .incomplete
  | c :: cs =>
    if c = quote then
      match cs with
      | [] => .ok ([], [])
      | d :: _ =>
        if isSpace d || d == '>' || d == '%' || d == '[' then .ok ([], cs)
        else .error (.invalid cs)
    else if isDocumentChar c then do
      let (body, rest) ← readLiteral quote cs
      pure (c :: body, rest)
    else .error (.invalid (c :: cs))

def endsName (c : Char) : Bool :=
  isSpace c || c == '>' || c == ')' || c == ',' || c == '|' || c == '[' || c == '%'

def wordToken (text : List Char) : Token :=
  let parts := String.splitOn (String.ofList text) ":"
  match text.head?.map isNameStart, parts with
  | some true, [_] => .name (String.ofList text)
  | some true, [_, base] => if base = "" then .nameToken else .qualified (String.ofList text)
  | _, _ => .nameToken

def readWord (cs : List Char) : Except Stop (Token × List Char) :=
  let isWordChar (c : Char) : Bool := isNameChar c || c == ':'
  let token := wordToken (cs.takeWhile isWordChar)
  match cs.dropWhile isWordChar with
  | [] => .ok (token, [])
  | c :: rest =>
    if endsName c then .ok (token, c :: rest)
    else if (c = '+' ∨ c = '*' ∨ c = '?') ∧ token ≠ .nameToken then .ok (.counted, rest)
    else .error (.invalid (c :: rest))

def readPercent (cs : List Char) : Except Stop (Token × List Char) :=
  match cs with
  | [] => .error .incomplete
  | c :: _ =>
    if isSpace c || c == '%' then .ok (.percent, cs)
    else do
      let (_, rest) ← readName cs
      semicolon .parameterReference rest

def readHashName (cs : List Char) : Except Stop (Token × List Char) := do
  let (name, rest) ← readName cs
  match rest with
  | [] => pure (.hashName name, [])
  | c :: _ =>
    if isSpace c || c == ')' || c == '>' || c == '%' || c == '|' then pure (.hashName name, rest)
    else .error (.invalid rest)

def readCloseParen : List Char → Except Stop (Token × List Char)
  | [] => .ok (.closeParen none, [])
  | c :: rest =>
    if c = '*' ∨ c = '+' ∨ c = '?' then .ok (.closeParen (some c), rest)
    else if isSpace c || c == '>' || c == ',' || c == '|' || c == ')' then
      .ok (.closeParen none, c :: rest)
    else .error (.invalid (c :: rest))

def readKeyword (cs : List Char) : Except Stop (Token × List Char) :=
  let isKeywordChar (c : Char) : Bool := c.isAlpha || c == '_'
  let keyword := cs.takeWhile isKeywordChar
  match cs.dropWhile isKeywordChar with
  | [] => .error .incomplete
  | c :: rest =>
    if keyword.isEmpty then .error (.invalid (c :: rest))
    else if isSpace c then .ok (.declaration (String.ofList keyword), c :: rest)
    else if c = '%' then
      match rest with
      | [] => .error .incomplete
      | d :: _ =>
        if isSpace d || d == '%' then .error (.invalid (c :: rest))
        else .ok (.declaration (String.ofList keyword), c :: rest)
    else .error (.invalid (c :: rest))

def readDeclarationMark : List Char → Except Stop (Token × List Char)
  | [] => .error .incomplete
  | '-' :: cs => do
    let (_, rest) ← skipComment cs
    pure (.comment, rest)
  | '[' :: rest => .ok (.conditional, rest)
  | cs => readKeyword cs

def readToken (cs : List Char) : Except Stop (Token × List Char) :=
  match cs with
  | [] => .error .incomplete
  | '"' :: rest => (readLiteral '"' rest).map fun (body, rest) => (.literal body, rest)
  | '\x27' :: rest => (readLiteral '\x27' rest).map fun (body, rest) => (.literal body, rest)
  | ['<'] => .error .incomplete
  | '<' :: '!' :: rest => readDeclarationMark rest
  | '<' :: '?' :: rest =>
    (readInstruction rest).map fun
      | (.processing, rest) => (.instruction, rest)
      | (.declaration body, rest) => (.xmlDeclaration body, rest)
  | '<' :: c :: rest =>
    if isNameStart c || 128 ≤ c.toNat then .ok (.root, cs) else .error (.invalid (c :: rest))
  | '%' :: rest => readPercent rest
  | '#' :: rest => readHashName rest
  | ',' :: rest => .ok (.comma, rest)
  | '[' :: rest => .ok (.openBracket, rest)
  | ']' :: ']' :: '>' :: rest => .ok (.conditional, rest)
  | ']' :: rest => .ok (.closeBracket, rest)
  | '(' :: rest => .ok (.openParen, rest)
  | ')' :: rest => readCloseParen rest
  | '|' :: rest => .ok (.bar, rest)
  | '>' :: rest => .ok (.close, rest)
  | c :: rest =>
    if isSpace c then .ok (.space, skipSpace rest)
    else if isNameChar c || c == ':' then readWord cs
    else .error (.invalid cs)

abbrev EntityName := Option String

/-- Where in the prolog the next token stands. -/
inductive Place where
  | start | prolog
  | typeName | typeNamed | typePublic | typeSystem | typeExternal | typeEnd | afterType
  | subset
  | entityName | parameterName | entityValue (name : EntityName) | entityPublic (name : EntityName)
  | entitySystem (name : EntityName) | entityExternal (name : EntityName) | entityFormat
  | ruleTag | ruleAttribute (tag : String) | ruleType (tag attr : String)
  | ruleChoice (tag attr : String) (names : Bool) | ruleChoiceEnd (tag attr : String) (names : Bool)
  | ruleFormat (tag attr : String) | ruleDefault (tag attr : String) (isText : Bool)
  | ruleFixed (tag attr : String) (isText : Bool)
  | contentTag | contentKind | contentFirst | contentText | contentTextName | contentTextNext
  | contentItem (groups : List (Option Token)) | contentNext (groups : List (Option Token))
  | formatName | formatNamed | formatPublic | formatSystem | formatPublicEnd
  | declarationEnd
  deriving DecidableEq, Repr

/-- The text between the quotes of an entity declaration: character references are replaced and
line ends unified, references to general entities wait until the entity is used. -/
def entityText (cs : List Char) : Except Fault (List Char) :=
  match cs with
  | [] => .ok []
  | '\r' :: '\n' :: rest => (entityText rest).map ('\n' :: ·)
  | c :: rest =>
    if c = '%' then
      match readPercent rest with
      | .ok (.parameterReference, _) => .error ⟨.parameterEntityReference, cs⟩
      | .error (.invalid wrong) => .error ⟨.invalidToken, wrong⟩
      | .ok (_, rest) => .error ⟨.invalidToken, rest⟩
      | .error .incomplete => .error ⟨.invalidToken, cs⟩
    else if c = '&' then
      match readReference rest with
      | .error (.invalid wrong) => .error ⟨.invalidToken, wrong⟩
      | .error .incomplete => .error ⟨.invalidToken, cs⟩
      | .ok (.entity _, _) => (entityText rest).map (c :: ·)
      | .ok (.character n, after) =>
        match charOfNumber? n with
        | none => .error ⟨.badCharacterNumber, cs⟩
        | some d =>
          if after.length ≤ rest.length then (entityText after).map (d :: ·)
          else .error ⟨.invalidToken, cs⟩
    else (entityText rest).map ((if c = '\r' then '\n' else c) :: ·)
termination_by cs.length

def isPublicIdentifierChar (c : Char) : Bool :=
  c.isAlphanum || " \r\n-'()+,./:=?;!*#@$_%".toList.contains c

def publicIdentifier (start body : List Char) : Except Fault Unit :=
  match body.dropWhile isPublicIdentifierChar with
  | [] => .ok ()
  | rest => .error (Fault.within (start.drop 1) body ⟨.badPublicIdentifier, rest⟩)

def readPseudoAttribute (cs : List Char) : Except (List Char) (Option (List Char × String × String) ×
    List Char) :=
  match cs with
  | [] => .ok (none, cs)
  | c :: _ =>
    if !isSpace c then .error cs
    else
      let named := skipSpace cs
      if named.isEmpty then .ok (none, cs)
      else
        let isNameEnd (c : Char) : Bool := isSpace c || c == '='
        let name := named.takeWhile fun c => !isNameEnd c
        let rest := named.dropWhile fun c => !isNameEnd c
        if name.any (128 ≤ ·.toNat) then .error (named.dropWhile (·.toNat < 128))
        else match skipSpace rest with
        | '=' :: after =>
          if name.isEmpty then .error rest
          else
            match skipSpace after with
            | q :: value =>
              if q = '"' ∨ q = '\x27' then
                let isValueChar (c : Char) : Bool :=
                  c.isAlphanum || c == '.' || c == '-' || c == '_'
                match value.dropWhile isValueChar with
                | c :: rest =>
                  if c = q then
                    .ok (some (named, String.ofList name,
                      String.ofList (value.takeWhile isValueChar)), rest)
                  else .error (c :: rest)
                | [] => .error []
              else .error (q :: value)
            | [] => .error []
        | wrong => .error wrong

/-- The version, then perhaps the encoding, which does not matter, and whether the document stands
alone. An error is the text from the fault on. -/
def readDeclaration (body : List Char) : Except (List Char) Bool := do
  let standalone (a : Option (List Char × String × String)) (rest : List Char) :
      Except (List Char) Bool :=
    match a with
    | none => .ok false
    | some (at', name, value) =>
      let valueStart := rest.length + 1 + value.length
      if name ≠ "standalone" then .error at'
      else if value ≠ "yes" ∧ value ≠ "no" then .error (body.drop (body.length - valueStart))
      else if (skipSpace rest).isEmpty then .ok (value == "yes")
      else .error (skipSpace rest)
  match ← readPseudoAttribute body with
  | (none, rest) => .error rest
  | (some (at', name, _), rest) =>
    if name ≠ "version" then .error at'
    else
      let (second, rest) ← readPseudoAttribute rest
      match second with
      | some (_, "encoding", value) =>
        if (value.toList.head?.map Char.isAlpha).getD false then
          let (third, rest) ← readPseudoAttribute rest
          standalone third rest
        else .error (body.drop (body.length - (rest.length + 1 + value.length)))
      | second => standalone second rest

def misplaced (t : Token) (start : List Char) : Fault :=
  match t with
  | .parameterReference => ⟨.parameterEntityReference, start⟩
  | .xmlDeclaration _ => ⟨.misplacedDeclaration, start⟩
  | _ => ⟨.misplacedMarkup, start⟩

def Declarations.declareGeneral (d : Declarations) (name : EntityName) (e : Entity) :
    Declarations :=
  match name with
  | some name =>
    if d.heedsMore && (predefinedEntity? name).isNone then d.declareEntity name e else d
  | none => d

def qualifiedOf (text : String) : QualifiedName :=
  match text.splitOn ":" with
  | [q, base] => ⟨some q, base⟩
  | _ => ⟨none, text⟩

def Declarations.declareDefault (d : Declarations) (tag attr : String) (isText : Bool)
    (value : Option String) : Declarations :=
  if d.heedsMore then d.declareRule tag ⟨qualifiedOf attr, isText, value⟩ else d

/-- The group that a content model is in after its next item; `none` outside all groups. -/
def closeGroup : List (Option Token) → Place
  | _ :: g :: gs => .contentNext (g :: gs)
  | _ => .declarationEnd

/-- Items of one group are all joined by commas or all by bars. -/
def joinGroup (t : Token) : List (Option Token) → Option Place
  | none :: gs => some (.contentItem (some t :: gs))
  | some u :: gs => if t = u then some (.contentItem (some t :: gs)) else none
  | [] => none

def advance (d : Declarations) (place : Place) (t : Token) (start : List Char) :
    Except Fault (Declarations × Place) :=
  let refuse : Except Fault (Declarations × Place) := .error (misplaced t start)
  let go (place : Place) : Except Fault (Declarations × Place) := .ok (d, place)
  let value (tag attr : String) (isText : Bool) (body : List Char) :
      Except Fault (Declarations × Place) :=
    if d.heedsMore then
      match d.value isText body with
      | .ok v => .ok (d.declareDefault tag attr isText (some v), .ruleAttribute tag)
      | .error f => .error (f.fault start (start.drop 1) body)
    else go (.ruleAttribute tag)
  match place, t with
  | .start, .space => go .prolog
  | place, .space => go place
  | .start, .xmlDeclaration body =>
    match readDeclaration body with
    | .ok standalone => .ok ({ d with standalone := standalone }, .prolog)
    | .error rest => .error ⟨.badDeclaration, start.drop (5 + (body.length - rest.length))⟩
  | .start, .instruction | .start, .comment | .prolog, .instruction | .prolog, .comment => go .prolog
  | .start, .declaration k | .prolog, .declaration k => if k = "DOCTYPE" then go .typeName else refuse
  | .typeName, .name _ | .typeName, .qualified _ => go .typeNamed
  | .typeNamed, .openBracket | .typeExternal, .openBracket => go .subset
  | .typeNamed, .close | .typeExternal, .close | .typeEnd, .close => go .afterType
  | .typeNamed, .name k =>
    if k = "SYSTEM" then go .typeSystem else if k = "PUBLIC" then go .typePublic else refuse
  | .typePublic, .literal body => (publicIdentifier start body).map fun _ => (d, .typeSystem)
  | .typeSystem, .literal _ => .ok ({ d with isPartial := true }, .typeExternal)
  | .afterType, .instruction | .afterType, .comment => go .afterType
  | .subset, .declaration k =>
    if k = "ENTITY" then go .entityName
    else if k = "ATTLIST" then go .ruleTag
    else if k = "ELEMENT" then go .contentTag
    else if k = "NOTATION" then go .formatName
    else refuse
  | .subset, .instruction | .subset, .comment => go .subset
  | .subset, .parameterReference => .ok ({ d with isPartial := true, hasGap := true }, .subset)
  | .subset, .closeBracket => go .typeEnd
  | .entityName, .percent => go .parameterName
  | .entityName, .name n => go (.entityValue (some n))
  | .parameterName, .name _ => go (.entityValue none)
  | .entityValue n, .literal body =>
    if d.heedsMore then
      match entityText body with
      | .ok text => .ok (d.declareGeneral n (.internal text), .declarationEnd)
      | .error f => .error (f.within (start.drop 1) body)
    else go .declarationEnd
  | .entityValue n, .name k =>
    if k = "SYSTEM" then go (.entitySystem n)
    else if k = "PUBLIC" then go (.entityPublic n)
    else refuse
  | .entityPublic n, .literal body =>
    (publicIdentifier start body).map fun _ => (d, .entitySystem n)
  | .entitySystem n, .literal _ => go (.entityExternal n)
  | .entityExternal n, .close => .ok (d.declareGeneral n .external, .subset)
  | .entityExternal (some n), .name k =>
    if k = "NDATA" then .ok (d.declareGeneral (some n) .unparsed, .entityFormat) else refuse
  | .entityFormat, .name _ => go .declarationEnd
  | .ruleTag, .name tag | .ruleTag, .qualified tag => go (.ruleAttribute tag)
  | .ruleAttribute _, .close => go .subset
  | .ruleAttribute tag, .name attr | .ruleAttribute tag, .qualified attr => go (.ruleType tag attr)
  | .ruleType tag attr, .name k =>
    if k = "CDATA" then go (.ruleDefault tag attr true)
    else if k = "NOTATION" then go (.ruleFormat tag attr)
    else if k ∈ ["ID", "IDREF", "IDREFS", "ENTITY", "ENTITIES", "NMTOKEN", "NMTOKENS"] then
      go (.ruleDefault tag attr false)
    else refuse
  | .ruleType tag attr, .openParen => go (.ruleChoice tag attr false)
  | .ruleFormat tag attr, .openParen => go (.ruleChoice tag attr true)
  | .ruleChoice tag attr names, .name _ => go (.ruleChoiceEnd tag attr names)
  | .ruleChoice tag attr false, .nameToken | .ruleChoice tag attr false, .qualified _ =>
    go (.ruleChoiceEnd tag attr false)
  | .ruleChoiceEnd tag attr names, .bar => go (.ruleChoice tag attr names)
  | .ruleChoiceEnd tag attr _, .closeParen none => go (.ruleDefault tag attr false)
  | .ruleDefault tag attr isText, .hashName k =>
    if k = "FIXED" then go (.ruleFixed tag attr isText)
    else if k = "IMPLIED" ∨ k = "REQUIRED" then
      .ok (d.declareDefault tag attr isText none, .ruleAttribute tag)
    else refuse
  | .ruleDefault tag attr isText, .literal body | .ruleFixed tag attr isText, .literal body =>
    value tag attr isText body
  | .contentTag, .name _ | .contentTag, .qualified _ => go .contentKind
  | .contentKind, .name k => if k = "EMPTY" ∨ k = "ANY" then go .declarationEnd else refuse
  | .contentKind, .openParen => go .contentFirst
  | .contentFirst, .hashName k => if k = "PCDATA" then go .contentText else refuse
  | .contentFirst, .openParen => go (.contentItem [none, none])
  | .contentFirst, .name _ | .contentFirst, .qualified _ | .contentFirst, .counted =>
    go (.contentNext [none])
  | .contentText, .closeParen none | .contentText, .closeParen (some '*') => go .declarationEnd
  | .contentText, .bar | .contentTextNext, .bar => go .contentTextName
  | .contentTextName, .name _ | .contentTextName, .qualified _ => go .contentTextNext
  | .contentTextNext, .closeParen (some '*') => go .declarationEnd
  | .contentItem gs, .openParen => go (.contentItem (none :: gs))
  | .contentItem gs, .name _ | .contentItem gs, .qualified _ | .contentItem gs, .counted =>
    go (.contentNext gs)
  | .contentNext gs, .closeParen _ => go (closeGroup gs)
  | .contentNext gs, .comma | .contentNext gs, .bar => ((joinGroup t gs).map go).getD refuse
  | .formatName, .name _ => go .formatNamed
  | .formatNamed, .name k =>
    if k = "SYSTEM" then go .formatSystem else if k = "PUBLIC" then go .formatPublic else refuse
  | .formatPublic, .literal body => (publicIdentifier start body).map fun _ => (d, .formatPublicEnd)
  | .formatPublicEnd, .literal _ | .formatSystem, .literal _ => go .declarationEnd
  | .formatPublicEnd, .close | .declarationEnd, .close => go .subset
  | _, _ => refuse

def Place.allowsRoot : Place → Bool
  | start | prolog | afterType => true
  | _ => false

def readProlog (d : Declarations) (place : Place) (cs : List Char) :
    Except Fault (Declarations × List Char) :=
  match cs with
  | [] => .error ⟨.noElement, []⟩
  | c :: cs =>
    match readToken (c :: cs) with
    | .error stop => .error (stop.fault (c :: cs))
    | .ok (.root, _) =>
      if place.allowsRoot then .ok (d, c :: cs) else .error (misplaced .root (c :: cs))
    | .ok (t, rest) =>
      match advance d place t (c :: cs) with
      | .error f => .error f
      | .ok (d, place) =>
        if rest.length ≤ cs.length then readProlog d place rest
        else .error ⟨.misplacedMarkup, c :: cs⟩
termination_by cs.length

end Articulation.Xml
