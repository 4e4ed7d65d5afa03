import Articulation.Xml.Declarations
import Articulation.Xml.Element
/-!
Namespaces: which prefixes are bound where, and the names that tags and attributes have under them.
-/
set_option autoImplicit false

namespace Articulation.Xml

def xmlNamespace : String := "http://www.w3.org/XML/1998/namespace"

def xmlnsNamespace : String := "http://www.w3.org/2000/xmlns/"

/-- Namespaces by prefix, the innermost first. The empty prefix is that of tags without one, and an
empty namespace stands for none. -/
abbrev Bindings := List (String × String)

def Bindings.initial : Bindings := [("xml", xmlNamespace)]

/-- The prefix that an attribute declares, the empty one for the default namespace. -/
def QualifiedName.declaredPrefix? (n : QualifiedName) : Option String :=
  match n.qualifier with
  | some q => if q = "xmlns" then some n.base else none
  | none => if n.base = "xmlns" then some "" else none

/-- A closing brace cannot stand in a namespace, because it ends the namespace in a name. -/
def Bindings.declare (b : Bindings) (p uri : String) : Except Reason Bindings :=
  if uri = "" ∧ p ≠ "" then .error .undeclaredPrefix
  else if p = "xmlns" then .error .reservedXmlnsPrefix
  else if uri.contains '}' then .error .misplacedMarkup
  else if p = "xml" ∧ uri ≠ xmlNamespace then .error .reservedXmlPrefix
  else if p ≠ "xml" ∧ uri = xmlNamespace then .error .reservedNamespace
  else if uri = xmlnsNamespace then .error .reservedNamespace
  else .ok ((p, uri) :: b)

def inNamespace (uri base : String) : String := "\x7b" ++ uri ++ "\x7d" ++ base

/-- A tag without a prefix is in the default namespace. -/
def Bindings.tag (b : Bindings) (n : QualifiedName) : Except Reason String :=
  match n.qualifier, b.lookup (n.qualifier.getD "") with
  | some _, none => .error .unboundPrefix
  | none, none | none, some "" => .ok n.base
  | _, some uri => .ok (inNamespace uri n.base)

/-- An attribute without a prefix is in no namespace. -/
def Bindings.attributeName (b : Bindings) (n : QualifiedName) : Except Reason String :=
  match n.qualifier with
  | none => .ok n.base
  | some q =>
    match b.lookup q with
    | none => .error .unboundPrefix
    | some uri => .ok (inNamespace uri n.base)

structure UnresolvedAttribute where
  name : QualifiedName
  value : String

/-- Declarations of namespaces take effect at once; the other attributes are kept. -/
def acceptAttribute (b : Bindings) (kept : List UnresolvedAttribute) (name : QualifiedName)
    (value : String) : Except Reason (Bindings × List UnresolvedAttribute) :=
  match name.declaredPrefix? with
  | some p => (b.declare p value).map fun b => (b, kept)
  | none => .ok (b, ⟨name, value⟩ :: kept)

def readAttributeValues (d : Declarations) (rules : List AttributeRule) (start : List Char) :
    Bindings → List QualifiedName → List UnresolvedAttribute → List RawAttribute →
      Except Fault (Bindings × List QualifiedName × List UnresolvedAttribute)
  | b, seen, kept, [] => .ok (b, seen, kept)
  | b, seen, kept, a :: as =>
    if a.name ∈ seen then .error ⟨.duplicateAttribute, a.start⟩
    else
      let isText := ((rules.find? (·.name == a.name)).map (·.isText)).getD true
      match d.value isText a.value with
      | .error f => .error (f.fault start a.valueStart a.value)
      | .ok value =>
        match acceptAttribute b kept a.name value with
        | .error reason => .error ⟨reason, start⟩
        | .ok (b, kept) => readAttributeValues d rules start b (a.name :: seen) kept as

def addDefaults (seen : List QualifiedName) :
    Bindings → List UnresolvedAttribute → List AttributeRule →
      Except Reason (Bindings × List UnresolvedAttribute)
  | b, kept, [] => .ok (b, kept)
  | b, kept, r :: rs =>
    match r.default with
    | none => addDefaults seen b kept rs
    | some value =>
      if r.name ∈ seen then addDefaults seen b kept rs
      else
        match acceptAttribute b kept r.name value with
        | .error reason => .error reason
        | .ok (b, kept) => addDefaults seen b kept rs

def resolveAttributes (b : Bindings) :
    List Attribute → List UnresolvedAttribute → Except Reason (List Attribute)
  | done, [] => .ok done.reverse
  | done, a :: as =>
    match b.attributeName a.name with
    | .error reason => .error reason
    | .ok name =>
      if done.any (·.name == name) then .error .duplicateAttribute
      else resolveAttributes b (⟨name, a.value⟩ :: done) as

structure Opening where
  tag : String
  attributes : List Attribute
  bindings : Bindings
  deriving Repr

def openTag (d : Declarations) (b : Bindings) (t : StartTag) (start : List Char) :
    Except Fault Opening := do
  let rules := d.rulesFor t.name.text
  let (b, seen, kept) ← readAttributeValues d rules start b [] [] t.attributes
  let atStart {α : Type} (r : Except Reason α) : Except Fault α :=
    r.mapError fun reason => ⟨reason, start⟩
  let (b, kept) ← atStart (addDefaults seen b kept rules)
  let attributes ← atStart (resolveAttributes b [] kept.reverse)
  let tag ← atStart (b.tag t.name)
  pure ⟨tag, attributes, b⟩

end Articulation.Xml
