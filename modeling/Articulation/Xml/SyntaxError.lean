/-!
The ways in which a text fails to be an XML document, and where.
-/
set_option autoImplicit false

namespace Articulation.Xml

inductive Reason where
  | noElement
  | invalidToken
  | unclosedToken
  | misplacedMarkup
  | mismatchedTag
  | duplicateAttribute
  | junkAfterRoot
  | parameterEntityReference
  | undefinedEntity
  /-- A reference that an external subset might have declared. -/
  | unresolvedEntity (reference : String)
  | recursiveEntity
  | asynchronousEntity
  | badCharacterNumber
  | binaryEntityReference
  | externalEntityInAttribute
  | misplacedDeclaration
  | unclosedCharacterData
  | unboundPrefix
  | undeclaredPrefix
  | badDeclaration
  | badPublicIdentifier
  | reservedXmlPrefix
  | reservedXmlnsPrefix
  | reservedNamespace
  deriving DecidableEq, Repr

def Reason.message : Reason → String
  | noElement => "no element found"
  | invalidToken => "not well-formed (invalid token)"
  | unclosedToken => "unclosed token"
  | misplacedMarkup => "syntax error"
  | mismatchedTag => "mismatched tag"
  | duplicateAttribute => "duplicate attribute"
  | junkAfterRoot => "junk after document element"
  | parameterEntityReference => "illegal parameter entity reference"
  | undefinedEntity => "undefined entity"
  | unresolvedEntity reference => s!"undefined entity {reference}"
  | recursiveEntity => "recursive entity reference"
  | asynchronousEntity => "asynchronous entity"
  | badCharacterNumber => "reference to invalid character number"
  | binaryEntityReference => "reference to binary entity"
  | externalEntityInAttribute => "reference to external entity in attribute"
  | misplacedDeclaration => "XML or text declaration not at start of entity"
  | unclosedCharacterData => "unclosed CDATA section"
  | unboundPrefix => "unbound prefix"
  | undeclaredPrefix => "must not undeclare prefix"
  | badDeclaration => "XML declaration not well-formed"
  | badPublicIdentifier => "illegal character(s) in public id"
  | reservedXmlPrefix =>
    "reserved prefix (xml) must not be undeclared or bound to another namespace name"
  | reservedXmlnsPrefix => "reserved prefix (xmlns) must not be declared or undeclared"
  | reservedNamespace => "prefix must not be bound to one of the reserved namespace names"

/-- Lines count from one, columns from zero. -/
structure SyntaxError where
  reason : Reason
  line : Nat
  column : Nat
  deriving DecidableEq, Repr

def SyntaxError.message (e : SyntaxError) : String :=
  s!"{e.reason.message}: line {e.line}, column {e.column}"

end Articulation.Xml
