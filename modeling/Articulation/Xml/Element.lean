/-!
Elements without their text: a tag, attributes and the elements inside.
-/
set_option autoImplicit false

namespace Articulation.Xml

structure Attribute where
  name : String
  value : String
  deriving DecidableEq, Repr

/-- A tag or an attribute name in a namespace stands behind the namespace in braces. -/
inductive Element where
  | mk (tag : String) (attributes : List Attribute) (children : List Element)
  deriving Repr

namespace Element

def tag : Element → String
  | mk tag _ _ => tag

def attributes : Element → List Attribute
  | mk _ attributes _ => attributes

def children : Element → List Element
  | mk _ _ children => children

def get? (e : Element) (name : String) : Option String :=
  (e.attributes.find? (·.name == name)).map (·.value)

def childrenNamed (e : Element) (tag : String) : List Element :=
  e.children.filter (·.tag == tag)

def child? (e : Element) (tag : String) : Option Element := e.children.find? (·.tag == tag)

def grandchild? (e : Element) (outer inner : String) : Option Element :=
  ((e.childrenNamed outer).flatMap (·.childrenNamed inner)).head?

theorem tag_of_mem_childrenNamed {e c : Element} {tag : String} (h : c ∈ e.childrenNamed tag) :
    c.tag = tag := by simpa using (List.mem_filter.1 h).2

end Element

end Articulation.Xml
