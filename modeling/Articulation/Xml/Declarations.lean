import Articulation.Xml.Markup
/-!
What the document type declares: entities, and the types and default values of attributes.
-/
set_option autoImplicit false

namespace Articulation.Xml

inductive Entity where
  | internal (text : List Char)
  | external
  | unparsed
  deriving DecidableEq, Repr

structure AttributeRule where
  name : QualifiedName
  /-- Whether blanks in the value are kept one by one. -/
  isText : Bool
  default : Option String
  deriving DecidableEq, Repr

structure Declarations where
  entities : List (String × Entity)
  /-- The rules of each tag in the order in which they were declared. -/
  rules : List (String × AttributeRule)
  /-- There are declarations that are not read: an external subset or a parameter entity. -/
  isPartial : Bool
  /-- A parameter entity between the declarations is not read. -/
  hasGap : Bool
  standalone : Bool
  deriving Repr

namespace Declarations

def empty : Declarations := ⟨[], [], false, false, false⟩

/-- Whether a reference to an entity that is not declared is a fault. -/
def isComplete (d : Declarations) : Bool := !d.isPartial || d.standalone

/-- An external subset comes after all declarations that are read, but what a parameter entity
holds may have come before those that follow it: they are neither heeded nor checked. -/
def heedsMore (d : Declarations) : Bool := !d.hasGap || d.standalone

def declareEntity (d : Declarations) (name : String) (e : Entity) : Declarations :=
  if d.entities.any (·.1 == name) then d else { d with entities := d.entities ++ [(name, e)] }

def declareRule (d : Declarations) (tag : String) (r : AttributeRule) : Declarations :=
  if d.rules.any fun (t, s) => t == tag && s.name == r.name then d
  else { d with rules := d.rules ++ [(tag, r)] }

def rulesFor (d : Declarations) (tag : String) : List AttributeRule :=
  (d.rules.filter (·.1 == tag)).map (·.2)

end Declarations

def predefinedEntity? (name : String) : Option Char :=
  [("lt", '<'), ("gt", '>'), ("amp", '&'), ("quot", '"'), ("apos", '\x27')].lookup name

/-- A fault inside a value, and the value from it on; some faults are those of the whole tag. -/
structure ValueFault where
  reason : Reason
  rest : Option (List Char)

def ValueFault.fault (start valueStart value : List Char) (f : ValueFault) : Fault :=
  match f.rest with
  | none => ⟨f.reason, start⟩
  | some rest => Fault.within valueStart value ⟨f.reason, rest⟩

/-- The value with its references replaced and each of its blanks turned into a space. `available`
are the entities whose text does not contain the value. -/
def expandValue (isComplete : Bool) (available : List (String × Entity)) (opened : List String)
    (cs : List Char) : Except ValueFault (List Char) :=
  match cs with
  | [] => .ok []
  | '\r' :: '\n' :: rest => (expandValue isComplete available opened rest).map (' ' :: ·)
  | c :: rest =>
    if c = '<' then .error ⟨.invalidToken, some cs⟩
    else if c ≠ '&' then
      (expandValue isComplete available opened rest).map ((if isSpace c then ' ' else c) :: ·)
    else match readReference rest with
      | .error (.invalid wrong) => .error ⟨.invalidToken, some wrong⟩
      | .error .incomplete => .error ⟨.invalidToken, some cs⟩
      | .ok (r, after) =>
        if after.length ≤ rest.length then
          let more := expandValue isComplete available opened after
          match r with
          | .character n =>
            match charOfNumber? n with
            | some c => more.map (c :: ·)
            | none => .error ⟨.badCharacterNumber, some cs⟩
          | .entity name =>
            match predefinedEntity? name with
            | some c => more.map (c :: ·)
            | none =>
              if name ∈ opened then .error ⟨.recursiveEntity, none⟩
              else match h : available.find? (·.1 == name) with
                | none => if isComplete then .error ⟨.undefinedEntity, none⟩ else more
                | some (_, .unparsed) => .error ⟨.binaryEntityReference, some cs⟩
                | some (_, .external) => .error ⟨.externalEntityInAttribute, some cs⟩
                | some (_, .internal text) =>
                  have : (available.eraseP (·.1 == name)).length < available.length := by
                    have found := List.find?_some h
                    have member := List.mem_of_find?_eq_some h
                    rw [List.length_eraseP_of_mem member found]
                    have := List.length_pos_of_mem member
                    omega
                  match expandValue isComplete (available.eraseP (·.1 == name)) (name :: opened)
                      text with
                  | .error f => .error ⟨f.reason, none⟩
                  | .ok front => more.map (front ++ ·)
        else .error ⟨.invalidToken, some cs⟩
termination_by (available.length, cs.length)

/-- Spaces at the ends go, and of several in a row one is left. -/
def collapseSpaces : List Char → List Char
  | [] => []
  | ' ' :: [] => []
  | ' ' :: ' ' :: rest => collapseSpaces (' ' :: rest)
  | c :: rest => c :: collapseSpaces rest

def Declarations.value (d : Declarations) (isText : Bool) (cs : List Char) :
    Except ValueFault String :=
  (expandValue d.isComplete d.entities [] cs).map fun cs =>
    String.ofList (if isText then cs else (collapseSpaces (' ' :: cs)).drop 1)

end Articulation.Xml
