import Articulation.Xml.Prolog
/-!
Whole documents: a prolog, one element, and nothing but comments and instructions after it.
-/
set_option autoImplicit false

namespace Articulation.Xml

structure OpenElement where
  /-- The name that the end tag has to repeat. -/
  name : String
  opening : Opening
  children : List Element

def OpenElement.close (o : OpenElement) : Element :=
  .mk o.opening.tag o.opening.attributes o.children.reverse

/-- The elements that are open, the innermost first, and the root once it is closed. -/
structure Progress where
  stack : List OpenElement
  root : Option Element

namespace Progress

def start : Progress := ⟨[], none⟩

def bindings (p : Progress) : Bindings :=
  match p.stack with
  | o :: _ => o.opening.bindings
  | [] => .initial

def add (p : Progress) (e : Element) : Progress :=
  match p.stack with
  | o :: os => { p with stack := { o with children := e :: o.children } :: os }
  | [] => { p with root := some e }

end Progress

/-- One unit of markup in content. `floor` is the number of open elements that the text at hand
must leave open. `cs` begins with the first character of the markup. -/
def readMarkup (d : Declarations) (floor : Nat) (p : Progress) (cs : List Char) :
    Except Fault (Progress × List Char) :=
  let unit {α : Type} (r : Except Stop (α × List Char))
      (f : α → Except Fault Progress) : Except Fault (Progress × List Char) :=
    match r with
    | .error stop => .error (stop.fault cs)
    | .ok (a, rest) => (f a).map fun p => (p, rest)
  match cs.drop 1 with
  | [] => .error ⟨.unclosedToken, cs⟩
  | '/' :: rest => unit (readEndTag rest) fun name =>
    match p.stack with
    | [] => .error ⟨.asynchronousEntity, cs⟩
    | o :: os =>
      if os.length < floor then .error ⟨.asynchronousEntity, cs⟩
      else if o.name ≠ name then .error ⟨.mismatchedTag, rest⟩
      else .ok (Progress.add ⟨os, p.root⟩ o.close)
  | ['!'] => .error ⟨.unclosedToken, cs⟩
  | '!' :: '-' :: rest => unit (skipComment rest) fun _ => .ok p
  | '!' :: '[' :: rest =>
    match readCharacterDataMark rest with
    | .error stop => .error (stop.fault cs)
    | .ok (_, rest) => (skipCharacterData rest).map fun rest => (p, rest)
  | '!' :: rest => .error ⟨.invalidToken, rest⟩
  | '?' :: rest => unit (readInstruction rest) fun
    | .processing => .ok p
    | .declaration _ => .error ⟨.misplacedDeclaration, cs⟩
  | rest => unit (readStartTag rest) fun t => do
    let opening ← openTag d p.bindings t cs
    let o : OpenElement := ⟨t.name.text, opening, []⟩
    pure (if t.isEmpty then p.add o.close else { p with stack := o :: p.stack })

/-- Content up to the end of the root element or of the text. `available` are the entities whose
text does not contain this text. A fault in the text of an entity is where the entity is used. -/
def readContent (d : Declarations) (available : List (String × Entity)) (opened : List String)
    (floor : Nat) (p : Progress) (cs : List Char) : Except Fault (Progress × List Char) :=
  match skipText cs with
  | .error f => .error f
  | .ok [] => .ok (p, [])
  | .ok (c :: rest) =>
    let next (p : Progress) (after : List Char) : Except Fault (Progress × List Char) :=
      if p.root.isSome then .ok (p, after)
      else if after.length < cs.length then readContent d available opened floor p after
      else .error ⟨.invalidToken, c :: rest⟩
    if c ≠ '&' then
      match readMarkup d floor p (c :: rest) with
      | .error f => .error f
      | .ok (p, after) => next p after
    else match readReference rest with
      | .error stop => .error (stop.fault (c :: rest))
      | .ok (.character n, after) =>
        if (charOfNumber? n).isSome then next p after
        else .error ⟨.badCharacterNumber, c :: rest⟩
      | .ok (.entity name, after) =>
        if (predefinedEntity? name).isSome then next p after
        else if name ∈ opened then .error ⟨.recursiveEntity, c :: rest⟩
        else
          let unresolved : Reason := .unresolvedEntity ("&" ++ name ++ ";")
          match h : available.find? (·.1 == name) with
          | none => .error ⟨if d.isComplete then .undefinedEntity else unresolved, c :: rest⟩
          | some (_, .unparsed) => .error ⟨.binaryEntityReference, c :: rest⟩
          | some (_, .external) => .error ⟨unresolved, c :: rest⟩
          | some (_, .internal text) =>
            have : (available.eraseP (·.1 == name)).length < available.length := by
              have found := List.find?_some h
              have member := List.mem_of_find?_eq_some h
              rw [List.length_eraseP_of_mem member found]
              have := List.length_pos_of_mem member
              omega
            match readContent d (available.eraseP (·.1 == name)) (name :: opened) p.stack.length p
                text with
            | .error f => .error ⟨f.reason, c :: rest⟩
            | .ok (q, _) =>
              if q.stack.length = p.stack.length then next q after
              else .error ⟨.asynchronousEntity, c :: rest⟩
termination_by (available.length, cs.length)

def readEpilog (cs : List Char) : Except Fault Unit :=
  match cs with
  | [] => .ok ()
  | c :: cs =>
    match readToken (c :: cs) with
    | .error stop => .error (stop.fault (c :: cs))
    | .ok (.space, rest) | .ok (.instruction, rest) | .ok (.comment, rest) =>
      if rest.length ≤ cs.length then readEpilog rest else .error ⟨.junkAfterRoot, c :: cs⟩
    | .ok (_, _) => .error ⟨.junkAfterRoot, c :: cs⟩
termination_by cs.length

def readDocument (cs : List Char) : Except Fault Element := do
  let (d, rest) ← readProlog .empty .start cs
  let (p, rest) ← readContent d d.entities [] 0 .start rest
  match p.root with
  | some root =>
    readEpilog rest
    pure root
  | none => .error ⟨.noElement, []⟩

def position (line column : Nat) : List Char → Nat × Nat
  | [] => (line, column)
  | '\r' :: '\n' :: cs => position (line + 1) 0 cs
  | c :: cs =>
    if c = '\n' ∨ c = '\r' then position (line + 1) 0 cs else position line (column + 1) cs

def Fault.locate (text : List Char) (f : Fault) : SyntaxError :=
  let (line, column) := position 1 0 (text.take (text.length - f.rest.length))
  ⟨f.reason, line, column⟩

def byteOrderMark : Char := '\uFEFF'

def read (text : String) : Except SyntaxError Element :=
  let cs := text.toList
  let body := match cs with
    | c :: rest => if c = byteOrderMark then rest else cs
    | [] => []
  (readDocument body).mapError (Fault.locate cs)

theorem read_of_toList {text : String} {c : Char} {cs : List Char} {root : Element}
    (chars : text.toList = c :: cs) (unmarked : c ≠ byteOrderMark)
    (h : readDocument (c :: cs) = .ok root) : read text = .ok root := by
  unfold read
  rw [chars]
  simp only [unmarked, if_false, h]
  rfl

end Articulation.Xml
