/-!
Paths of assets: a root and the components below it. Repeated slashes, slashes at the end and
components `.` say nothing; a component `..` is kept, because a link may stand before it.
-/
set_option autoImplicit false

namespace Articulation

structure AssetPath where
  /-- Empty for a relative path. Exactly two leading slashes differ from one. -/
  root : List Char
  components : List (List Char)
  deriving DecidableEq, Repr

namespace AssetPath

def isSlash (c : Char) : Bool := c == '/'

def piecesAfter (piece : List Char) : List Char → List (List Char)
  | [] => [piece.reverse]
  | c :: cs => if isSlash c then piece.reverse :: piecesAfter [] cs else piecesAfter (c :: piece) cs

def isComponent (piece : List Char) : Bool := !piece.isEmpty && piece != ['.']

def rootOf (cs : List Char) : List Char :=
  match (cs.takeWhile isSlash).length with
  | 0 => []
  | 2 => ['/', '/']
  | _ => ['/']

def ofChars (cs : List Char) : AssetPath := ⟨rootOf cs, (piecesAfter [] cs).filter isComponent⟩

def ofString (s : String) : AssetPath := ofChars s.toList

def joined : List (List Char) → List Char
  | [] => []
  | [c] => c
  | c :: cs => c ++ '/' :: joined cs

/-- The path that names nothing is written as a dot. -/
def toChars (p : AssetPath) : List Char :=
  let cs := p.root ++ joined p.components
  if cs.isEmpty then ['.'] else cs

def toString (p : AssetPath) : String := String.ofList p.toChars

def name? (p : AssetPath) : Option (List Char) := p.components.getLast?

/-- The last dot of a name starts its suffix, unless it is its first or last character. -/
def suffix (name : List Char) : List Char :=
  let after := name.reverse.takeWhile (· != '.')
  if after.isEmpty || name.length ≤ after.length + 1 then [] else '.' :: after.reverse

def stem (name : List Char) : List Char := name.take (name.length - (suffix name).length)

def withName? (p : AssetPath) (f : List Char → List Char) : Option AssetPath :=
  p.name?.map fun name => { p with components := p.components.dropLast ++ [f name] }

example : suffix "arm.v2.dae".toList = ".dae".toList ∧ suffix ".dae".toList = [] ∧
    suffix "arm.".toList = [] ∧ stem "..".toList = "..".toList := by decide

end AssetPath

end Articulation
