/-!
Triples, and three-by-three matrices that act on them, over any kind of number: the conversions
between frames run on floating-point numbers and can be read over exact ones.
-/
set_option autoImplicit false

namespace Articulation

structure Vec3 (α : Type) where
  x : α
  y : α
  z : α
  deriving DecidableEq, Repr, BEq

namespace Vec3

variable {α β : Type}

def map (f : α → β) (v : Vec3 α) : Vec3 β := ⟨f v.x, f v.y, f v.z⟩

def toList (v : Vec3 α) : List α := [v.x, v.y, v.z]

def ofList? : List α → Option (Vec3 α)
  | [x, y, z] => some ⟨x, y, z⟩
  | _ => none

def ofList (xs : List α) (h : xs.length = 3) : Vec3 α := ⟨xs[0], xs[1], xs[2]⟩

def dot [OfNat α 0] [Add α] [Mul α] (u v : Vec3 α) : α := 0 + u.x * v.x + u.y * v.y + u.z * v.z

def sub [Sub α] (u v : Vec3 α) : Vec3 α := ⟨u.x - v.x, u.y - v.y, u.z - v.z⟩

end Vec3

structure Matrix3 (α : Type) where
  row₁ : Vec3 α
  row₂ : Vec3 α
  row₃ : Vec3 α
  deriving DecidableEq, Repr

namespace Matrix3

variable {α : Type}

def apply [OfNat α 0] [Add α] [Mul α] (m : Matrix3 α) (v : Vec3 α) : Vec3 α :=
  ⟨m.row₁.dot v, m.row₂.dot v, m.row₃.dot v⟩

def det [Add α] [Sub α] [Mul α] (m : Matrix3 α) : α :=
  m.row₁.x * (m.row₂.y * m.row₃.z - m.row₂.z * m.row₃.y) -
    m.row₁.y * (m.row₂.x * m.row₃.z - m.row₂.z * m.row₃.x) +
    m.row₁.z * (m.row₂.x * m.row₃.y - m.row₂.y * m.row₃.x)

end Matrix3

end Articulation
