import Articulation.AssetPath
import Articulation.Files.Basic
/-!
A file system that is a value: the files and directories below the current directory.
-/
set_option autoImplicit false

namespace Articulation

inductive FileItem where
  | directory
  | file (bytes : List UInt8)
  /-- A file that cannot be opened. -/
  | sealed
  deriving DecidableEq, Repr

structure FileStore where
  items : List (List String × FileItem)
  deriving Repr

namespace FileStore

def empty : FileStore := ⟨[]⟩

def item? (s : FileStore) (place : List String) : Option FileItem :=
  if place.isEmpty then some .directory else s.items.lookup place

def itemAt? (s : FileStore) (place : Option (List String)) : Option FileItem :=
  match place with
  | some place => s.item? place
  | none => some .directory

def put (s : FileStore) (place : List String) (item : FileItem) : FileStore :=
  ⟨(place, item) :: s.items.filter (·.1 != place)⟩

def components (path : String) : List String :=
  (AssetPath.ofString path).components.map String.ofList

def above (place : List String) : List (List String) :=
  (List.range place.length).tail.map fun n => place.take n

def add (s : FileStore) (path : String) (item : FileItem) : FileStore :=
  let place := components path
  let s := (above place).foldl (fun s p => if (s.item? p).isNone then s.put p .directory else s) s
  s.put place item

def longestComponent : Nat := 255

def longestPath : Nat := 4095

/-- The components one after the other: every one but the last must lead to a directory, and two
dots lead back. No place stands for the directories above the current one: nothing is known to be
in them. -/
def follow (s : FileStore) : Option (List String) → List String →
    Except FileError (Option (List String))
  | place, [] => .ok place
  | none, c :: cs => if c = ".." then s.follow none cs else .error .notFound
  | some place, c :: cs =>
    match s.item? place with
    | some .directory =>
      if c = ".." then s.follow (if place.isEmpty then none else some place.dropLast) cs
      else if longestComponent < c.utf8ByteSize then .error .nameTooLong
      else s.follow (some (place ++ [c])) cs
    | some _ => .error .notADirectory
    | none => .error .notFound

/-- A path that ends in a slash or a dot can only lead to a directory. -/
def asksForDirectory (path : String) : Bool :=
  path.endsWith "/" || path.endsWith "/." || path == "."

def locate (s : FileStore) (path : String) : Except FileError (Option (List String)) :=
  if path.toList.contains '\x00' then .error .invalidName
  else if path.isEmpty then .error .notFound
  else if longestPath < path.utf8ByteSize then .error .nameTooLong
  else match s.follow (if path.startsWith "/" then none else some []) (components path) with
    | .error e => .error e
    | .ok place =>
      match s.itemAt? place with
      | some .directory => .ok place
      | some _ => if asksForDirectory path then .error .notADirectory else .ok place
      | none => .ok place

def kind (s : FileStore) (path : String) : PathKind :=
  match s.locate path with
  | .error _ => .absent
  | .ok place =>
    match s.itemAt? place with
    | some .directory => .directory
    | some _ => .file
    | none => .absent

def read (s : FileStore) (path : String) : Except FileError (List UInt8) := do
  match s.itemAt? (← s.locate path) with
  | some .directory => .error .isDirectory
  | some (.file bytes) => .ok bytes
  | some .sealed => .error .notPermitted
  | none => .error .notFound

def write (s : FileStore) (path text : String) : Except FileError FileStore := do
  let place ← s.locate path
  let some place := place | .error .isDirectory
  match s.item? place, s.item? place.dropLast with
  | some .directory, _ => .error .isDirectory
  | some .sealed, _ => .error .notPermitted
  | some (.file _), _ => .ok (s.put place (.file text.toUTF8.toList))
  | none, some .directory =>
    if asksForDirectory path then .error .isDirectory
    else .ok (s.put place (.file text.toUTF8.toList))
  | none, some _ => .error .notADirectory
  | none, none => .error .notFound

def system : FileSystem (StateM FileStore) where
  kind path := do pure ((← get).kind path)
  read path := do pure ((← get).read path)
  write path text := do
    match (← get).write path text with
    | .ok s => set s; pure (.ok ())
    | .error e => pure (.error e)

end FileStore

end Articulation
