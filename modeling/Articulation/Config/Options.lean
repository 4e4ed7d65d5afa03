import Articulation.Config.Basic
import Articulation.Data
import Articulation.Decimal.Reading
/-!
Options as configuration data give them. Options that are not given keep their defaults; those that
are given are read leniently, and all that are wrong are reported together.
-/
set_option autoImplicit false

namespace Articulation

/-- A choice that is given as itself and not by its name. -/
inductive Member where
  | upAxis (u : UpAxis)
  | collisionSource (s : CollisionSource)
  deriving DecidableEq, Repr

namespace Member

def name : Member → String
  | upAxis u => u.name
  | collisionSource s => s.name

def shown : Member → String
  | upAxis .y => "UpAxis.Y"
  | upAxis .z => "UpAxis.Z"
  | collisionSource .engineNative => "CollisionSource.ENGINE_NATIVE"
  | collisionSource .externalDecomposition => "CollisionSource.EXTERNAL_DECOMPOSITION"

end Member

inductive OptionValue where
  | null
  | truth (b : Bool)
  | integer (i : Int)
  | real (x : Float)
  | text (s : String)
  | member (m : Member)
  | bytes (s : String)
  | other
  deriving Repr

inductive OptionFault where
  | unknownChoice (text : String) (choices : List String)
  | notAChoice
  | badTruth
  | notATruth
  | badNumber
  | notANumber
  | negative
  | unknownOption
  deriving DecidableEq, Repr

structure OptionError where
  option : String
  fault : OptionFault
  deriving DecidableEq, Repr

def OptionError.message? (e : OptionError) : Option String :=
  match e.fault with
  | .unknownChoice text choices =>
    some (s!"Value error, Invalid {e.option}: '{text}'. " ++
      s!"Must be one of: {commaSeparated choices}")
  | _ => none

def OptionError.text (e : OptionError) : String :=
  match e.fault with
  | .unknownChoice .. => e.message?.getD ""
  | .notAChoice => "Input should be one of the choices"
  | .badTruth => "Input should be a valid boolean, unable to interpret input"
  | .notATruth => "Input should be a valid boolean"
  | .badNumber => "Input should be a valid number, unable to parse string as a number"
  | .notANumber => "Input should be a valid number"
  | .negative => "Input should be greater than or equal to 0"
  | .unknownOption => "Extra inputs are not permitted"

inductive ConfigError where
  | notARecord
  | nameNotText
  | invalid (errors : List OptionError)
  deriving DecidableEq, Repr

namespace OptionValue

/-- Blanks around a choice and capitals in it do not matter. -/
def choiceOfText {α : Type} (all : List α) (name : α → String) (s shown : String) :
    Except OptionFault α :=
  let word := String.ofList (Text.lower (Text.trim s.toList))
  match all.find? (name · == word) with
  | some a => .ok a
  | none => .error (.unknownChoice shown (all.map name))

/-- In bytes blanks and capitals matter. -/
def choice {α : Type} (all : List α) (name : α → String) : OptionValue → Except OptionFault α
  | text s => choiceOfText all name s s
  | member m => choiceOfText all name m.name m.shown
  | bytes s =>
    match all.find? (name · == s) with
    | some a => .ok a
    | none => .error .notAChoice
  | _ => .error .notAChoice

def truthOfWord (s : String) : Except OptionFault Bool :=
  let word := s.toLower
  if word ∈ ["0", "off", "f", "false", "n", "no"] then .ok false
  else if word ∈ ["1", "on", "t", "true", "y", "yes"] then .ok true
  else .error .badTruth

def asTruth : OptionValue → Except OptionFault Bool
  | truth b => .ok b
  | integer i => if i = 0 then .ok false else if i = 1 then .ok true else .error .badTruth
  | real x =>
    if x == 0 then .ok false
    else if x == 1 then .ok true
    else if x.isFinite ∧ x.floor == x then .error .badTruth
    else .error .notATruth
  | text s | bytes s => truthOfWord s
  | member m => truthOfWord m.name
  | null | other => .error .notATruth

def asciiDigit? (c : Char) : Option Nat := if c.isDigit then some (c.toNat - 48) else none

/-- Underscores may stand inside a number, though not at its ends nor two in a row. -/
def withoutUnderscores (cs : List Char) : Option (List Char) :=
  let rec single : List Char → Bool
    | '_' :: '_' :: _ => false
    | _ :: cs => single cs
    | [] => true
  if cs.head? = some '_' ∨ cs.getLast? = some '_' ∨ !cs.contains '_' ∨ !single cs then none
  else some (cs.filter (· != '_'))

def numberOfText (cs : List Char) : Option Float :=
  (Decimal.readSigned asciiDigit? (Decimal.trimNumber cs)).orElse fun _ =>
    (withoutUnderscores cs).bind (Decimal.readSigned asciiDigit?)

def ofInteger (i : Int) : Float :=
  let size := Decimal.toFloat ⟨i.natAbs, 0⟩
  if i < 0 then -size else size

def numberOfWord (s : String) : Except OptionFault Float :=
  match numberOfText s.toList with
  | some x => .ok x
  | none => .error .badNumber

def asNumber : OptionValue → Except OptionFault Float
  | truth b => .ok (if b then 1 else 0)
  | integer i =>
    let x := ofInteger i
    if x.isInf then .error .notANumber else .ok x
  | real x => .ok x
  | text s | bytes s => numberOfWord s
  | member m => numberOfWord m.name
  | null | other => .error .notANumber

def asThreshold (v : OptionValue) : Except OptionFault Float := do
  let x ← v.asNumber
  if 0 ≤ x then pure x else .error .negative

end OptionValue

namespace Config

def optionNames : List String :=
  ["up_axis", "immovable_root", "prune", "prune_mass_threshold", "prune_require_no_mesh",
    "collision_source", "require_collision", "rename_root"]

abbrev Options := List (String × OptionValue)

def option {α : Type} (options : Options) (name : String) (default : α)
    (read : OptionValue → Except OptionFault α) : α × List OptionError :=
  match options.lookup name with
  | none => (default, [])
  | some v =>
    match read v with
    | .ok a => (a, [])
    | .error fault => (default, [⟨name, fault⟩])

def unknownOptions (options : Options) : List OptionError :=
  (options.filter fun o => !optionNames.contains o.1).map fun o => ⟨o.1, .unknownOption⟩

/-- Errors are listed in the order of the options' declaration, unknown options last. -/
def ofOptions (options : Options) : Except ConfigError Config :=
  let d := standard
  let (upAxis, e₁) := option options "up_axis" d.upAxis (OptionValue.choice UpAxis.all UpAxis.name)
  let (immovableRoot, e₂) := option options "immovable_root" d.immovableRoot OptionValue.asTruth
  let (prune, e₃) := option options "prune" d.prune OptionValue.asTruth
  let (threshold, e₄) :=
    option options "prune_mass_threshold" d.pruneMassThreshold OptionValue.asThreshold
  let (requireNoMesh, e₅) :=
    option options "prune_require_no_mesh" d.pruneRequireNoMesh OptionValue.asTruth
  let (source, e₆) := option options "collision_source" d.collisionSource
    (OptionValue.choice CollisionSource.all CollisionSource.name)
  let (requireCollision, e₇) :=
    option options "require_collision" d.requireCollision OptionValue.asTruth
  let (renameRoot, e₈) := option options "rename_root" d.renameRoot OptionValue.asTruth
  match e₁ ++ e₂ ++ e₃ ++ e₄ ++ e₅ ++ e₆ ++ e₇ ++ e₈ ++ unknownOptions options with
  | [] => .ok ⟨upAxis, immovableRoot, prune, threshold, requireNoMesh, source, requireCollision,
      renameRoot⟩
  | errors => .error (.invalid errors)

def data (c : Config) : List (String × Data) := [
  ("collision_source", .text c.collisionSource.name),
  ("immovable_root", .truth c.immovableRoot),
  ("prune", .truth c.prune),
  ("prune_mass_threshold", .real c.pruneMassThreshold),
  ("prune_require_no_mesh", .truth c.pruneRequireNoMesh),
  ("rename_root", .truth c.renameRoot),
  ("require_collision", .truth c.requireCollision),
  ("up_axis", .text c.upAxis.name)]

end Config

def OptionValue.ofData : Data → OptionValue
  | .null => .null
  | .truth b => .truth b
  | .integer i => .integer i
  | .real x => .real x
  | .text s => .text s
  | .list _ | .record _ => .other

namespace Config

/-- Void data of any kind stands for no options at all. -/
def ofData (d : Data) : Except ConfigError Config :=
  if d.isVoid then .ok standard
  else match d with
    | .record fields => ofOptions (fields.map fun f => (f.1, .ofData f.2))
    | _ => .error .notARecord

def dump (c : Config) : Options := [
  ("up_axis", .member (.upAxis c.upAxis)),
  ("immovable_root", .truth c.immovableRoot),
  ("prune", .truth c.prune),
  ("prune_mass_threshold", .real c.pruneMassThreshold),
  ("prune_require_no_mesh", .truth c.pruneRequireNoMesh),
  ("collision_source", .member (.collisionSource c.collisionSource)),
  ("require_collision", .truth c.requireCollision),
  ("rename_root", .truth c.renameRoot)]

structure Overrides where
  upAxis : Option UpAxis
  collisionSource : Option CollisionSource
  prune : Option Bool
  deriving Repr

namespace Overrides

def nothing : Overrides := ⟨none, none, none⟩

def options (o : Overrides) : Options :=
  (o.upAxis.map fun u => ("up_axis", .text u.name)).toList ++
    (o.collisionSource.map fun s => ("collision_source", .text s.name)).toList ++
    (o.prune.map fun b => ("prune", .truth b)).toList

end Overrides

/-- The options with what is set on the command line in the place of what they say, validated
again. -/
def merge (c : Config) (o : Overrides) : Except ConfigError Config :=
  ofOptions (Roster.ofList (c.dump ++ o.options)).entries

end Config

end Articulation
