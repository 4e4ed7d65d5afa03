import Articulation.Text.Base64
import Articulation.Text.Quoted
import Articulation.Yaml.Node
/-!
The values of nodes. A merged mapping's pairs come first, so that a mapping's own pairs prevail.
Values are made level by level: a collection is entered when all that stands less deep is made.
-/
set_option autoImplicit false

namespace Articulation.Yaml

inductive Value where
  | null
  | truth (b : Bool)
  | integer (i : Int)
  | real (x : Float)
  | text (s : String)
  | bytes (bs : List UInt8)
  | moment (m : Moment)
  | list (items : List Value)
  | record (entries : List (Value × Value))
  | set (members : List Value)
  | pairs (entries : List (Value × Value))
  /-- A collection around the value. -/
  | enclosing
  deriving Repr

def digitIn? (base : Nat) (c : Char) : Option Nat :=
  let value := (Text.digit? c).orElse fun _ =>
    if 'a' ≤ c.toLower && c.toLower ≤ 'z' then some (c.toLower.toNat - 87) else none
  value.filter (· < base)

def naturalIn? (base : Nat) (cs : List Char) : Option Nat :=
  if cs.isEmpty then none
  else (cs.mapM (digitIn? base)).map fun ds => ds.foldl (fun n d => base * n + d) 0

def baseLetter? (base : Nat) : Option Char := [(2, 'b'), (8, 'o'), (16, 'x')].lookup base

def withoutBase (base : Nat) : List Char → List Char
  | '0' :: c :: cs => if baseLetter? base = some c.toLower then cs else '0' :: c :: cs
  | cs => cs

def integerIn? (base : Nat) (cs : List Char) : Option Int :=
  let (isNegative, cs) := Decimal.signed (Decimal.trimNumber cs)
  (naturalIn? base (withoutBase base cs)).map fun n => if isNegative then -n else n

def digitCount (cs : List Char) : Nat :=
  ((Decimal.signed (Decimal.trimNumber cs)).2.takeWhile fun c => (Text.digit? c).isSome).length

/-- Only digits with base ten are counted. -/
def readIntegerIn (base : Nat) (cs : List Char) : Except Failure Int :=
  if base = 10 ∧ mostDigits < digitCount cs then .error (.longInteger (digitCount cs))
  else match integerIn? base cs with
    | some i => .ok i
    | none => .error (.badInteger (String.ofList cs) base)

def withoutGaps (cs : List Char) : List Char := cs.filter (· != '_')

def sixtieths (ns : List Int) : Int := ns.foldl (fun n d => 60 * n + d) 0

def readUnsignedInteger (cs : List Char) : Except Failure Int :=
  match cs with
  | [] => .error .emptyNumber
  | ['0'] => .ok 0
  | '0' :: 'b' :: ds => readIntegerIn 2 ds
  | '0' :: 'x' :: ds => readIntegerIn 16 ds
  | '0' :: _ => readIntegerIn 8 cs
  | _ =>
    if cs.contains ':' then ((Tag.parts ':' cs).mapM (readIntegerIn 10)).map sixtieths
    else readIntegerIn 10 cs

def readInteger (text : List Char) : Except Failure Int :=
  match withoutGaps text with
  | [] => .error .emptyNumber
  | cs =>
    let (isNegative, cs) := Decimal.signed cs
    (readUnsignedInteger cs).map fun i => if isNegative then -i else i

def readRealPart (cs : List Char) : Except Failure Float :=
  match readFloat? cs with
  | some x => .ok x
  | none => .error (.badReal (String.ofList cs))

/-- The first power of sixty beyond all floating-point numbers: of more parts than that, the first
has none. -/
def mostParts : Nat := 174

example : (Decimal.toFloat ⟨60 ^ (mostParts - 1), 0⟩).isFinite ∧
    (Decimal.toFloat ⟨60 ^ mostParts, 0⟩).isInf := by decide +kernel

/-- The sum of the parts, from the last to the first, each with its power of sixty. -/
def realSixtieths (xs : List Float) : Except Failure Float :=
  if mostParts < xs.length then .error .tooManyParts
  else .ok (xs.reverse.foldl (fun (sum, power) x =>
    (sum + x * Decimal.toFloat ⟨power, 0⟩, 60 * power)) ((0.0 : Float), (1 : Nat))).1

def readUnsignedReal (cs : List Char) : Except Failure Float :=
  match String.ofList cs with
  | ".inf" => .ok (1.0 / 0.0)
  | ".nan" => .ok (0.0 / 0.0)
  | _ =>
    if cs.contains ':' then ((Tag.parts ':' cs).mapM readRealPart).bind realSixtieths
    else readRealPart cs

def readReal (text : List Char) : Except Failure Float :=
  match withoutGaps (Text.lower text) with
  | [] => .error .emptyNumber
  | cs =>
    let (isNegative, cs) := Decimal.signed cs
    (readUnsignedReal cs).map fun x => if isNegative then -x else x

def readTruth (text : List Char) : Except Failure Bool :=
  match Tag.truthWords.lookup (String.ofList (Text.lower text)) with
  | some b => .ok b
  | none => .error .badTruth

def readMoment (text : List Char) : Except Failure Moment :=
  match Moment.read? (Tag.withoutLastBreak text) with
  | none => .error .badMoment
  | some m =>
    match m.check with
    | .ok () => .ok m
    | .error fault => .error (.impossibleMoment fault)

def readBytes (text : List Char) : Except Failure (List UInt8) :=
  if text.all (·.toNat < 0x80) then
    match Text.decodeBase64? text with
    | some bs => .ok bs
    | none => .error .invalid
  else .error .invalid

/-- The value of a text that is tagged as a scalar. -/
def Value.ofText (tag : Tag) (text : String) : Except Failure Value :=
  let cs := text.toList
  match tag with
  | .null => .ok .null
  | .truth => (readTruth cs).map .truth
  | .integer => (readInteger cs).map .integer
  | .real => (readReal cs).map .real
  | .text => .ok (.text text)
  | .moment => (readMoment cs).map .moment
  | .binary => (readBytes cs).map .bytes
  | _ => .error .invalid

def Tag.isCollection : Tag → Bool
  | .sequence | .mapping | .set | .orderedMapping | .pairs => true
  | _ => false

def Node.tag : Node → Tag
  | .scalar tag _ | .sequence tag _ | .mapping tag _ => tag
  | .enclosing => .unknown

def Node.mayBeKey : Node → Bool
  | .enclosing => false
  | n => !n.tag.isCollection

def Node.text? : Node → Option String
  | .scalar _ text => some text
  | .mapping _ pairs => ofPairs pairs
  | _ => none
where
  ofPairs : List (Node × Node) → Option String
    | [] => none
    | (key, value) :: pairs => if key.tag = .defaultValue then value.text? else ofPairs pairs

mutual

def Node.takesMappings : List (Node × Node) → Bool
  | [] => true
  | (key, value) :: ps => (key.tag ≠ .merge || value.isTaken) && takesMappings ps

def Node.isTaken : Node → Bool
  | .enclosing => true
  | .mapping _ ps => takesMappings ps
  | .sequence _ items => areTaken items
  | .scalar _ _ => false

def Node.areTaken : List Node → Bool
  | [] => true
  | .enclosing :: ns => areTaken ns
  | .mapping _ ps :: ns => takesMappings ps && areTaken ns
  | _ => false

end

/-- What is wrong with a node, and the number of collections around the place where it shows. -/
structure Fault where
  depth : Nat
  cause : Failure
  deriving DecidableEq, Repr

namespace Fault

variable {α β : Type}

/-- Of two faults the one that is less deep shows first, else the one in front. -/
def first (f g : Fault) : Fault := if g.depth < f.depth then g else f

def both : Except Fault α → Except Fault β → Except Fault (α × β)
  | .ok a, .ok b => .ok (a, b)
  | .ok _, .error g => .error g
  | .error f, .ok _ => .error f
  | .error f, .error g => .error (f.first g)

def inside (x : Except Fault α) : Except Fault α :=
  x.mapError fun f => { f with depth := f.depth + 1 }

def here (x : Except Failure α) : Except Fault α := x.mapError (⟨0, ·⟩)

def invalid : Except Fault α := here (.error .invalid)

def cons (x : Except Fault α) (xs : Except Fault (List α)) : Except Fault (List α) :=
  (both x xs).map fun p => p.1 :: p.2

def append (xs ys : Except Fault (List α)) : Except Fault (List α) :=
  (both xs ys).map fun p => p.1 ++ p.2

end Fault

/-- A mapping's own pairs after those of the mappings that it takes in. -/
structure Entries where
  merged : Except Fault (List (Value × Value))
  own : Except Fault (List (Value × Value))

def Entries.all (es : Entries) : Except Fault (List (Value × Value)) :=
  Fault.append es.merged es.own

namespace Value

open Fault

/-- A tag that a node of its form cannot have. That of a collection shows when it is entered. -/
def misplaced (tag : Tag) : Except Fault Value :=
  if tag.isCollection then inside invalid else invalid

def ofMappingText (tag : Tag) (ps : List (Node × Node)) : Except Fault Value :=
  match Node.text?.ofPairs ps with
  | some s => here (if tag = .moment then .error .momentInMapping else ofText tag s)
  | none => invalid

/-- What a node that has some value is as a key. A default key is a text. -/
def asKey : Node → Except Fault Value → Except Fault Value
  | .scalar .defaultValue s, _ => .ok (text s)
  | .mapping .defaultValue ps, _ => ofMappingText .text ps
  | key, value => if key.mayBeKey then value else invalid

mutual

def ofNode : Node → Except Fault Value
  | .enclosing => .ok .enclosing
  | .scalar tag s => if tag.isCollection then misplaced tag else here (ofText tag s)
  | .sequence tag items =>
    match tag with
    | .sequence => inside ((ofItems items).map list)
    | .orderedMapping | .pairs => inside ((ofSingles items).map pairs)
    | _ => misplaced tag
  | .mapping tag ps =>
    match tag with
    | .mapping => inside (if Node.takesMappings ps then (ofPairs ps).all.map record else invalid)
    | .set =>
      inside (if Node.takesMappings ps then (ofPairs ps).all.map (set ∘ List.map Prod.fst)
        else invalid)
    | .sequence | .orderedMapping | .pairs => misplaced tag
    | _ => ofMappingText tag ps

def ofItems : List Node → Except Fault (List Value)
  | [] => .ok []
  | n :: ns => cons (ofNode n) (ofItems ns)

def ofPairs : List (Node × Node) → Entries
  | [] => ⟨.ok [], .ok []⟩
  | (key, value) :: ps =>
    let es := ofPairs ps
    if key.tag = .merge then ⟨append (merged value) es.merged, es.own⟩
    else ⟨es.merged, cons (both (asKey key (ofNode key)) (ofNode value)) es.own⟩

def merged : Node → Except Fault (List (Value × Value))
  | .enclosing => .ok []
  | .mapping _ ps => (ofPairs ps).all
  | .sequence _ items => mergedItems items
  | .scalar _ _ => invalid

def mergedItems : List Node → Except Fault (List (Value × Value))
  | [] => .ok []
  | .enclosing :: ns => mergedItems ns
  | .mapping _ ps :: ns => append (mergedItems ns) (ofPairs ps).all
  | _ => invalid

def ofSingles : List Node → Except Fault (List (Value × Value))
  | [] => .ok []
  | .mapping _ [(key, value)] :: ns => cons (both (ofNode key) (ofNode value)) (ofSingles ns)
  | _ => invalid

end

end Value

/-- Whatever makes a value of a stream. -/
abbrev Reader := List Char → Except Failure Value

def read (cs : List Char) : Except Failure Value := do
  match ← readNode? cs with
  | some n => (Value.ofNode n).mapError Fault.cause
  | none => pure .null

end Articulation.Yaml
