import Articulation.Text.Digit
import Articulation.Yaml.Scalar
/-!
Days and times of day as scalars write them.
-/
set_option autoImplicit false

namespace Articulation.Yaml

structure TimeOfDay where
  hour : Nat
  minute : Nat
  second : Nat
  /-- The distance from the zero meridian in minutes; none is zero too. -/
  offset : Int
  deriving DecidableEq, Repr

structure Moment where
  year : Nat
  month : Nat
  day : Nat
  time : Option TimeOfDay
  deriving DecidableEq, Repr

namespace Moment

def number? (least most : Nat) (cs : List Char) : Option (Nat × List Char) :=
  let ds := (cs.take most).takeWhile Char.isDigit
  if ds.length < least then none
  else some (Text.natOfDigits (ds.map fun c => c.toNat - 48), cs.drop ds.length)

def skip? (c : Char) : List Char → Option (List Char)
  | [] => none
  | d :: cs => if c = d then some cs else none

def offset? : List Char → Option Int
  | [] => some 0
  | ['Z'] => some 0
  | c :: cs => do
    let (hours, rest) ← number? 1 2 cs
    let minutes ← match rest with
      | [] => some 0
      | ':' :: rest => do
        let (minutes, rest) ← number? 2 2 rest
        if rest.isEmpty then some minutes else none
      | _ => none
    let distance : Int := hours * 60 + minutes
    if c = '+' then some distance else if c = '-' then some (-distance) else none

def time? (cs : List Char) : Option TimeOfDay := do
  let (hour, rest) ← number? 1 2 cs
  let (minute, rest) ← number? 2 2 (← skip? ':' rest)
  let (second, rest) ← number? 2 2 (← skip? ':' rest)
  let rest := match rest with
    | '.' :: rest => rest.dropWhile Char.isDigit
    | rest => rest
  let zone := rest.dropWhile isBlank
  if zone.isEmpty && !rest.isEmpty then none else some ⟨hour, minute, second, ← offset? zone⟩

/-- The time of day follows a letter or some blanks. -/
def read? (cs : List Char) : Option Moment := do
  let (year, rest) ← number? 4 4 cs
  let (month, rest) ← number? 1 2 (← skip? '-' rest)
  let (day, rest) ← number? 1 2 (← skip? '-' rest)
  match rest with
  | [] => some ⟨year, month, day, none⟩
  | c :: cs =>
    if c == 'T' || c == 't' then some ⟨year, month, day, some (← time? cs)⟩
    else if isBlank c then some ⟨year, month, day, some (← time? (cs.dropWhile isBlank))⟩
    else none

/-- A day alone is known for one by its length only. -/
def isMoment (cs : List Char) : Bool :=
  match read? cs with
  | some m => m.time.isSome || cs.length == 10
  | none => false

def isLeap (year : Nat) : Bool := year % 4 == 0 && (year % 100 != 0 || year % 400 == 0)

def daysIn (year month : Nat) : Nat :=
  if month = 2 then if isLeap year then 29 else 28
  else if month ∈ [4, 6, 9, 11] then 30
  else 31

def check (m : Moment) : Except MomentFault Unit := do
  if (m.time.map fun t => decide (1440 ≤ t.offset.natAbs)).getD false then throw .offset
  if m.year = 0 then throw .year
  if m.month < 1 ∨ 12 < m.month then throw .month
  if m.day < 1 ∨ daysIn m.year m.month < m.day then throw .day
  match m.time with
  | none => pure ()
  | some t =>
    if 24 ≤ t.hour then throw .hour
    if 60 ≤ t.minute then throw .minute
    if 60 ≤ t.second then throw .second

end Moment

example : Moment.isMoment "2001-12-14t21:59:43.10-05:00".toList ∧
    Moment.isMoment "2002-12-14".toList ∧ ¬ Moment.isMoment "2002-1-14".toList ∧
    Moment.read? "2002-1-14".toList = some ⟨2002, 1, 14, none⟩ := by decide +kernel

end Articulation.Yaml
