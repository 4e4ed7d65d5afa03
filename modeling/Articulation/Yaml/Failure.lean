import Articulation.Text.Quoted
/-!
Why a stream gives no value.
-/
set_option autoImplicit false

namespace Articulation

/-- What a failure is an error of. Those who call the program tell failures apart by it. -/
inductive ErrorClass where
  | value | type | key | index | attribute | overflow | system | other
  deriving DecidableEq, Repr

namespace Yaml

inductive MomentFault where
  | offset | year | month | day | hour | minute | second
  deriving DecidableEq, Repr

def MomentFault.message : MomentFault → String
  | offset => "offset must be less than a day"
  | year => "year 0 is out of range"
  | month => "month must be in 1..12"
  | day => "day is out of range for month"
  | hour => "hour must be in 0..23"
  | minute => "minute must be in 0..59"
  | second => "second must be in 0..59"

inductive Failure where
  /-- The stream is not YAML, or not in the part of it that plain data needs. -/
  | invalid
  | noSuchCharacter (number : Nat)
  | badInteger (text : String) (base : Nat)
  | badReal (text : String)
  | emptyNumber
  | longInteger (digits : Nat)
  /-- A number in base sixty has more parts than there are powers of sixty among the numbers. -/
  | tooManyParts
  | badTruth
  | badMoment
  /-- What is marked as a moment is no scalar, though a scalar stands for it. -/
  | momentInMapping
  | impossibleMoment (fault : MomentFault)
  /-- What else may end the work of a reader. -/
  | raised (errorClass : ErrorClass) (message : String)
  deriving DecidableEq, Repr

def mostDigits : Nat := 4300

/-- What is wrong with a value is not always an error of a value. -/
def Failure.errorClass : Failure → ErrorClass
  | invalid | badInteger .. | longInteger _ | badReal _ | impossibleMoment _ => .value
  | noSuchCharacter n => if n < 0x80000000 then .value else .overflow
  | tooManyParts => .overflow
  | emptyNumber => .index
  | badTruth => .key
  | badMoment => .attribute
  | momentInMapping => .type
  | raised c _ => c

def Failure.message? : Failure → Option String
  | invalid | emptyNumber | tooManyParts | badTruth | badMoment | momentInMapping => none
  | noSuchCharacter n => if n < 0x80000000 then some "chr() arg not in range(0x110000)" else none
  | badInteger text base =>
    let shown := String.ofList ((Text.quoted text).toList.take 200)
    some s!"invalid literal for int() with base {base}: {shown}"
  | longInteger digits => some (s!"Exceeds the limit ({mostDigits} digits) for integer string " ++
      s!"conversion: value has {digits} digits; use sys.set_int_max_str_digits() to increase " ++
      "the limit")
  | badReal text => some s!"could not convert string to float: {Text.quoted text}"
  | impossibleMoment fault => some fault.message
  | raised c message => if c = .value then some message else none

end Yaml

end Articulation
