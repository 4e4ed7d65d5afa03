/-!
The arguments of a command: options, some of them with values, and all that is no option.
-/
set_option autoImplicit false

namespace Articulation.CommandLine

inductive UsageError where
  | noArguments
  | noCommand
  | unknownCommand (name : String)
  | unknownOption (name : String)
  | noValue (option : String)
  | surplusValue (option : String)
  | badChoice (option value : String) (choices : List String)
  | missingArgument (name : String)
  | surplusArguments (arguments : List String)
  | absentPath (argument path : String)
  | notADirectory (argument path : String)
  deriving DecidableEq, Repr

structure OptionForm (ι : Type) where
  names : List String
  meaning : ι
  takesValue : Bool

structure OptionUse (ι : Type) where
  meaning : ι
  value : String

structure Arguments (ι : Type) where
  options : List (OptionUse ι)
  others : List String

namespace Arguments

variable {ι : Type}

def last? [BEq ι] (a : Arguments ι) (meaning : ι) : Option String :=
  (a.options.reverse.find? (·.meaning == meaning)).map (·.value)

def has [BEq ι] (a : Arguments ι) (meaning : ι) : Bool := (a.last? meaning).isSome

def form? (forms : List (OptionForm ι)) (name : String) : Option (OptionForm ι) :=
  forms.find? (·.names.contains name)

/-- Options in one argument: those without a value, and perhaps one with a value, which is in the
same argument or in the next. -/
structure Group (ι : Type) where
  flags : List ι
  valued : Option (String × ι × Option String)

def letters (forms : List (OptionForm ι)) : List Char → Except UsageError (Group ι)
  | [] => .ok ⟨[], none⟩
  | c :: cs =>
    let name := String.ofList ['-', c]
    match form? forms name with
    | none => .error (.unknownOption name)
    | some f =>
      if f.takesValue then
        .ok ⟨[], some (name, f.meaning, if cs.isEmpty then none else some (String.ofList cs))⟩
      else (letters forms cs).map fun g => { g with flags := f.meaning :: g.flags }

def group (forms : List (OptionForm ι)) (argument : String) : Except UsageError (Group ι) :=
  let cs := argument.toList
  let name := String.ofList (cs.takeWhile (· != '='))
  let value := if cs.contains '=' then some (String.ofList ((cs.dropWhile (· != '=')).drop 1)) else none
  match cs with
  | '-' :: '-' :: _ =>
    match form? forms name, value with
    | none, _ => .error (.unknownOption name)
    | some f, value =>
      if f.takesValue then .ok ⟨[], some (name, f.meaning, value)⟩
      else if value.isSome then .error (.surplusValue name)
      else .ok ⟨[f.meaning], none⟩
  | _ => letters forms (cs.drop 1)

def isOption (argument : String) : Bool :=
  match argument.toList with
  | '-' :: _ :: _ => true
  | _ => false

def before (uses : List (OptionUse ι)) (a : Arguments ι) : Arguments ι :=
  { a with options := uses ++ a.options }

/-- Two dashes end the options. Unless options may stand between other arguments, the first other
argument ends them too. -/
def read (forms : List (OptionForm ι)) (mayMix : Bool) :
    List String → Except UsageError (Arguments ι)
  | [] => .ok ⟨[], []⟩
  | a :: rest =>
    if a = "--" then .ok ⟨[], rest⟩
    else if isOption a then
      match group forms a with
      | .error e => .error e
      | .ok g =>
        let flags := g.flags.map fun i => (⟨i, ""⟩ : OptionUse ι)
        match g.valued with
        | none => (read forms mayMix rest).map (before flags)
        | some (_, i, some v) => (read forms mayMix rest).map (before (flags ++ [⟨i, v⟩]))
        | some (name, i, none) =>
          match rest with
          | [] => .error (.noValue name)
          | v :: rest => (read forms mayMix rest).map (before (flags ++ [⟨i, v⟩]))
    else if mayMix then
      (read forms mayMix rest).map fun r => { r with others := a :: r.others }
    else .ok ⟨[], a :: rest⟩

end Arguments

end Articulation.CommandLine
