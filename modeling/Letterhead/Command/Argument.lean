import Letterhead.Text.Quoted

/-
  Arguments of a command line: options, each with its value if it takes one, and everything else.
  Short options can be written together, and a value can be part of the argument that names its
  option. Two dashes end the options.
-/

namespace Letterhead.Command

/-- The names of an option, whether it takes a value, and what it stands for. -/
structure OptionSpec (α : Type) where
  names : List Text
  takesValue : Bool
  key : α

/-- An option that was given; one that takes no value has an empty one. -/
structure Given (α : Type) where
  key : α
  value : Text

/-- Why arguments cannot be told apart. -/
inductive ArgumentError where
  | unknownOption (name : Text)
  | noValue (name : Text)
  | unwantedValue (name : Text)
  deriving DecidableEq, Repr

def ArgumentError.message : ArgumentError → String
  | unknownOption name => "No such option " ++ name.quotedString ++ "."
  | noValue name => "Option " ++ name.quotedString ++ " requires an argument."
  | unwantedValue name => "Option " ++ name.quotedString ++ " does not take a value."

/-- What one argument says: the options in it, and the option that takes the next argument as its
value. -/
structure Reading (α : Type) where
  given : List (Given α)
  open? : Option (α × Text) := none

variable {α : Type}

/-- The option of a name. -/
def specOf? (specs : List (OptionSpec α)) (name : Text) : Option (OptionSpec α) :=
  specs.find? fun s => s.names.contains name

/-- A name with the value that follows an equals sign. -/
def cutValue (arg : Text) : Text × Option Text :=
  match Text.cutAt? ['='] arg with
  | some (name, value) => (name, some value)
  | none => (arg, none)

/-- Read an option that begins with two dashes. -/
def readLong (specs : List (OptionSpec α)) (arg : Text) : Except ArgumentError (Reading α) :=
  let (name, value?) := cutValue arg
  match specOf? specs name, value? with
  | none, _ => .error (.unknownOption name)
  | some s, some value =>
    if s.takesValue then .ok ⟨[⟨s.key, value⟩], none⟩ else .error (.unwantedValue name)
  | some s, none =>
    if s.takesValue then .ok ⟨[], some (s.key, name)⟩ else .ok ⟨[⟨s.key, []⟩], none⟩

/-- Read the letters of short options. -/
def readShort (specs : List (OptionSpec α)) : Text → Except ArgumentError (Reading α)
  | [] => .ok ⟨[], none⟩
  | c :: letters =>
    let name := ['-', c]
    match specOf? specs name with
    | none => .error (.unknownOption name)
    | some s =>
      if s.takesValue then
        if letters = [] then .ok ⟨[], some (s.key, name)⟩ else .ok ⟨[⟨s.key, letters⟩], none⟩
      else do
        let r ← readShort specs letters
        return { r with given := ⟨s.key, []⟩ :: r.given }

/-- Read an argument that names options; nothing for one that does not. -/
def readOptions? (specs : List (OptionSpec α)) (arg : Text) :
    Option (Except ArgumentError (Reading α)) :=
  match arg with
  | '-' :: '-' :: _ => some (readLong specs arg)
  | '-' :: c :: letters => some (readShort specs (c :: letters))
  | _ => none

/-- Read arguments: the options, and the other arguments. Without `interspersed` the first argument
that is no option ends the options. -/
def readArguments (specs : List (OptionSpec α)) (interspersed : Bool) :
    List Text → Except ArgumentError (List (Given α) × List Text)
  | [] => .ok ([], [])
  | arg :: args =>
    if arg = ['-', '-'] then .ok ([], args)
    else
      match readOptions? specs arg with
      | none =>
        if interspersed then do
          let (given, others) ← readArguments specs interspersed args
          return (given, arg :: others)
        else .ok ([], arg :: args)
      | some (.error e) => .error e
      | some (.ok ⟨given, none⟩) => do
        let (more, others) ← readArguments specs interspersed args
        return (given ++ more, others)
      | some (.ok ⟨given, some (key, name)⟩) =>
        match args with
        | [] => .error (.noValue name)
        | value :: args => do
          let (more, others) ← readArguments specs interspersed args
          return (given ++ ⟨key, value⟩ :: more, others)

end Letterhead.Command
