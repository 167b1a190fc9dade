/-
# Command-line arguments

Arguments are options with or without a value, positional values, and at most
one subcommand, which takes over from its name on.  This file reads a list of
arguments against a description of what is allowed; a value is checked when the
argument behind it is met, or at the end.
-/
set_option autoImplicit false

namespace ControllerLink

/-- Why arguments are not accepted, or what is shown instead of running. -/
inductive UsageError where
  | displayHelp
  | displayVersion
  /-- There are no arguments although some are needed. -/
  | displayHelpOnMissing
  | missingSubcommand
  | invalidSubcommand
  | unknownArgument
  | missingRequired
  /-- An option that takes one value was given again. -/
  | conflict
  /-- The value is missing, or is not one of the allowed ones. -/
  | invalidValue
  /-- The value does not pass its check. -/
  | valueValidation
  /-- A value was given to an option that takes none. -/
  | tooManyValues
deriving DecidableEq, Repr

/-- The exit status that goes with it. -/
def UsageError.code : UsageError → Nat
  | displayHelp | displayVersion => 0
  | _ => 2

/-- What an argument is for. -/
inductive ArgumentRole where
  /-- An option with a value. -/
  | value
  /-- An option without one. -/
  | switch
  /-- A value by its position. -/
  | positional
  /-- An option that shows help. -/
  | help
  /-- An option that shows the version. -/
  | version
deriving DecidableEq, Repr

/-- An argument that is allowed. -/
structure ArgumentSpec where
  name : String
  role : ArgumentRole
  /-- The one-letter form of an option. -/
  letter : Option Char
  /-- What is wrong with a value. -/
  check : String → Option UsageError
  required : Bool
  /-- The environment variable that stands in for it. -/
  env : Option String
  /-- The value where none is given. -/
  standard : Option String

namespace ArgumentSpec

/-- An option with a value that is checked. -/
def option (name : String) (check : String → Option UsageError) (standard : Option String) :
    ArgumentSpec :=
  ⟨name, .value, none, check, false, none, standard⟩

/-- An option without a value. -/
def switch (name : String) : ArgumentSpec :=
  ⟨name, .switch, none, fun _ => none, false, none, none⟩

/-- The option that shows help. -/
def help : ArgumentSpec :=
  ⟨"help", .help, some 'h', fun _ => none, false, none, none⟩

/-- The option that shows the version. -/
def version : ArgumentSpec :=
  ⟨"version", .version, some 'V', fun _ => none, false, none, none⟩

/-- Any text. -/
def anyText (_ : String) : Option UsageError := none

/-- One of some words. -/
def oneOf (words : List String) (s : String) : Option UsageError :=
  if words.contains s then none else some .invalidValue

end ArgumentSpec

/-- Arguments read so far. -/
structure ArgumentState where
  /-- Options and positional values by name; a switch has an empty value. -/
  given : List (String × String)
  /-- An argument whose value, once it is there, has still to be checked. -/
  pending : Option (ArgumentSpec × Option String)
  /-- Whether only positional values are left. -/
  trailing : Bool
  /-- How many positional values there were. -/
  positions : Nat

namespace ArgumentState

/-- Nothing read yet. -/
def empty : ArgumentState := ⟨[], none, false, 0⟩

/-- Whether an argument has been given. -/
def has (s : ArgumentState) (name : String) : Bool :=
  s.given.any fun g => g.1 == name

/-- The value of an argument. -/
def value? (s : ArgumentState) (name : String) : Option String :=
  (s.given.find? fun g => g.1 == name).map Prod.snd

/-- Take an argument and its value. -/
def record (s : ArgumentState) (a : ArgumentSpec) (value : String) :
    Except UsageError ArgumentState :=
  if s.has a.name then .error .conflict
  else
    match a.check value with
    | some e => .error e
    | none => .ok { s with given := s.given ++ [(a.name, value)] }

/-- Settle the pending argument. -/
def settle (s : ArgumentState) : Except UsageError ArgumentState :=
  match s.pending with
  | none => .ok s
  | some (_, none) => .error .invalidValue
  | some (a, some value) => { s with pending := none }.record a value

/-- Whether the next argument is the value of an option. -/
def awaitsValue (s : ArgumentState) : Bool :=
  match s.pending with
  | some (a, none) => a.role = .value
  | _ => false

/-- Meet an option that stands alone. -/
def meet (s : ArgumentState) (a : ArgumentSpec) : Except UsageError ArgumentState := do
  let s ← s.settle
  match a.role with
  | .help => throw .displayHelp
  | .version => throw .displayVersion
  | .value | .positional => return { s with pending := some (a, none) }
  | .switch => s.record a ""

/-- Meet an option in its long form, perhaps with a value attached. -/
def meetLong (s : ArgumentState) (specs : List ArgumentSpec) (name : String)
    (attached : Option String) : Except UsageError ArgumentState :=
  match specs.find? fun a => a.role ≠ .positional ∧ a.name = name with
  | none => .error .unknownArgument
  | some a =>
    match attached with
    | none => s.meet a
    | some value =>
      if a.role = .value then do (← s.settle).record a value
      else .error .tooManyValues

/-- Meet options in their one-letter forms. -/
def meetLetters (specs : List ArgumentSpec) : ArgumentState → List Char →
    Except UsageError ArgumentState
  | s, [] => .ok s
  | s, c :: cs =>
    match specs.find? fun a => a.letter = some c with
    | none => .error .unknownArgument
    | some a => do meetLetters specs (← s.meet a) cs

/-- Meet a positional value. -/
def meetPosition (s : ArgumentState) (specs : List ArgumentSpec) (isCommand : Bool)
    (arg : String) : Except UsageError ArgumentState :=
  match (specs.filter fun a => a.role = .positional)[s.positions]? with
  | some a => do
    let s ← s.settle
    return { s with pending := some (a, some arg), positions := s.positions + 1 }
  | none => .error (if isCommand then .invalidSubcommand else .unknownArgument)

end ArgumentState

/-- A long option split at its equals sign. -/
def splitAttached (cs : List Char) : String × Option String :=
  match cs.dropWhile (· != '=') with
  | [] => (String.ofList cs, none)
  | _ :: value => (String.ofList (cs.takeWhile (· != '=')), some (String.ofList value))

/-- Arguments of one level, and the subcommand they end with: its name and the
arguments behind it. -/
structure LevelArguments where
  state : ArgumentState
  subcommand : Option (String × List String)

/-- Read the arguments of one level up to a subcommand. -/
def readLevel (specs : List ArgumentSpec) (subcommands : List String) :
    ArgumentState → List String → Except UsageError LevelArguments
  | s, [] => .ok ⟨s, none⟩
  | s, arg :: rest =>
    let position : Except UsageError LevelArguments :=
      if s.trailing ∧ subcommands.contains arg then .error .unknownArgument
      else do
        let s ← s.meetPosition specs (subcommands ≠ []) arg
        readLevel specs subcommands s rest
    if s.trailing then position
    else if !s.awaitsValue && subcommands.contains arg then .ok ⟨s, some (arg, rest)⟩
    else
      match arg.toList with
      | ['-', '-'] => readLevel specs subcommands { s with trailing := true } rest
      | '-' :: '-' :: long => do
        let (name, attached) := splitAttached long
        let s ← s.meetLong specs name attached
        readLevel specs subcommands s rest
      | '-' :: letter :: letters => do
        let s ← s.meetLetters specs (letter :: letters)
        readLevel specs subcommands s rest
      | _ =>
        match s.pending with
        | some (a, none) =>
          readLevel specs subcommands { s with pending := some (a, some arg) } rest
        | _ => position

/-- Fill in the environment for one argument. -/
def fillIn (env : String → Option String) (s : ArgumentState) (a : ArgumentSpec) :
    Except UsageError ArgumentState :=
  match a.env.bind env with
  | none => .ok s
  | some value => if s.has a.name then .ok s else s.record a value

/-- Settle the last argument, fill in the environment, and see that nothing is missing. -/
def finishLevel (specs : List ArgumentSpec) (env : String → Option String) (s : ArgumentState) :
    Except UsageError ArgumentState := do
  let s ← s.settle
  let s ← specs.foldlM (fillIn env) s
  if specs.any fun a => a.required && !s.has a.name then throw .missingRequired
  return s

/-- The value of an argument, or else its standard value. -/
def ArgumentState.valueOr (s : ArgumentState) (a : ArgumentSpec) : String :=
  (s.value? a.name).getD (a.standard.getD "")

end ControllerLink
