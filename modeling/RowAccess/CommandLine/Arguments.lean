import RowAccess.Text.Split
/-!
# Arguments of a command line

Parameters are given as `--name value`, `--name=value` or by a letter, as in `-n value`; what follows
`--` is no parameter. A value that has been given counts only once the next argument is read, so that of
two faults the earlier one may show.
-/

namespace RowAccess.CommandLine

/-- Why a command line is not carried out. -/
inductive Usage where
  /-- Help was asked for. -/
  | help
  /-- The version was asked for. -/
  | version
  /-- Nothing was asked for. -/
  | nothing
  | unknownArgument
  | unknownCommand
  | missingCommand
  /-- A value is missing or not accepted. -/
  | invalidValue
  /-- A value was given to a parameter that has none. -/
  | needlessValue
  /-- A parameter that is given once was given again. -/
  | repeated
  | missingParameter
deriving DecidableEq, Repr, Inhabited

/-- How a parameter is given. -/
inductive Arity where
  /-- Without a value. -/
  | flag
  /-- Once, with a value. -/
  | once
  /-- Any number of times, each with a value. -/
  | many
  | help
  | version
deriving DecidableEq, Repr, Inhabited

/-- A parameter of a command. -/
structure Parameter where
  name : String
  letter : Option Char
  arity : Arity
  /-- Whether a value is accepted. -/
  accepts : String → Bool

namespace Parameter

/-- Whether a parameter is given with a value. -/
def hasValue (p : Parameter) : Bool := p.arity == .once || p.arity == .many

/-- A flag. -/
def flag (name : String) : Parameter := ⟨name, none, .flag, fun _ => true⟩

/-- A parameter that is given once, with any value. -/
def once (name : String) : Parameter := ⟨name, none, .once, fun _ => true⟩

/-- A parameter that is given any number of times. -/
def many (name : String) : Parameter := ⟨name, none, .many, fun _ => true⟩

/-- The parameter that asks for help. -/
def help : Parameter := ⟨"help", some 'h', .help, fun _ => true⟩

end Parameter

/-- What a command is given. -/
structure Shape where
  parameters : List Parameter
  /-- The name of the value that is given without a name, if the command has one. -/
  positional : Option String
  /-- The commands within the command. -/
  commands : List String

/-- A value that has not been counted yet: its parameter, and the value once it has been given. -/
structure Pending where
  parameter : Parameter
  value : Option String

/-- What has been given. -/
structure Given where
  /-- The values by names, in order; a flag has an empty one. -/
  values : List (String × String)
  pending : Option Pending

namespace Given

/-- Nothing given. -/
def none : Given := ⟨[], .none⟩

/-- The values of a name. -/
def all (g : Given) (name : String) : List String :=
  (g.values.filter fun v => v.1 == name).map (·.2)

/-- The value of a name. -/
def one? (g : Given) (name : String) : Option String := g.values.lookup name

/-- Whether a name was given. -/
def has (g : Given) (name : String) : Bool := (g.one? name).isSome

/-- Counts a value of a parameter. -/
def count (g : Given) (p : Parameter) (value : Option String) : Except Usage Given :=
  match p.arity with
  | .help => .error .help
  | .version => .error .version
  | .flag =>
    if g.has p.name then .error .repeated else .ok { g with values := g.values ++ [(p.name, "")] }
  | .once | .many =>
    match value with
    | .none => .error .invalidValue
    | some v =>
      if p.arity = .once && g.has p.name then .error .repeated
      else if p.accepts v then .ok { g with values := g.values ++ [(p.name, v)] }
      else .error .invalidValue

/-- Counts the value that has not been counted yet. -/
def settle (g : Given) : Except Usage Given :=
  match g.pending with
  | .none => .ok g
  | some p => ({ g with pending := .none }).count p.parameter p.value

/-- Whether a value is expected next. -/
def isWaiting (g : Given) : Bool :=
  match g.pending with
  | some ⟨_, .none⟩ => true
  | _ => false

/-- A parameter, with the value attached to it if there is one. -/
def take (g : Given) (p : Parameter) (attached : Option String) : Except Usage Given := do
  let g ← g.settle
  if p.hasValue && attached.isNone then return { g with pending := some ⟨p, .none⟩ }
  else g.count p attached

/-- A value that stands alone: that of the parameter before it, or one without a name. -/
def takeValue (g : Given) (value : String) : Option Given :=
  match g.pending with
  | some ⟨p, .none⟩ => some { g with pending := some ⟨p, some value⟩ }
  | _ => .none

end Given

/-! ## Reading -/

/-- A parameter given by its name, after the dashes. -/
def readLong (s : Shape) (g : Given) (text : List Char) : Except Usage Given :=
  let (name, attached) := match Text.cutFirst? '=' text with
    | some (name, value) => (String.ofList name, some (String.ofList value))
    | none => (String.ofList text, none)
  match s.parameters.find? fun p => p.name == name with
  | none => .error .unknownArgument
  | some p => if !p.hasValue && attached.isSome then .error .needlessValue else g.take p attached

/-- Parameters given by their letters, after the dash. What follows the letter of a parameter with a
value is its value. -/
def readShort (s : Shape) (g : Given) : List Char → Except Usage Given
  | [] => .ok g
  | c :: cs =>
    match s.parameters.find? fun p => p.letter == some c with
    | none => .error .unknownArgument
    | some p =>
      if p.hasValue then
        match cs with
        | [] => g.take p none
        | '=' :: value => g.take p (some (String.ofList value))
        | value => g.take p (some (String.ofList value))
      else do readShort s (← g.take p none) cs

/-- A command within the command, and the arguments after it. -/
abbrev Inner := String × List String

/-- Reads arguments up to a command within the command. After `--`, `trailing`, all of them are values
without a name. -/
def read (s : Shape) (g : Given) (trailing : Bool) :
    List String → Except Usage (Given × Option Inner)
  | [] => .ok (g, none)
  | arg :: rest =>
    let alone : Except Usage (Given × Option Inner) :=
      match s.positional with
      | some name =>
        if g.pending.any (fun p => p.parameter.name == name) || g.has name then
          if s.commands.isEmpty || (trailing && s.commands.contains arg) then
            .error .unknownArgument
          else .error .unknownCommand
        else do
          let g ← g.settle
          read s { g with pending := some ⟨.once name, some arg⟩ } trailing rest
      | none =>
        if s.commands.isEmpty || (trailing && s.commands.contains arg) then .error .unknownArgument
        else .error .unknownCommand
    if trailing then alone
    else if !g.isWaiting && s.commands.contains arg then .ok (g, some (arg, rest))
    else if arg = "--" then read s g true rest
    else match arg.toList with
      | '-' :: '-' :: text => do read s (← readLong s g text) false rest
      | '-' :: c :: text => do read s (← readShort s g (c :: text)) false rest
      | _ =>
        match g.takeValue arg with
        | some g => read s g false rest
        | none => alone

end RowAccess.CommandLine
