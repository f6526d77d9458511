/-!
# Command-line arguments

A command takes options, which begin with a hyphen, and positional arguments.

* An option is given by its long name, as `--name value` or `--name=value`, or by its letter, as
  `-n value` or `-nvalue`; letters of options without a value can stand together.
* Two hyphens end the options.
* `Arguments.read` sorts arguments into options and positional ones.
-/

set_option autoImplicit false

namespace Patchwork

/-- An option of a command. -/
structure OptionSpec where
  name : String
  letter : Option Char := none
  takesValue : Bool := false

/-- Why arguments were refused. -/
inductive UsageError where
  | noSuchOption (text : String)
  | needsValue (name : String)
  | takesNoValue (name : String)
  | noSuchCommand (name : String)
  | missingCommand
  | missingArgument (name : String)
  | unexpectedArgument (text : String)
  | invalidChoice (name text : String)
  deriving DecidableEq, Repr

/-- The error in words. -/
def UsageError.message : UsageError → String
  | .noSuchOption text => "No such option: " ++ text
  | .needsValue name => "Option '--" ++ name ++ "' requires an argument."
  | .takesNoValue name => "Option '--" ++ name ++ "' does not take a value."
  | .noSuchCommand name => "No such command '" ++ name ++ "'."
  | .missingCommand => "Missing command."
  | .missingArgument name => "Missing argument '" ++ name ++ "'."
  | .unexpectedArgument text => "Got unexpected extra argument (" ++ text ++ ")"
  | .invalidChoice name text => "Invalid value for '--" ++ name ++ "': '" ++ text ++ "'"

/-- What was given: the options in order with their values, and the positional arguments. -/
structure Arguments where
  options : List (String × Option String) := []
  positional : List String := []
  deriving Repr, Inhabited

namespace Arguments

/-- An option was given. -/
def has (a : Arguments) (name : String) : Bool := a.options.any fun o => o.1 = name

/-- All values given for an option, in order. -/
def values (a : Arguments) (name : String) : List String :=
  a.options.filterMap fun o => if o.1 = name then o.2 else none

/-- The last value given for an option. -/
def value? (a : Arguments) (name : String) : Option String := (a.values name).getLast?

/-- The arguments with one more option in front. -/
def withOption (o : String × Option String) (a : Arguments) : Arguments :=
  { a with options := o :: a.options }

/-- The options in one argument, and the option that still needs the next argument as its value. -/
abbrev Cluster := List (String × Option String) × Option OptionSpec

/-- The options in letters behind a hyphen. -/
def readLetters (specs : List OptionSpec) : List Char → Except UsageError Cluster
  | [] => .ok ([], none)
  | c :: rest =>
    match specs.find? fun spec => spec.letter = some c with
    | none => .error (.noSuchOption (String.ofList ['-', c]))
    | some spec =>
      if !spec.takesValue then do
        let (options, open?) ← readLetters specs rest
        return ((spec.name, none) :: options, open?)
      else if rest.isEmpty then .ok ([], some spec)
      else .ok ([(spec.name, some (String.ofList rest))], none)

/-- The option in an argument that begins with two hyphens; `name` is what follows them, up to the
first equals sign, and `value?` what follows that. -/
def readName (specs : List OptionSpec) (name : String) (value? : Option String) :
    Except UsageError Cluster :=
  match specs.find? fun spec => spec.name = name, value? with
  | none, _ => .error (.noSuchOption ("--" ++ name))
  | some spec, some v =>
    if spec.takesValue then .ok ([(name, some v)], none) else .error (.takesNoValue name)
  | some spec, none => if spec.takesValue then .ok ([], some spec) else .ok ([(name, none)], none)

/-- The options in an argument that begins with a hyphen. -/
def readCluster (specs : List OptionSpec) (arg : List Char) : Except UsageError Cluster :=
  match arg with
  | '-' :: '-' :: body =>
    let name := body.takeWhile (· ≠ '=')
    let value? := if name.length < body.length then
        some (String.ofList (body.drop (name.length + 1)))
      else none
    readName specs (String.ofList name) value?
  | _ => readLetters specs (arg.drop 1)

/-- Sorts arguments.  With `mixed`, options may also follow positional arguments; without it the
first positional argument ends the options.  `pending` is an option that waits for its value. -/
def readFrom (specs : List OptionSpec) (mixed : Bool) :
    (pending : Option OptionSpec) → List String → Except UsageError Arguments
  | some spec, [] => .error (.needsValue spec.name)
  | some spec, arg :: rest => withOption (spec.name, some arg) <$> readFrom specs mixed none rest
  | none, [] => .ok {}
  | none, arg :: rest =>
    if arg = "--" then .ok { positional := rest }
    else if arg.startsWith "-" && 1 < arg.length then do
      let (options, pending) ← readCluster specs arg.toList
      let others ← readFrom specs mixed pending rest
      return { others with options := options ++ others.options }
    else if mixed then do
      let others ← readFrom specs mixed none rest
      return { others with positional := arg :: others.positional }
    else .ok { positional := arg :: rest }

/-- Sorts arguments into options and positional ones. -/
def read (specs : List OptionSpec) (mixed : Bool) (args : List String) :
    Except UsageError Arguments :=
  readFrom specs mixed none args

/-- The one positional argument of a command. -/
def only (a : Arguments) (name : String) : Except UsageError String :=
  match a.positional with
  | [] => .error (.missingArgument name)
  | [text] => .ok text
  | _ :: extra :: _ => .error (.unexpectedArgument extra)

/-- A command that takes no positional argument was given none. -/
def noPositional (a : Arguments) : Except UsageError Unit :=
  match a.positional with
  | [] => .ok ()
  | extra :: _ => .error (.unexpectedArgument extra)

end Arguments
end Patchwork
