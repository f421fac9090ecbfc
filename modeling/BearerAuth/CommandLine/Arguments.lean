import BearerAuth.CommandLine.Help
import BearerAuth.Text.Blank
import BearerAuth.Text.Split

/-!
# Arguments of the program

The first argument is a verb, and the others are its options. An option that
does not repeat is given once. A value that stands by itself does not begin with
a hyphen, and it is looked at only when what comes after it is known to be an
argument.

- `Command.read`: what the arguments ask for.
- `readField`: the name and the value that a `--field` gives.
-/

namespace BearerAuth.CommandLine

/-! ## What may be wrong -/

/-- What is wrong with the value of a `--field`. -/
inductive FieldError where
  | noEquals (raw : String)
  | emptyName (raw : String)
  deriving DecidableEq, Repr

/-- The wording of the error. -/
def FieldError.message : FieldError → String
  | .noEquals raw => "expected name=value, got '" ++ raw ++ "'"
  | .emptyName raw => "empty column name in '" ++ raw ++ "'"

/-- Why the arguments ask for nothing. -/
inductive UsageError where
  | noVerb
  | unknownVerb (word : String)
  | unexpected (argument : String)
  | missingValue (option : OptionSpec)
  | repeated (option : OptionSpec)
  | missingOption (option : OptionSpec)
  | malformedField (raw : String) (why : FieldError)
  deriving DecidableEq, Repr

/-- The wording of the error. -/
def UsageError.message : UsageError → String
  | .noVerb => "'" ++ programName ++ "' requires a subcommand but one was not provided"
  | .unknownVerb word => "unrecognized subcommand '" ++ word ++ "'"
  | .unexpected argument => "unexpected argument '" ++ argument ++ "' found"
  | .missingValue option => "a value is required for '" ++ option.call ++ "' but none was supplied"
  | .repeated option => "the argument '" ++ option.call ++ "' cannot be used multiple times"
  | .missingOption option =>
    "the following required arguments were not provided:\n  " ++ option.call
  | .malformedField raw why =>
    "invalid value '" ++ raw ++ "' for '" ++ fieldOption.call ++ "': " ++ why.message

/-- Why the arguments name no command: help is wanted, or they are wrong. -/
inductive Detour where
  | page (page : Page)
  | version
  | usage (why : UsageError)
  deriving DecidableEq, Repr

/-! ## Options -/

/-- The name and the value that a `--field` gives. Only the name is read without
blanks around it. -/
def readField (raw : String) : Except FieldError (String × String) :=
  match Text.cut? '=' raw.toList with
  | none => .error (.noEquals raw)
  | some (name, value) =>
    match Text.trimList name with
    | [] => .error (.emptyName raw)
    | name => .ok (String.ofList name, String.ofList value)

/-- An option with its value. -/
abbrev Given := OptionSpec × String

/-- The options with one more. -/
def accept (given : List Given) (option : OptionSpec) (value : String) :
    Except UsageError (List Given) :=
  if option.repeatable then
    match readField value with
    | .error why => .error (.malformedField value why)
    | .ok _ => .ok (given ++ [(option, value)])
  else if given.any fun g => g.1 = option then .error (.repeated option)
  else .ok (given ++ [(option, value)])

/-- The options with the one whose value stands by itself, if there is one. -/
def settle (given : List Given) (pending : Option Given) : Except UsageError (List Given) :=
  match pending with
  | none => .ok given
  | some (option, value) => accept given option value

/-- What an argument is, given the options that may occur. -/
inductive Word where
  | endOfOptions
  | help
  | version
  | option (option : OptionSpec) (value : Option String)
  | unknownOption
  | plain
  deriving DecidableEq, Repr

/-- What a long option is. -/
def longWord (options : List OptionSpec) (versioned : Bool) (cs : List Char) : Word :=
  let (name, value) :=
    match Text.cut? '=' cs with
    | none => (String.ofList cs, none)
    | some (name, value) => (String.ofList name, some (String.ofList value))
  if name = "help" then (if value.isNone then .help else .unknownOption)
  else if versioned && name == "version" then (if value.isNone then .version else .unknownOption)
  else
    match options.find? fun o => o.name = name with
    | some o => .option o value
    | none => .unknownOption

/-- What an argument is. The version is only known to the program as a whole. -/
def word (options : List OptionSpec) (versioned : Bool) (argument : String) : Word :=
  match argument.toList with
  | ['-', '-'] => .endOfOptions
  | '-' :: '-' :: cs => longWord options versioned cs
  | '-' :: 'h' :: _ => .help
  | '-' :: 'V' :: _ => if versioned then .version else .unknownOption
  | '-' :: _ :: _ => .unknownOption
  | _ => .plain

/-- The options that the arguments of a verb give. -/
def readOptions (v : Verb) (given : List Given) (pending : Option Given) :
    List String → Except Detour (List Given)
  | [] => (settle given pending).mapError .usage
  | argument :: rest =>
    match word v.options false argument with
    | .endOfOptions =>
      match rest with
      | [] => (settle given pending).mapError .usage
      | stray :: _ => .error (.usage (.unexpected stray))
    | .help =>
      match settle given pending with
      | .error why => .error (.usage why)
      | .ok _ => .error (.page (.verb v))
    | .option option (some value) =>
      match settle given pending with
      | .error why => .error (.usage why)
      | .ok given =>
        match accept given option value with
        | .error why => .error (.usage why)
        | .ok given => readOptions v given none rest
    | .option option none =>
      match settle given pending with
      | .error why => .error (.usage why)
      | .ok given =>
        match rest with
        | [] => .error (.usage (.missingValue option))
        | value :: rest =>
          if word v.options false value = .plain then
            readOptions v given (some (option, value)) rest
          else .error (.usage (.missingValue option))
    | .version | .unknownOption | .plain => .error (.usage (.unexpected argument))

/-! ## Commands -/

/-- What the program is asked to do. -/
inductive Command where
  | createUser (fields : List (String × String))
  | generateToken (username password address : String)
  | verifyToken (token : String)
  | refreshToken (access refresh : String)
  deriving DecidableEq, Repr

/-- The value of an option: the one given, or else its default. -/
def valueOf (given : List Given) (option : OptionSpec) : Except Detour String :=
  match ((given.find? fun g => g.1 = option).map (·.2)).or option.default with
  | some value => .ok value
  | none => .error (.usage (.missingOption option))

namespace Command

/-- The command of a verb with its options. -/
def ofOptions (v : Verb) (given : List Given) : Except Detour Command :=
  match v with
  | .createUser => .ok (.createUser (given.filterMap fun g => (readField g.2).toOption))
  | .generateToken => do
    let username ← valueOf given usernameOption
    let password ← valueOf given passwordOption
    let address ← valueOf given addressOption
    .ok (.generateToken username password address)
  | .verifyToken => do
    let token ← valueOf given tokenOption
    .ok (.verifyToken token)
  | .refreshToken => do
    let access ← valueOf given accessOption
    let refresh ← valueOf given refreshOption
    .ok (.refreshToken access refresh)

/-- The page for the words that follow `help`. -/
def readHelp : List String → Detour
  | [] => .page .program
  | ["help"] => .page .help
  | name :: rest =>
    match Verb.ofName? name, rest with
    | none, _ => .usage (.unknownVerb name)
    | some v, [] => .page (.verb v)
    | some _, stray :: _ => .usage (.unknownVerb stray)

/-- What the arguments ask for. -/
def read : List String → Except Detour Command
  | [] => .error (.usage .noVerb)
  | argument :: rest =>
    match word [] true argument with
    | .help => .error (.page .program)
    | .version => .error .version
    | .plain =>
      if argument = "help" then .error (readHelp rest)
      else
        match Verb.ofName? argument with
        | none => .error (.usage (.unknownVerb argument))
        | some v =>
          match readOptions v [] none rest with
          | .error why => .error why
          | .ok given => ofOptions v given
    | .endOfOptions => .error (.usage .noVerb)
    | .option _ _ | .unknownOption => .error (.usage (.unexpected argument))

end Command

end BearerAuth.CommandLine
