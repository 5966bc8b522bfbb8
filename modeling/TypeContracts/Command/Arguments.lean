import TypeContracts.Number.Binary64
import TypeContracts.Text.Pieces
import TypeContracts.Text.Quoted

/-!
# Arguments of a command line

A command line is read in two rounds. The first round, `Token.scan`, tells options from
plain arguments; an option can be shortened to a unique beginning, and carry its value
behind `=` or, when it is a single letter, directly behind the letter. The second round
walks over the tokens: options take their values, plain arguments fill the places that
the command has. The same two rounds run once for the words in front of the command and
once for those behind it.
-/

set_option autoImplicit false

namespace TypeContracts

/-! ## Options -/

/-- An option of the command line. -/
inductive CommandOption where
  | help
  | verbose
  | module
  | output
  | watch
  | interval
  | logFile
deriving DecidableEq, Repr

namespace CommandOption

/-- The spellings of an option. -/
def spellings : CommandOption → List String
  | .help => ["-h", "--help"]
  | .verbose => ["-v", "--verbose"]
  | .module => ["-m", "--module"]
  | .output => ["-o", "--output"]
  | .watch => ["--watch"]
  | .interval => ["--interval"]
  | .logFile => ["--log-file"]

/-- The option needs a value. -/
def takesValue : CommandOption → Bool
  | .module | .output | .interval | .logFile => true
  | .help | .verbose | .watch => false

/-- How reports name an option. -/
def label (option : CommandOption) : String := Text.join "/" option.spellings

/-- The options in front of the command. -/
def leading : List CommandOption := [.help, .verbose]

/-- The options of the command. -/
def ofCommand : List CommandOption :=
  [.help, .verbose, .module, .output, .watch, .interval, .logFile]

/-- Options with each of their spellings. -/
def spelled (known : List CommandOption) : List (String × CommandOption) :=
  known.flatMap fun option => option.spellings.map fun spelling => (spelling, option)

end CommandOption

/-! ## Faults -/

/-- Why a command line cannot be read. -/
inductive UsageFault where
  | ambiguous (argument : String) (candidates : List String)
  | ignoredValue (option : CommandOption) (value : String)
  | missingValue (option : CommandOption)
  | badNumber (option : CommandOption) (value : String)
  | noCommand
  | unknownCommand (name : String)
  | unrecognized (arguments : List String)
deriving DecidableEq, Repr

/-- The report of a fault. -/
def UsageFault.message : UsageFault → String
  | .ambiguous argument candidates =>
    "ambiguous option: " ++ argument ++ " could match " ++ Text.join ", " candidates
  | .ignoredValue option value =>
    "argument " ++ option.label ++ ": ignored explicit argument " ++ Text.quoted value
  | .missingValue option => "argument " ++ option.label ++ ": expected one argument"
  | .badNumber option value =>
    "argument " ++ option.label ++ ": invalid float value: " ++ Text.quoted value
  | .noCommand => "the following arguments are required: command"
  | .unknownCommand name =>
    "argument command: invalid choice: " ++ Text.quoted name ++ " (choose from 'generate')"
  | .unrecognized arguments => "unrecognized arguments: " ++ Text.join " " arguments

/-! ## Telling options from plain arguments -/

/-- An argument that is meant as an option: the option and its spelling, if it is known,
and the value that is attached to it, behind a sign of equality or directly. -/
structure OptionUse where
  argument : String
  known : Option (CommandOption × String)
  attached : Option String
deriving DecidableEq, Repr

/-- An argument after the first round. -/
inductive Token where
  | plain (argument : String)
  | separator
  | meant (use : OptionUse)
deriving DecidableEq, Repr

namespace Token

/-- The argument of a token. -/
def argument : Token → String
  | .plain argument => argument
  | .separator => "--"
  | .meant use => use.argument

/-- The text before the first sign of equality, and the value behind it. -/
def splitValue (argument : String) : String × Option String :=
  let cs := argument.toList
  match cs.dropWhile (· ≠ '=') with
  | [] => (argument, none)
  | _ :: value => (String.ofList (cs.takeWhile (· ≠ '=')), some (String.ofList value))

/-- The options that an argument shortens, or that it begins with when they are single
letters. -/
def candidates (known : List CommandOption) (argument : String) : List OptionUse :=
  if Text.startsWith "--" argument then
    let (beginning, attached) := splitValue argument
    (CommandOption.spelled known).filterMap fun (spelling, option) =>
      if Text.startsWith beginning spelling then some ⟨argument, some (option, spelling), attached⟩
      else none
  else
    let letter := String.ofList (argument.toList.take 2)
    let behind := String.ofList (argument.toList.drop 2)
    (CommandOption.spelled known).filterMap fun (spelling, option) =>
      if spelling = letter then some ⟨argument, some (option, spelling), some behind⟩
      else if Text.startsWith argument spelling then
        some ⟨argument, some (option, spelling), none⟩
      else none

/-- Digits with at most one point, which has digits behind it. -/
def isDecimal (cs : List Char) : Bool :=
  match cs.dropWhile Digit.isDecimal with
  | [] => !cs.isEmpty
  | '.' :: fraction => !fraction.isEmpty && fraction.all Digit.isDecimal
  | _ => false

/-- Characters without a line feed at the end. -/
def withoutLineEnd (cs : List Char) : List Char :=
  if cs.getLast? = some '\n' then cs.dropLast else cs

/-- An argument that starts with a sign but is a negative number or holds a space. -/
def isPlainAnyway (argument : String) : Bool :=
  isDecimal (withoutLineEnd (argument.toList.drop 1)) || argument.toList.contains ' '

/-- Tells whether an argument is meant as an option. -/
def ofArgument (known : List CommandOption) (argument : String) : Except UsageFault Token :=
  if !Text.startsWith "-" argument || argument = "-" then .ok (.plain argument)
  else
    match (CommandOption.spelled known).lookup argument with
    | some option => .ok (.meant ⟨argument, some (option, argument), none⟩)
    | none =>
      let (spelling, attached) := splitValue argument
      match (CommandOption.spelled known).lookup spelling, attached with
      | some option, some _ => .ok (.meant ⟨argument, some (option, spelling), attached⟩)
      | _, _ =>
        match candidates known argument with
        | [use] => .ok (.meant use)
        | [] =>
          if isPlainAnyway argument then .ok (.plain argument)
          else .ok (.meant ⟨argument, none, none⟩)
        | several =>
          .error (.ambiguous argument (several.filterMap fun use => use.known.map Prod.snd))

/-- The tokens of arguments. Behind a separator everything is plain. -/
def scan (known : List CommandOption) : List String → Except UsageFault (List Token)
  | [] => .ok []
  | argument :: rest =>
    if argument = "--" then .ok (.separator :: rest.map .plain)
    else do return (← ofArgument known argument) :: (← scan known rest)

end Token

/-! ## Options with their values -/

/-- An option as it is given, with its value if it takes one. -/
structure GivenOption where
  option : CommandOption
  value : Option String
deriving DecidableEq, Repr

/-- What follows the options in one argument: nothing, an option that is not known, or one
that takes its value from the next argument. -/
inductive ClusterEnd where
  | nothing
  | unknown (argument : String)
  | wanting (option : CommandOption)
deriving DecidableEq, Repr

/-- The options that are written in one argument. -/
structure Cluster where
  given : List GivenOption := []
  ending : ClusterEnd := .nothing
deriving Repr

namespace Cluster

/-- The cluster with one more option without a value in front. -/
def push (option : CommandOption) (cluster : Cluster) : Cluster :=
  { cluster with given := ⟨option, none⟩ :: cluster.given }

/-- An option that stands at the end of its argument. -/
def ofLast (option : CommandOption) : Cluster :=
  if option.takesValue then { ending := .wanting option } else { given := [⟨option, none⟩] }

/-- An option with a value attached. Behind a single letter that takes no value, the
letters of further options may follow. -/
def ofAttached (known : List CommandOption) (option : CommandOption) (isLetter : Bool)
    (value : List Char) : Except UsageFault Cluster :=
  if option.takesValue then .ok { given := [⟨option, some (String.ofList value)⟩] }
  else
    let ignored : UsageFault := .ignoredValue option (String.ofList value)
    match value with
    | [] => .error ignored
    | letter :: rest =>
      match isLetter, (CommandOption.spelled known).lookup (String.ofList ['-', letter]) with
      | true, some next =>
        if rest.isEmpty then .ok (push option (ofLast next))
        else (ofAttached known next true rest).map (push option)
      | _, _ => .error ignored

/-- The options of an argument that is meant as one. -/
def ofUse (known : List CommandOption) (use : OptionUse) : Except UsageFault Cluster :=
  match use.known, use.attached with
  | none, _ => .ok { ending := .unknown use.argument }
  | some (option, _), none => .ok (ofLast option)
  | some (option, spelling), some attached =>
    ofAttached known option (!Text.startsWith "--" spelling) attached.toList

end Cluster

/-! ## The command -/

/-- The arguments of the command that generates files. -/
structure Arguments where
  path : String := "."
  modules : Option (List String) := none
  output : Option String := none
  watch : Bool := false
  interval : Binary64 := .ofRatio 1 2
  logFile : Option String := none
  verbose : Bool := false
deriving DecidableEq, Repr

/-- Why no command is run: the words cannot be read, in front of the command or behind
it, or they ask for help. -/
inductive NoCommand where
  | usage (behind : Bool) (fault : UsageFault)
  | help (behind : Bool)
deriving DecidableEq, Repr

namespace Arguments

/-- The arguments with one more option. -/
def give (behind : Bool) (arguments : Arguments) (given : GivenOption) :
    Except NoCommand Arguments :=
  let value := given.value.getD ""
  match given.option with
  | .help => .error (.help behind)
  | .verbose => .ok { arguments with verbose := true }
  | .module => .ok { arguments with modules := some (arguments.modules.getD [] ++ [value]) }
  | .output => .ok { arguments with output := some value }
  | .watch => .ok { arguments with watch := true }
  | .logFile => .ok { arguments with logFile := some value }
  | .interval =>
    match Binary64.ofText? value with
    | some interval => .ok { arguments with interval := interval }
    | none => .error (.usage behind (.badNumber .interval value))

/-- What has been read so far: the arguments, those that nothing takes, and whether the
place of the path is filled. -/
structure Reading where
  arguments : Arguments := {}
  unrecognized : List String := []
  hasPath : Bool := false

/-- The reading with one more argument that nothing takes. -/
def Reading.leave (reading : Reading) (argument : String) : Reading :=
  { reading with unrecognized := reading.unrecognized ++ [argument] }

/-- The reading after an option, and the tokens behind its value. -/
def Reading.takeOption (behind : Bool) (known : List CommandOption) (reading : Reading)
    (use : OptionUse) (rest : List Token) : Except NoCommand (Reading × Bool) := do
  let cluster ← (Cluster.ofUse known use).mapError (.usage behind)
  let given (options : List GivenOption) : Except NoCommand Reading := do
    return { reading with arguments := ← options.foldlM (give behind) reading.arguments }
  match cluster.ending, rest with
  | .nothing, _ => return (← given cluster.given, false)
  | .unknown letters, _ => return ((← given cluster.given).leave letters, false)
  | .wanting option, .plain value :: _ =>
    return (← given (cluster.given ++ [⟨option, some value⟩]), true)
  | .wanting option, _ => throw (.usage behind (.missingValue option))

/-- Reads the tokens behind the command. The first plain argument is the path; a
separator beside it goes with it. -/
def readBehind (reading : Reading) : List Token → Except NoCommand Reading
  | [] => .ok reading
  | .meant use :: rest => do
    let (reading, tookNext) ← reading.takeOption true CommandOption.ofCommand use rest
    match rest, tookNext with
    | _ :: rest, true => readBehind reading rest
    | rest, _ => readBehind reading rest
  | .plain argument :: rest =>
    if reading.hasPath then readBehind (reading.leave argument) rest
    else
      let reading :=
        { reading with
          arguments := { reading.arguments with path := argument }, hasPath := true }
      match rest with
      | .separator :: rest => readBehind reading rest
      | rest => readBehind reading rest
  | .separator :: rest =>
    if reading.hasPath then readBehind (reading.leave "--") rest
    else readBehind reading rest

/-- Reads the words behind the command. -/
def readCommand (reading : Reading) (words : List String) : Except NoCommand Reading := do
  let tokens ← (Token.scan CommandOption.ofCommand words).mapError (.usage true)
  readBehind reading tokens

/-- Reads the tokens in front of the command, and the command with the words behind it. -/
def readFront (reading : Reading) : List Token → Except NoCommand Reading
  | [] => .error (.usage false .noCommand)
  | .meant use :: rest => do
    let (reading, tookNext) ← reading.takeOption false CommandOption.leading use rest
    match rest, tookNext with
    | _ :: rest, true => readFront reading rest
    | rest, _ => readFront reading rest
  | .separator :: .plain _ :: _ => .error (.usage false (.unknownCommand "--"))
  | .separator :: rest => readFront (reading.leave "--") rest
  | .plain name :: rest =>
    if name = "generate" then readCommand reading (rest.map Token.argument)
    else .error (.usage false (.unknownCommand name))

/-- The arguments of a command line. -/
def ofWords (words : List String) : Except NoCommand Arguments := do
  let tokens ← (Token.scan CommandOption.leading words).mapError (.usage false)
  let reading ← readFront {} tokens
  if reading.unrecognized.isEmpty then return reading.arguments
  else throw (.usage false (.unrecognized reading.unrecognized))

end Arguments

/-- The line that reports why a command line cannot be read. -/
def NoCommand.report : NoCommand → String
  | .usage behind fault =>
    (if behind then "contractgen generate" else "contractgen") ++ ": error: " ++ fault.message
  | .help _ => ""

end TypeContracts
