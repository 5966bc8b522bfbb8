import TypeContracts.Command.Arguments
import TypeContracts.Project
import TypeContracts.Workspace

/-!
# Runs of the command

The command generates the files of a project once, and with `--watch` again after each
change of the contract modules. A run works on a workspace, keeps the modules it has
loaded, and collects what it writes to the two output channels and to the run log.

A fault of the contracts is reported and ends a first run with code 1; while the command
watches, it is reported and the next change is awaited. Any other fault ends the run.
-/

set_option autoImplicit false

namespace TypeContracts

namespace Command

/-! ## The state of a run -/

/-- The state of a run. `here` is the directory that the command was started in, `homes`
are the directories that belong to users, and `level` is the least level of the events
that the console shows. The user without a name is the one who started the command. -/
structure State where
  workspace : Workspace
  rootText : String
  here : Location
  homes : List (String × Location) := []
  world : World := {}
  stdout : String := ""
  stderr : String := ""
  level : Level := .info
  log : Option Location := none

/-- Why a run ends early: the command exits with a code and a report, or a fault ends it. -/
inductive Stop where
  | exit (code : Nat) (stdout stderr : String)
  | fault (fault : RunFault)

/-- A step of a run. -/
abbrev Step := ExceptT Stop (StateM State)

/-- What a run generates, and where. -/
structure Job where
  settings : Settings
  modules : List String
  output : Location
  interval : Binary64

/-! ## Output -/

/-- Writes to the output of the command. -/
def say (text : String) : Step Unit :=
  modify fun state => { state with stdout := state.stdout ++ text }

/-- Writes to the error output of the command. -/
def complain (text : String) : Step Unit :=
  modify fun state => { state with stderr := state.stderr ++ text }

/-- Writes to the run log, if there is one. -/
def writeLog (text : String) : Step Unit :=
  modify fun state =>
    match state.log with
    | none => state
    | some file =>
      match state.workspace.append file (.text text) with
      | .ok workspace => { state with workspace := workspace }
      | .error _ => state

/-- Reports an event on the console, if it is important enough, and in the run log. -/
def record (event : Event) : Step Unit := do
  if (← get).level.rank ≤ event.level.rank then complain event.consoleLine
  writeLog event.logLine

/-- How a place is shown: below the directory of the command, or in full. -/
def shown (state : State) (place : Location) : String :=
  (state.here.plain.below? place).getD (place.text state.rootText)

/-- Ends a run with code 1 and a report. -/
def exit {α : Type} (report : String) : Step α := throw (.exit 1 "" report)

/-- The result of a file operation as a step. -/
def onFiles {α : Type} (result : Except FileFault α) : Step α :=
  match result with
  | .ok value => return value
  | .error fault => throw (.fault (.file fault))

/-! ## Starting -/

/-- The location that a path means, where a first segment with a tilde in front stands for
the directory of a user. -/
def expanded (path : String) : Step Location := do
  let state ← get
  match Location.spelled path with
  | first :: rest =>
    match Text.dropStart? "~" first with
    | none => return state.here.join path
    | some user =>
      if Text.startsWith "/" path then return state.here.join path
      match state.homes.lookup user with
      | some home => return home.join (Text.join "/" rest)
      | none =>
        throw (.fault (.graph (.raised "RuntimeError" "Could not determine home directory.")))
  | [] => return state.here.join path

/-- Opens the run log, with the directories above it. -/
def openLog (path : String) : Step Unit := do
  let state ← get
  let file := state.here.join path
  let tree ← onFiles (state.workspace.tree.ensureDirectories file.parent)
  let tree ← onFiles (tree.append file.plain (.text ""))
  set { state with workspace := { state.workspace with tree := tree }, log := some file.plain }

/-- The settings of the project at a path. -/
def settingsAt (path : String) : Step Settings := do
  let place ← expanded path
  let state ← get
  let file ← onFiles (Config.fileFor state.workspace.tree place)
  let source ← onFiles (state.workspace.configAt file)
  match Config.load file.parent source with
  | .ok settings => return settings
  | .error fault =>
    if fault.isReported then exit (fault.message ++ "\n")
    else throw (.fault (.graph (.raised fault.kind fault.message)))

/-- The words that an argument or else a setting gives; an empty one gives nothing. -/
def filled (text : Option String) : Option String := text.filter (· ≠ "")

/-- What the arguments and the settings ask for. -/
def jobFor (arguments : Arguments) (settings : Settings) : Step Job := do
  let state ← get
  let modules := Project.modulesFor settings (arguments.modules.getD [])
  if modules.isEmpty then
    exit "No modules to generate from. Pass --module or set 'modules' in .contractgen.yml.\n"
  match (filled arguments.output).map state.here.join, settings.output with
  | some output, _ =>
    if output.hasNull then onFiles (.error (.nullCharacter "lstat"))
    return ⟨settings, modules, output.plain, arguments.interval⟩
  | none, some output => return ⟨settings, modules, output, arguments.interval⟩
  | none, none =>
    exit "No output directory. Pass --output or set 'output' in .contractgen.yml.\n"

/-! ## Generating -/

/-- The shelf of the modules of a project. -/
def shelf (state : State) (job : Job) : Shelf :=
  state.workspace.shelf job.settings.root state.rootText

/-- Generates the files of a project. -/
def generate (job : Job) : Step Report := do
  let state ← get
  let ((result, progress), world) :=
    (Project.generateFiles job.settings [] (shelf state job) job.modules state.rootText job.output
      state.workspace.tree).run state.world
  set { state with world := world, workspace := { state.workspace with tree := progress.tree } }
  progress.journal.forM record
  match result with
  | .ok report => return report
  | .error fault => throw (.fault fault)

/-- Shows what was written and what was skipped. -/
def showReport (job : Job) (report : Report) : Step Unit := do
  let shown := shown (← get)
  say ("Generated " ++ toString report.written.length ++ " files in " ++ shown job.output ++ " (" ++
    toString report.unchanged.length ++ " unchanged)\n")
  report.conflicts.forM fun place =>
    complain ("Skipped " ++ shown place ++ ": no generated-content marker\n")

/-- The report of a fault that lies in the contracts. -/
def reported? : Stop → Option String
  | .fault (.graph fault) => if fault.isReported then some fault.message else none
  | _ => none

/-- Runs the command up to the point where it would watch. The answer is what it
generated. -/
def start (arguments : Arguments) : Step Job := do
  modify fun state => { state with level := if arguments.verbose then .debug else .info }
  match filled arguments.logFile with
  | some path => openLog path
  | none => pure ()
  let job ← jobFor arguments (← settingsAt arguments.path)
  let report ← tryCatch (generate job) fun stop =>
    match reported? stop with
    | some report =>
      exit ("contractgen generate failed: " ++ report ++ "\nRun with --verbose for more details.\n")
    | none => throw stop
  showReport job report
  return job

/-! ## Watching -/

/-- The files that the modules of a project consist of. -/
def watched (job : Job) : Step (List Location) := do
  let state ← get
  let (files, world) :=
    (Loading.watchedFiles (shelf state job) state.workspace.tree job.modules).run.run state.world
  set { state with world := world }
  match files with
  | .ok files => return files
  | .error fault => throw (.fault (.graph (.raised fault.kind fault.message)))

/-- Answers a change of the contract modules: they are loaded again, and the files are
generated again. Modules that fail to load leave the files alone. -/
def regenerate (job : Job) : Step Unit := do
  record .regenerating
  let state ← get
  let (loaded, world) := (Loading.reloadAll (shelf state job) job.modules).run.run state.world
  set { state with world := world }
  match loaded with
  | .error fault =>
    record (.reloadFailed job.modules fault.shown)
    record .reloadDetails
  | .ok () =>
    tryCatch (do showReport job (← generate job)) fun stop =>
      match reported? stop with
      | some report => record (.generationFailed report)
      | none => throw stop

/-- Saves a contract module and answers the change. What was watched before is told. -/
def answerSave (job : Job) (source : ModuleSource) : Step (List Location) := do
  let files ← watched job
  let state ← get
  set { state with workspace := ← onFiles (state.workspace.saveModule .root source) }
  regenerate job
  return files

/-- What a watching command says at first. -/
def greeting : String := "Watching for changes. Press Ctrl+C to stop.\n"

/-- What a watching command says when it is interrupted. -/
def farewell : String := "Stopped watching.\n"

/-! ## The command line -/

/-- How the command is used, in front of its name and behind it. -/
def usage (behind : Bool) : String :=
  if behind then
    "usage: contractgen generate [-h] [-v] [-m MODULES] [-o OUTPUT] [--watch]\n" ++
    "                            [--interval INTERVAL] [--log-file LOG_FILE]\n" ++
    "                            [path]\n"
  else "usage: contractgen [-h] [-v] \x7bgenerate\x7d ...\n"

/-- The arguments of a command line; one that cannot be read ends the run with code 2. -/
def argumentsOf (words : List String) : Step Arguments :=
  match Arguments.ofWords words with
  | .ok arguments => return arguments
  | .error (.help behind) => throw (.exit 0 (usage behind) "")
  | .error (.usage behind fault) =>
    throw (.exit 2 "" (usage behind ++ (NoCommand.usage behind fault).report ++ "\n"))

/-- Runs a command line. While it watches, the given modules are saved one after another;
at the end it is interrupted or just stops. The answer is what was watched before each
save. -/
def run (words : List String) (saves : List ModuleSource) (interrupted : Bool) :
    Step (List (List Location)) := do
  let arguments ← argumentsOf words
  let job ← start arguments
  if arguments.watch then
    say greeting
    let files ← saves.mapM (answerSave job)
    if interrupted then say farewell
    return files
  else return []

/-- What a finished run shows: its code and its output. -/
structure Outcome where
  code : Nat
  stdout : String
  stderr : String

/-- The end of a run. -/
def outcome (state : State) : Except Stop Unit → Except RunFault Outcome
  | .ok () => .ok ⟨0, state.stdout, state.stderr⟩
  | .error (.exit code stdout stderr) =>
    .ok ⟨code, state.stdout ++ stdout, state.stderr ++ stderr⟩
  | .error (.fault fault) => .error fault

end Command

end TypeContracts
