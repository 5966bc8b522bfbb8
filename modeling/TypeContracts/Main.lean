import TypeContracts.Command.Run
import TypeContracts.Watching.Watcher

/-!
# The program

The command line on a real file system. Before each run the files that it may read are
looked up and put into a tree; the run itself works on that tree; what it has changed is
written back, and what it has said is printed.
-/

set_option autoImplicit false

namespace TypeContracts.Program

/-! ## Looking at files -/

/-- What stands at a place. -/
def look (place : Location) : IO (Option FileEntry) := do
  let path := place.text ""
  try
    let _ ← IO.FS.realPath (path ++ "/.")
    return some .directory
  catch _ =>
    try
      let bytes ← IO.FS.readBinFile path
      return some (.file (.ofBytes bytes.toList))
    catch _ => return none

/-- The tree with what stands at a place. -/
def learn (tree : FileTree) (place : Location) : IO FileTree := do
  match ← look place with
  | some entry => return tree.know place entry
  | none => return tree

/-- The tree with the files that the modules below a root may stand in, and with those of
the modules that they import. -/
partial def learnModules (root : Location) (tree : FileTree) (seen : List String) :
    List String → IO FileTree
  | [] => return tree
  | name :: names => do
    if seen.contains name then learnModules root tree seen names
    else
      let tree ← (ModulePlace.candidates root name).foldlM learn tree
      let more := (ModulePlace.candidates root name).flatMap fun file =>
        match ({ tree := tree : Workspace }).shelf root "" |>.find name with
        | some (.source source place) => if place = file then source.mentioned else []
        | _ => []
      learnModules root tree (name :: seen) (more ++ names)

/-- The tree with the files that a job may write over. -/
def learnTargets (tree : FileTree) (job : Command.Job) : IO FileTree := do
  let shelf := ({ tree := tree : Workspace }).shelf job.settings.root ""
  match ((Project.generate job.settings [] shelf job.modules).run {}).1.1 with
  | .ok texts =>
    (texts.map fun (unitPath, _) => Generation.target job.output unitPath).foldlM learn
      (← learn tree job.output)
  | .error _ => return tree

/-- The tree of the files that a job reads or writes over. -/
def learnJob (tree : FileTree) (job : Command.Job) : IO FileTree := do
  learnTargets (← learnModules job.settings.root tree [] job.modules) job

/-! ## Runs -/

/-- A step on a state, with its changes written and its output printed. The answer is the
code that the program ends with, or the value and the new state. -/
def perform {α : Type} (step : Command.Step α) (state : Command.State) :
    IO (UInt32 ⊕ α × Command.State) := do
  let (result, after) := step.run.run { state with stdout := "", stderr := "" }
  for (file, content) in state.workspace.tree.changes after.workspace.tree do
    IO.FS.createDirAll (file.parent.text "")
    IO.FS.writeBinFile (file.text "") ⟨content.bytes.toArray⟩
  match Command.outcome after (result.map fun _ => ()) with
  | .error fault => throw (IO.userError fault.message)
  | .ok outcome =>
    IO.print outcome.stdout
    (← IO.getStdout).flush
    IO.eprint outcome.stderr
    match result with
    | .ok value => return .inr (value, after)
    | .error _ => return .inl outcome.code.toUInt32

/-- The state at the start of a run, with the files that the arguments name. -/
def stateFor (arguments : Arguments) : IO Command.State := do
  let here := Location.outside false (Location.spelled (← IO.currentDir).toString)
  let tree ← learn {} here
  let path := here.join arguments.path
  let tree ← learn (← learn tree path) path.parent
  let tree ← match Config.fileFor tree path with
    | .ok file => learn tree file
    | .error _ => pure tree
  let tree ← match arguments.logFile with
    | some file => learn tree (here.join file)
    | none => pure tree
  let homes := (← IO.getEnv "HOME").toList.map fun home => ("", Location.root.join home)
  return { workspace := { tree := tree }, rootText := "", here := here, homes := homes }

/-- The state with the files that a job needs. -/
def prepared (arguments : Arguments) (state : Command.State) : IO Command.State := do
  let job : Command.Step Command.Job := do
    Command.jobFor arguments (← Command.settingsAt arguments.path)
  match (job.run.run state).1 with
  | .ok job =>
    let tree ← learnJob state.workspace.tree job
    return { state with workspace := { state.workspace with tree := tree } }
  | .error _ => return state

/-- The pause between two looks, in milliseconds. -/
def pause (interval : Binary64) : UInt32 :=
  match interval.fraction? with
  | some (numerator, denominator) => (numerator.toNat * 1000 / denominator).toUInt32
  | none => 0

/-- Watches the modules of a job: once their files have changed and come to rest, the job
is done again. -/
partial def watch (arguments : Arguments) (job : Command.Job) (state : Command.State)
    (watcher : Watcher (List (Location × FileEntry))) : IO UInt32 := do
  IO.sleep (pause job.interval)
  let fresh ← prepared arguments (← stateFor arguments)
  let state := { state with workspace := fresh.workspace }
  match ← perform (Command.watched job) state with
  | .inl code => return code
  | .inr (files, state) =>
    let seen := fresh.workspace.tree.entries.filter fun entry => files.contains entry.1
    let (fires, next) := watcher.poll 1000 seen (← IO.monoMsNow)
    if fires then
      match ← perform (Command.regenerate job) state with
      | .inl code => return code
      | .inr (_, state) => watch arguments job state next
    else if next.changedAt = watcher.changedAt then watch arguments job state next
    else
      match ← perform (Command.record (.changed seen.length)) state with
      | .inl code => return code
      | .inr (_, state) => watch arguments job state next

/-- Runs the command with arguments that were read. -/
def start (arguments : Arguments) : IO UInt32 := do
  let state ← prepared arguments (← stateFor arguments)
  match ← perform (Command.start arguments) state with
  | .inl code => return code
  | .inr (job, state) =>
    if !arguments.watch then return 0
    match ← perform (do Command.say Command.greeting; Command.watched job) state with
    | .inl code => return code
    | .inr (files, state) =>
      let seen := state.workspace.tree.entries.filter fun entry => files.contains entry.1
      watch arguments job state (.start seen)

end TypeContracts.Program

open TypeContracts in
/-- Runs the command line. -/
def main (words : List String) : IO UInt32 := do
  match Arguments.ofWords words with
  | .ok arguments => Program.start arguments
  | .error _ =>
    let state : Command.State := { workspace := {}, rootText := "", here := .root }
    match ← Program.perform (Command.argumentsOf words) state with
    | .inl code => return code
    | .inr _ => return 0
