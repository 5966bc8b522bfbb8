import TypeContracts.Emission.Merge
import TypeContracts.Graph.Walk

/-!
# Generation runs

A run builds the graph of the root types, writes the text of every unit, and merges the
texts into the files of an output directory. Nothing is written before all texts are
there, so that a run that fails in the graph leaves the files alone.
-/

set_option autoImplicit false

namespace TypeContracts

/-- Why a run stops. -/
inductive RunFault where
  | graph (fault : Fault)
  | emission (fault : EmissionFault)
  | file (fault : FileFault)
deriving DecidableEq

/-- The report of a run that stops. -/
def RunFault.message : RunFault → String
  | .graph fault => fault.message
  | .emission fault => fault.message
  | .file fault => fault.message

/-- The outcome of writing the texts of a run. -/
structure Report where
  created : List Location := []
  updated : List Location := []
  unchanged : List Location := []
  conflicts : List Location := []
deriving Inhabited

/-- The files that a run has written, new ones first. -/
def Report.written (report : Report) : List Location := report.created ++ report.updated

/-- The report with one more file of the given status. -/
def Report.add (report : Report) (target : Location) : WriteStatus → Report
  | .created => { report with created := report.created ++ [target] }
  | .updated => { report with updated := report.updated ++ [target] }
  | .unchanged => { report with unchanged := report.unchanged ++ [target] }

namespace Generation

variable {Handle Loader : Type}

/-- How many types the walk of a run maps before it is cut off. -/
def walkLimit : Nat := 100000

/-- The texts of the units for root types, with the journal of the run, when the walk maps at
most `limit` types. -/
def generateWithin (setting : Graph.Setting Handle Loader) (limit : Nat) (roots : List Handle) :
    Except RunFault (List (String × String)) × List Event :=
  let (result, builder) := (Graph.build setting limit roots).run.run {}
  match result with
  | .error fault => (.error (.graph fault), builder.journal)
  | .ok units =>
    match Emission.emitAll setting.options units with
    | .ok texts => (.ok texts, builder.journal)
    | .error fault => (.error (.emission fault), builder.journal)

/-- The texts of the units for root types, with the journal of the run. -/
def generate (setting : Graph.Setting Handle Loader) (roots : List Handle) :
    Except RunFault (List (String × String)) × List Event :=
  generateWithin setting walkLimit roots

/-- The file of a unit below an output directory. -/
def target (output : Location) (unitPath : String) : Location := output.join (unitPath ++ ".ts")

/-- The files of a run with what has been written so far. -/
structure Progress where
  tree : FileTree
  report : Report := {}
  journal : List Event := []

/-- Writes one text. A hand-written file is reported and skipped. -/
def writeUnit (options : Options) (rootText : String) (output : Location)
    (progress : Progress) (unitPath text : String) : Except FileFault Progress :=
  let place := target output unitPath
  match Emission.write options progress.tree place text with
  | .ok (status, tree) =>
    .ok { progress with tree := tree, report := progress.report.add place status }
  | .error (.file fault) => .error fault
  | .error .handWritten =>
    let skipped := Emission.handWrittenReport (place.text rootText) options
    .ok { progress with
      report := { progress.report with conflicts := progress.report.conflicts ++ [place] }
      journal := progress.journal ++ [.skipped skipped] }

/-- Writes all texts; a fault of the file system keeps what was written before it. -/
def writeAll (options : Options) (rootText : String) (output : Location) (progress : Progress) :
    List (String × String) → Except FileFault Unit × Progress
  | [] =>
    let report := progress.report
    let summary := Event.wrote report.written.length report.unchanged.length
      report.conflicts.length (output.text rootText)
    (.ok (), { progress with journal := progress.journal ++ [summary] })
  | (unitPath, text) :: rest =>
    match writeUnit options rootText output progress unitPath text with
    | .ok progress => writeAll options rootText output progress rest
    | .error fault => (.error fault, progress)

/-- A run that writes its texts below an output directory, when the walk maps at most `limit`
types. -/
def generateFilesWithin (setting : Graph.Setting Handle Loader) (limit : Nat) (rootText : String)
    (output : Location) (tree : FileTree) (roots : List Handle) :
    Except RunFault Report × Progress :=
  match generateWithin setting limit roots with
  | (.error fault, journal) => (.error fault, { tree := tree, journal := journal })
  | (.ok texts, journal) =>
    match writeAll setting.options rootText output { tree := tree, journal := journal } texts with
    | (.ok (), progress) => (.ok progress.report, progress)
    | (.error fault, progress) => (.error (.file fault), progress)

/-- A run that writes its texts below an output directory. -/
def generateFiles (setting : Graph.Setting Handle Loader) (rootText : String)
    (output : Location) (tree : FileTree) (roots : List Handle) :
    Except RunFault Report × Progress :=
  generateFilesWithin setting walkLimit rootText output tree roots

end Generation

end TypeContracts
