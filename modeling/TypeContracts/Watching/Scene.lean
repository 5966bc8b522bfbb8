import TypeContracts.Files.Tree
import TypeContracts.Watching.Watcher

/-!
# Watched scenes

Files with their modification times, a clock, and a watcher of some of the files. A
scene shows what a watcher does without a file system and without waiting: files are
touched and deleted, time passes, and the scene notes when the watcher fires.
-/

set_option autoImplicit false

namespace TypeContracts

/-- The watched files that are there, sorted by name, with their modification times. -/
abbrev Snapshot := List (String × Int)

/-- Files with their modification times, a clock, and a watcher with its wait and the
pause between its looks. All files stand in one directory. -/
structure Scene where
  watched : List String
  stamps : List (String × Int)
  pause : Int
  wait : Int
  watcher : Watcher Snapshot := .start []
  now : Int := 0
  pauses : Nat := 0
  fired : List Int := []

/-- Something that happens in a scene. -/
inductive Happening where
  | look
  | pass (time : Int)
  | touch (file : String) (stamp : Int)
  | delete (file : String)
  | watch (files : List String)

namespace Scene

/-! ## Files -/

/-- The name of the file that a path means. No path leads through a directory, because
there is none. -/
def fileAt (stamps : List (String × Int)) (path call : String) : Except FileFault String :=
  if path.toList.contains '\x00' then .error (.nullCharacter call)
  else
    match Location.spelled path with
    | [] => .error .isDirectory
    | [name] => if FileTree.nameLimit < name.utf8ByteSize then .error .nameTooLong else .ok name
    | first :: _ =>
      if FileTree.nameLimit < first.utf8ByteSize then .error .nameTooLong
      else if stamps.any (·.1 = first) then .error .notDirectory
      else .error .missing

/-- The modification times after a file was touched. -/
def touched (stamps : List (String × Int)) (path : String) (stamp : Int) :
    Except FileFault (List (String × Int)) :=
  (fileAt stamps path "").map fun file =>
    (file, stamp) :: stamps.filter fun entry => entry.1 ≠ file

/-- The modification times after a file was deleted. -/
def deleted (stamps : List (String × Int)) (path : String) :
    Except FileFault (List (String × Int)) := do
  let file ← fileAt stamps path "unlink"
  if stamps.any (·.1 = file) then return stamps.filter fun entry => entry.1 ≠ file
  else throw .missing

/-- What is seen at a path: a file with its modification time, or nothing. -/
def seen (stamps : List (String × Int)) (path : String) :
    Except FileFault (Option (String × Int)) :=
  match fileAt stamps path "stat" with
  | .ok file => .ok ((stamps.lookup file).map fun stamp => (file, stamp))
  | .error .missing => .ok none
  | .error .isDirectory => .ok none
  | .error fault => .error fault

/-- What a watcher sees when it looks at files by their paths. -/
def snapshotOf (stamps : List (String × Int)) (paths : List String) :
    Except FileFault Snapshot := do
  let found := (← paths.mapM (seen stamps)).filterMap id
  return (found.mergeSort fun a b => decide (a.1 ≤ b.1)).eraseDups

/-! ## Looking -/

/-- What the watcher would see now. -/
def snapshot (scene : Scene) : Except FileFault Snapshot := snapshotOf scene.stamps scene.watched

/-- A scene at the start, with a watcher that has seen the files. -/
def start (watched : List String) (files : List (String × Int)) (pause wait : Int) :
    Except FileFault Scene := do
  let stamps ← files.foldlM (fun stamps file => touched stamps file.1 file.2) []
  let scene : Scene := { watched, stamps, pause, wait }
  return { scene with watcher := .start (← scene.snapshot) }

/-- The watcher looks. The answer is whether it fires. -/
def look (scene : Scene) : Except FileFault (Bool × Scene) := do
  let (fires, watcher) := scene.watcher.poll scene.wait (← scene.snapshot) scene.now
  return (fires, { scene with
    watcher := watcher
    fired := if fires then scene.fired ++ [scene.now] else scene.fired })

/-! ## Happenings -/

/-- The scene after something has happened, with the answer of the watcher if it looked. -/
def after (scene : Scene) : Happening → Except FileFault (Option Bool × Scene)
  | .look => do
    let (fires, scene) ← scene.look
    return (some fires, scene)
  | .pass time => .ok (none, { scene with now := scene.now + time })
  | .touch path stamp => do return (none, { scene with stamps := ← touched scene.stamps path stamp })
  | .delete path => do return (none, { scene with stamps := ← deleted scene.stamps path })
  | .watch files => .ok (none, { scene with watched := files })

/-- The scene after several things have happened, up to the first that cannot. -/
def afterAll (scene : Scene) : List Happening → Option FileFault × Scene
  | [] => (none, scene)
  | happening :: rest =>
    match scene.after happening with
    | .ok (_, scene) => scene.afterAll rest
    | .error fault => (some fault, scene)

/-- The watcher looks a number of times and pauses behind each look; what is given for a
pause happens at its end. -/
def run (scene : Scene) : Nat → List (List Happening) → Option FileFault × Scene
  | 0, _ => (none, scene)
  | count + 1, happenings =>
    match scene.look with
    | .error fault => (some fault, scene)
    | .ok (_, scene) =>
      let paused := { scene with now := scene.now + scene.pause, pauses := scene.pauses + 1 }
      match paused.afterAll (happenings.headD []) with
      | (none, scene) => scene.run count happenings.tail
      | (some fault, scene) => (some fault, scene)

end Scene

end TypeContracts
