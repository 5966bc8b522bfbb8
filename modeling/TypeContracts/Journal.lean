import TypeContracts.Identity

/-!
# The journal of a run

What a run reports while it works. Every event has a level, a channel and a text. The
console shows the events from a least level on; the run log holds all of them with
their channels.
-/

set_option autoImplicit false

namespace TypeContracts

/-- How important an event is. -/
inductive Level where
  | debug
  | info
  | warning
  | error
deriving DecidableEq, Repr

/-- The word for a level. -/
def Level.text : Level → String
  | .debug => "DEBUG"
  | .info => "INFO"
  | .warning => "WARNING"
  | .error => "ERROR"

/-- The rank of a level; the console hides what ranks below its own. -/
def Level.rank : Level → Nat
  | .debug => 0
  | .info => 1
  | .warning => 2
  | .error => 3

/-- Something that a run reports. -/
inductive Event where
  | collected (roots : Nat)
  | mapping (identity : Identity)
  | claimed (identity : Identity)
  | renamed (identity : Identity) (name : String)
  | inlined (identity : Identity)
  | built (declarations units : Nat)
  | skipped (report : String)
  | wrote (written unchanged conflicts : Nat) (place : String)
  | changed (files : Nat)
  | regenerating
  | reloadFailed (modules : List String) (cause : String)
  | reloadDetails
  | generationFailed (cause : String)
deriving DecidableEq

namespace Event

/-- The level of an event. -/
def level : Event → Level
  | .collected .. => .debug
  | .mapping .. => .debug
  | .claimed .. => .debug
  | .renamed .. => .debug
  | .inlined .. => .debug
  | .built .. => .info
  | .skipped .. => .warning
  | .wrote .. => .info
  | .changed .. => .debug
  | .regenerating => .info
  | .reloadFailed .. => .error
  | .reloadDetails => .debug
  | .generationFailed .. => .error

/-- The channel that an event is reported on. -/
def channel : Event → String
  | .collected .. => "contractgen.providers.reflection"
  | .mapping .. => "contractgen.graph"
  | .claimed .. => "contractgen.mapper"
  | .renamed .. => "contractgen.graph"
  | .inlined .. => "contractgen.graph"
  | .built .. => "contractgen.graph"
  | .skipped .. => "contractgen.generator"
  | .wrote .. => "contractgen.generator"
  | .changed .. => "contractgen.watch"
  | .regenerating => "contractgen.cli"
  | .reloadFailed .. => "contractgen.cli"
  | .reloadDetails => "contractgen.cli"
  | .generationFailed .. => "contractgen.cli"

/-- The text of an event. -/
def text : Event → String
  | .collected roots => "Collected " ++ toString roots ++ " root types"
  | .mapping identity => "Mapping " ++ identity.text
  | .claimed identity => "Override claimed " ++ identity.text
  | .renamed identity name => "Renamed instantiation " ++ identity.text ++ " to " ++ name
  | .inlined identity =>
    identity.text ++ " maps to an inline reference; nothing declared"
  | .built declarations units =>
    "Built " ++ toString declarations ++ " declarations across " ++ toString units ++ " units"
  | .skipped report => report
  | .wrote written unchanged conflicts place =>
    "Wrote " ++ toString written ++ " files (" ++ toString unchanged ++ " unchanged, " ++
      toString conflicts ++ " conflicts) to " ++ place
  | .changed files => "Change detected in " ++ toString files ++ " watched files"
  | .regenerating => "Regenerating after source change"
  | .reloadFailed modules cause =>
    "Reloading " ++ Text.join ", " modules ++ " failed; keeping previous output: " ++ cause
  | .reloadDetails => "Reload failure details"
  | .generationFailed cause => "Generation failed; no files were written: " ++ cause

/-- The console line of an event. -/
def consoleLine (event : Event) : String :=
  "[contractgen] " ++ event.level.text ++ " " ++ event.text ++ "\n"

/-- The line of an event in the run log, without its time stamp. -/
def logLine (event : Event) : String :=
  event.level.text ++ " " ++ event.channel ++ ": " ++ event.text ++ "\n"

end Event

end TypeContracts
