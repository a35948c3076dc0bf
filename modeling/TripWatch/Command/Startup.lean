import TripWatch.Action.Table
import TripWatch.Command.Options
import TripWatch.Config
import TripWatch.Log.Filter
import TripWatch.Store.Basic

/-!
# Starting the program

Reads the command line, the configuration, the store and the table of actions, in this order, up to
the point where requests are answered. What happens on the way is reported in the log.

## Main definitions

* `FileContent` — what stands at a path
* `Setup.ofOptions` — what the program works with, or why it cannot start
* `Start.ofCommand` — how a start ends, with all that it shows
-/

namespace TripWatch.Command

open Log (Event)

/-- What stands at a path. -/
inductive FileContent where
  /-- Nothing. -/
  | absent
  /-- Something that cannot be opened. -/
  | locked
  /-- Something that has no content, such as a directory. -/
  | unreadable
  /-- A file. -/
  | bytes (content : List UInt8)

/-- The text of a file's bytes; bytes that are no text have an empty one, which is as little a JSON
text as they are. -/
def textOfBytes (bytes : List UInt8) : String :=
  (String.fromUTF8? bytes.toByteArray).getD ""

/-- Reads the configuration at a path. -/
def readConfig (path : String) : FileContent → Except ConfigFault Config
  | .absent | .locked => Config.ofFile path none
  | .unreadable => Config.ofFile path (some "")
  | .bytes content => Config.ofFile path (some (textOfBytes content))

/-- Reads the store at a path. It is empty if nothing stands there. -/
def readStore : FileContent → Except StoreFault Store
  | .absent => .ok .empty
  | .locked => .error (.file "Permission denied (os error 13)")
  | .unreadable => .error (.content .malformed)
  | .bytes content => Store.ofText (textOfBytes content)

/-- Reads the table of actions at a path. What can be opened and has no content has no actions. -/
def readActions : FileContent → Except ActionTableFault (List SegmentAction)
  | .absent => ActionTable.ofFile none
  | .locked => .error (.unreadable "Permission denied (os error 13)")
  | .unreadable => .ok []
  | .bytes content => ActionTable.ofFile (some content)

/-- Why the program cannot start. -/
inductive StartFault where
  /-- There is no configuration. -/
  | config (fault : ConfigFault)
  /-- There is no store. -/
  | store (path : String) (fault : StoreFault)
  /-- There is no table of actions. -/
  | actions (path : String) (fault : ActionTableFault)

/-- The wording of a fault, without its cause. -/
def StartFault.message : StartFault → String
  | config fault => fault.message
  | store path _ => "could not load store " ++ path
  | actions path _ => "could not load segment actions " ++ path

/-- What the program works with. -/
structure Setup where
  /-- The configuration. -/
  config : Config
  /-- The store. -/
  store : Store
  /-- The actions on the way. -/
  actions : List SegmentAction

namespace Setup

/-- The target of the program's own reports. -/
def programTarget : String := "trip_monitor"

/-- The target of reports on tables of actions. -/
def tableTarget : String := "trip_monitor::segment::loader"

/-- The report that the program starts. -/
def starting (c : Config) : Event :=
  ⟨.info, programTarget, "starting trip monitor", [("planner_url", c.plannerUrl)]⟩

/-- The report on the store. -/
def storeLoaded (s : Store) : Event :=
  ⟨.info, programTarget, "loaded trip store", [("trips", toString s.trips.size)]⟩

/-- The report on the table of actions. -/
def actionsLoaded (path : String) (actions : List SegmentAction) : Event :=
  ⟨.info, tableTarget, "loaded segment actions",
    [("path", path), ("count", toString actions.length)]⟩

/-- Reads what the program works with; each part that can be read is reported. -/
def ofOptions {m : Type → Type} [Monad m] (look : String → m FileContent) (o : Options) :
    m (List Event × Except StartFault Setup) := do
  let config ← match o.configPath with
    | some path => do pure (readConfig path (← look path))
    | none => pure (.ok .standard)
  match config with
  | .error fault => return ([], .error (.config fault))
  | .ok config =>
    match readStore (← look o.storePath) with
    | .error fault => return ([starting config], .error (.store o.storePath fault))
    | .ok store =>
      match config.actionsPath with
      | none => return ([starting config, storeLoaded store], .ok ⟨config, store, []⟩)
      | some path =>
        match readActions (← look path) with
        | .error fault =>
          return ([starting config, storeLoaded store], .error (.actions path fault))
        | .ok actions =>
          return ([starting config, storeLoaded store, actionsLoaded path actions],
            .ok ⟨config, store, actions⟩)

end Setup

/-- How a start ends. -/
inductive StartEnd where
  /-- Help was wished for. -/
  | helped
  /-- The command line was wrong. -/
  | misused (fault : UsageFault)
  /-- Something could not be read. -/
  | failed (fault : StartFault)
  /-- Requests cannot be answered, for some reason. -/
  | refused (reason : String)
  /-- Requests are answered. -/
  | serving (setup : Setup)

/-- The exit code of a start, if it ends the program. -/
def StartEnd.exitCode? : StartEnd → Option UInt32
  | helped | refused _ => some 0
  | failed _ => some 1
  | misused _ => some 2
  | serving _ => none

/-- A start of the program. -/
structure Start where
  /-- How it ends. -/
  ending : StartEnd
  /-- Complaints, each a line. -/
  errors : List String
  /-- The events that are shown in the log. -/
  log : List Event

namespace Start

/-- The report that requests cannot be answered. -/
def serverFailed (reason : String) : Event :=
  ⟨.error, Setup.programTarget, "api server failed", [("error", reason)]⟩

/-- Starts the program. `look` gives what stands at a path, and `bind` the reason why a port cannot
be used, if there is one. -/
def ofCommand {m : Type → Type} [Monad m] (arguments : List String)
    (environment : String → Option String) (look : String → m FileContent)
    (bind : UInt16 → m (Option String)) : m Start := do
  match Options.ofCommand arguments environment with
  | .error fault => return ⟨.misused fault, [], []⟩
  | .ok none => return ⟨.helped, [], []⟩
  | .ok (some options) =>
    let (filter, complaints) := Log.Filter.configured .info (environment Log.Filter.variableName)
    let (events, setup) ← Setup.ofOptions look options
    match setup with
    | .error fault =>
      let errors := complaints ++ ["Error: " ++ fault.message]
      return ⟨.failed fault, errors, events.filter filter.shows⟩
    | .ok setup =>
      match ← bind options.port with
      | some reason =>
        return ⟨.refused reason, complaints,
          (events ++ [serverFailed reason]).filter filter.shows⟩
      | none => return ⟨.serving setup, complaints, events.filter filter.shows⟩

end Start

end TripWatch.Command
