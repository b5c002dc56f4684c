import Progression.Logging
import Progression.Migration.Run
import Progression.Rank

/-!
Sessions: a formula, ranks and a store, made ready from settings. The store is migrated to the formula before
the session is there. A session closes the store at its end if it opened it itself.
-/

namespace Progression

/-- Where the store of a session comes from. -/
inductive StoreSource where
  /-- The store is lent to the session. -/
  | lent (store : Store)
  /-- The session opens a database: what is in it, or why it cannot be opened. -/
  | database (contents : Except StoreFault Store)

namespace StoreSource

def isOwned : StoreSource → Bool
  | lent _ => false
  | database _ => true

/-- The store to work on. -/
def acquire : StoreSource → Except StoreFault Store
  | lent store => .ok store
  | database contents => contents.map Store.reopen

/-- The store after a session could not be opened. -/
def release (source : StoreSource) (store : Store) : Store := if source.isOwned then store.close else store

end StoreSource

structure Session where
  formula : Formula
  ranks : RankBook
  migration : Migration.Result
  ownsStore : Bool
  closed : Bool := false

namespace Session

inductive Fault where
  | logging (fault : Logging.Fault)
  | formula (fault : BuildFault)
  | rank (fault : RankFault)
  | store (fault : StoreFault)
  | pace (fault : PaceFault)
  | migration (fault : Migration.Fault)

namespace Fault

def kind : Fault → FaultKind
  | logging _ | rank _ => .configuration
  | formula fault => fault.kind
  | store fault => fault.kind
  | pace _ => .value
  | migration fault => fault.kind

def message : Fault → String
  | logging fault => fault.message
  | formula fault => fault.message
  | rank fault => fault.message
  | store fault => fault.message
  | pace fault => fault.message
  | migration fault => fault.message

/-- The kind of the fault behind a fault. -/
def cause? : Fault → Option FaultKind
  | formula fault => fault.cause?
  | migration fault => fault.cause?
  | _ => none

end Fault

/-- What settings alone decide: the formula and the ranks. A table may be written, so the directory afterwards
is given too. -/
def configure (settings : Settings) (configureLogging : Bool) (directory : Directory) :
    Except Fault (Formula × RankBook) × Directory :=
  match if configureLogging then (Logging.setUp settings.logFormat settings.logLevel).map fun _ => ()
    else .ok () with
  | .error fault => (.error (.logging fault), directory)
  | .ok () =>
    let (built, directory) := settings.formula.build directory
    (do
      let formula ← built.mapError .formula
      let ranks ← (RankBook.ofSettings settings.ranks).mapError .rank
      return (formula, ranks), directory)

/-- How the settings want stores to be migrated. -/
def paceOf (settings : Settings) : Except PaceFault Pace :=
  Pace.make? settings.formula.migrateXp settings.batchSize settings.progressEvery
    ((settings.timeoutSeconds.map Value.float).getD .null)

/-- Migrate a store to a formula; gives also the store afterwards. -/
def migrate (settings : Settings) (formula : Formula) (directory : Directory) (store : Store)
    (mishaps : Migration.Mishaps) : Except Fault Migration.Result × Store :=
  match paceOf settings with
  | .error fault => (.error (.pace fault), store)
  | .ok pace =>
    let ending := Migration.run { formula, directory, pace } mishaps store
    (ending.result.mapError .migration, ending.store)

/-- What opening a session led to. The store is given if there is one. -/
structure Opening where
  session : Except Fault Session
  store : Option Store
  directory : Directory

/-- Open a session as settings say. -/
def openWith (settings : Settings) (configureLogging : Bool) (source : StoreSource)
    (directory : Directory) (mishaps : Migration.Mishaps := fun _ => none) : Opening :=
  match configure settings configureLogging directory with
  | (.error fault, directory) => ⟨.error fault, none, directory⟩
  | (.ok (formula, ranks), directory) =>
    match source.acquire with
    | .error fault => ⟨.error (.store fault), none, directory⟩
    | .ok store =>
      match migrate settings formula directory store mishaps with
      | (.error fault, store) => ⟨.error fault, some (source.release store), directory⟩
      | (.ok migration, store) => ⟨.ok ⟨formula, ranks, migration, source.isOwned, false⟩, some store, directory⟩

/-- The descriptor of the formula of a session. -/
def descriptor (session : Session) : Descriptor := .describe session.formula

/-- Close a session, and its store if the session opened it. -/
def close (session : Session) (store : Store) : Session × Store :=
  if session.closed then (session, store)
  else ({ session with closed := true }, if session.ownsStore then store.close else store)

end Session

end Progression
