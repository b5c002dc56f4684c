import Progression.Entries
import Progression.Store.Fault

/-!
Stores: the XP of each identity in the order in which the identities came, and entries about the whole. A
store in memory holds any integer, and fails only when it is closed. A durable store holds integers of 64
bits, outlives its closing, and may lose its tables.
-/

namespace Progression

inductive StoreKind where
  | memory
  | durable
  deriving DecidableEq, Repr

/-- Whether a store can hold an amount of XP. -/
def StoreKind.holds : StoreKind → Int → Bool
  | memory, _ => true
  | durable, xp => -0x8000000000000000 ≤ xp && xp ≤ 0x7fffffffffffffff

structure Store where
  kind : StoreKind := .memory
  rows : Entries Identity Int := ∅
  metadata : Entries String String := ∅
  closed : Bool := false
  /-- Whether the tables are there. -/
  intact : Bool := true

namespace Store

/-- Whether a call gets through: the store is open and has its tables. The fault is that of lost tables. -/
def reach (store : Store) (fault : StoreFault) : Except StoreFault Unit :=
  if store.closed then .error .closed else if store.intact then .ok () else .error fault

/-- The XP of an identity, if it has a row. -/
def load (store : Store) (identity : Identity) : Except StoreFault (Option Int) := do
  store.reach (.load identity)
  return store.rows.get? identity

/-- Write the row of an identity. -/
def save (store : Store) (identity : Identity) (xp : Int) : Except StoreFault Store := do
  store.reach (.save identity)
  if store.kind.holds xp then return { store with rows := store.rows.put identity xp }
  else throw .pastRange

/-- Whether an identity has a row. -/
def contains (store : Store) (identity : Identity) : Except StoreFault Bool := do
  store.reach (.find identity)
  return store.rows.contains identity

/-- All rows. -/
def stream (store : Store) : Except StoreFault (List (Identity × Int)) := do
  store.reach .stream
  return store.rows.pairs

def readEntry (store : Store) (key : String) : Except StoreFault (Option String) := do
  store.reach (.readEntry key)
  return store.metadata.get? key

/-- Write entries, all or none of them. -/
def writeEntries (store : Store) (entries : Entries String String) : Except StoreFault Store := do
  if entries.pairs.isEmpty && !store.closed then return store
  store.reach (.writeEntries entries.sorted.keys)
  return { store with metadata := store.metadata.putAll entries.pairs }

def close (store : Store) : Store := { store with closed := true }

/-- A durable store without its tables. -/
def loseTables (store : Store) : Store :=
  match store.kind with
  | .memory => store
  | .durable => { store with rows := ∅, metadata := ∅, intact := false }

/-- A durable store opened anew: lost tables are made again, empty. -/
def reopen (store : Store) : Store :=
  match store.kind with
  | .memory => store
  | .durable => { store with closed := false, intact := true }

end Store

end Progression
