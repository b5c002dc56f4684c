/-!
Maps that remember the order in which their keys came. Writing to a key that is present keeps its place,
a new key comes last, and no key stands twice.
-/

namespace Progression

/-- Pairs of a key and its value, one for each key, in the order in which the keys came. -/
structure Entries (κ α : Type) where
  pairs : List (κ × α)
  distinct : (pairs.map Prod.fst).Nodup
  deriving DecidableEq

namespace Entries

variable {κ α β : Type}

def empty : Entries κ α := ⟨[], .nil⟩

instance : EmptyCollection (Entries κ α) := ⟨empty⟩

instance : Inhabited (Entries κ α) := ⟨empty⟩

def keys (entries : Entries κ α) : List κ := entries.pairs.map Prod.fst

def values (entries : Entries κ α) : List α := entries.pairs.map Prod.snd

def size (entries : Entries κ α) : Nat := entries.pairs.length

/-- Change the values; keys and their order stay. -/
def map (change : κ → α → β) (entries : Entries κ α) : Entries κ β where
  pairs := entries.pairs.map fun pair => (pair.1, change pair.1 pair.2)
  distinct := by
    have same : (Prod.fst ∘ fun pair : κ × α => (pair.1, change pair.1 pair.2)) = Prod.fst := rfl
    simpa [List.map_map, same] using entries.distinct

/-- The entries that a test keeps. -/
def filter (keep : κ → α → Bool) (entries : Entries κ α) : Entries κ α where
  pairs := entries.pairs.filter fun pair => keep pair.1 pair.2
  distinct := entries.distinct.sublist (List.filter_sublist.map Prod.fst)

/-- The same entries in the order of their keys. -/
def sorted (entries : Entries String α) : Entries String α where
  pairs := entries.pairs.mergeSort fun a b => a.1 ≤ b.1
  distinct := ((List.mergeSort_perm _ _).map Prod.fst).nodup_iff.2 entries.distinct

variable [DecidableEq κ]

def get? (entries : Entries κ α) (key : κ) : Option α :=
  (entries.pairs.find? fun pair => pair.1 = key).map Prod.snd

def contains (entries : Entries κ α) (key : κ) : Bool := (entries.get? key).isSome

/-- Write to a key of a list of pairs, at its place or else at the end. -/
def putPair (key : κ) (value : α) : List (κ × α) → List (κ × α)
  | [] => [(key, value)]
  | pair :: rest => if pair.1 = key then (key, value) :: rest else pair :: putPair key value rest

theorem mem_keys_putPair {key present : κ} {value : α} {pairs : List (κ × α)} :
    present ∈ (putPair key value pairs).map Prod.fst ↔ present = key ∨ present ∈ pairs.map Prod.fst := by
  induction pairs with
  | nil => simp [putPair]
  | cons pair rest ih =>
    by_cases same : pair.1 = key
    · subst same; simp [putPair]
    · simp only [putPair, same, if_false, List.map_cons, List.mem_cons, ih]; grind

theorem nodup_putPair {key : κ} {value : α} {pairs : List (κ × α)}
    (distinct : (pairs.map Prod.fst).Nodup) : ((putPair key value pairs).map Prod.fst).Nodup := by
  induction pairs with
  | nil => simp [putPair]
  | cons pair rest ih =>
    rw [List.map_cons, List.nodup_cons] at distinct
    by_cases same : pair.1 = key
    · subst same; simpa [putPair] using distinct
    · simp only [putPair, same, if_false, List.map_cons, List.nodup_cons]
      refine ⟨fun member => ?_, ih distinct.2⟩
      rcases mem_keys_putPair.1 member with equal | member
      · exact same equal
      · exact distinct.1 member

/-- Write to a key. -/
def put (entries : Entries κ α) (key : κ) (value : α) : Entries κ α :=
  ⟨putPair key value entries.pairs, nodup_putPair entries.distinct⟩

/-- Remove a key. -/
def erase (entries : Entries κ α) (key : κ) : Entries κ α where
  pairs := entries.pairs.filter fun pair => pair.1 ≠ key
  distinct := entries.distinct.sublist (List.filter_sublist.map Prod.fst)

/-- Write to several keys, one after another. -/
def putAll (entries : Entries κ α) (pairs : List (κ × α)) : Entries κ α :=
  pairs.foldl (fun written pair => written.put pair.1 pair.2) entries

/-- The map that remembers the last value written to each key. -/
def ofList (pairs : List (κ × α)) : Entries κ α := empty.putAll pairs

theorem find?_putPair {key sought : κ} {value : α} {pairs : List (κ × α)} :
    (putPair key value pairs).find? (fun pair => pair.1 = sought)
      = if key = sought then some (key, value) else pairs.find? (fun pair => pair.1 = sought) := by
  induction pairs with
  | nil => simp [putPair, List.find?_cons]; split <;> simp_all
  | cons pair rest ih => by_cases same : pair.1 = key <;> grind [putPair]

@[simp] theorem get?_put {entries : Entries κ α} {key sought : κ} {value : α} :
    (entries.put key value).get? sought = if key = sought then some value else entries.get? sought := by
  unfold get? put
  rw [find?_putPair]
  split <;> rfl

@[simp] theorem get?_empty {sought : κ} : (empty : Entries κ α).get? sought = none := rfl

end Entries

end Progression
