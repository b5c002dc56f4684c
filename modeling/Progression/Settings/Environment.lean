import Progression.Json
import Progression.Settings.Basic
import Progression.Settings.Dotenv

/-!
Settings from variables. A variable names a field by a marker and the path to the field with two
underscores between the steps. Blocks and lists may also be given as JSON; steps override its entries. The
environment takes precedence over a file of variables.
-/

namespace Progression.Settings

open Text

/-- How the fields of settings nest. -/
inductive Shape where
  | plain
  | map
  | block (fields : List (String × Shape))
  | list (item : Shape)

namespace Shape

/-- Whether a field of this shape is given as JSON. -/
def structured : Shape → Bool
  | plain => false
  | _ => true

/-- The shape one step further. -/
def next? (shape : Shape) (step : String) : Option Shape :=
  match shape with
  | block fields => fields.lookup step
  | list (block fields) => fields.lookup step
  | _ => none

/-- The shape at the end of a path. -/
def at? (shape : Shape) (path : List String) : Option Shape :=
  path.foldl (fun reached step => reached.bind (·.next? step)) (some shape)

end Shape

/-- The block of the formula. -/
def formulaShape : Shape := .block [
  ("type", .plain), ("migrate_xp", .plain),
  ("exponential", .block [("base_xp", .plain), ("exponent", .plain), ("max_level", .plain)]),
  ("linear", .block [("xp_per_level", .plain), ("max_level", .plain)]),
  ("table", .block [("file", .plain)]),
  ("custom", .block [("xp_for_level", .plain), ("constants", .map), ("max_level", .plain)])]

/-- The list of ranks. -/
def ranksShape : Shape :=
  .list (.block [("id", .plain), ("name", .plain), ("min_level", .plain), ("max_level", .plain)])

/-- The shape of a field at the top. -/
def topShape (name : String) : Shape :=
  if name = "formula" then formulaShape else if name = "ranks" then ranksShape else .plain

/-- What the names of variables begin with, in small letters. -/
def marker : String := "levelcore_"

/-- What stands between the steps of a path. -/
def stepMark : List Char := ['_', '_']

/-- The steps of a path; the first of several marks that overlap counts. -/
def steps : List Char → List (List Char)
  | '_' :: '_' :: rest => [] :: steps rest
  | c :: rest =>
    match steps rest with
    | step :: others => (c :: step) :: others
    | [] => [[c]]
  | [] => [[]]

/-- Write a value at the end of a path in maps, which are made where there are none. -/
def putAt (path : List String) (last : String) (value : Value) (target : Value) : Value :=
  match target with
  | .map pairs =>
    match path with
    | [] => .map (Entries.putPair last value pairs)
    | step :: rest =>
      let inner := (pairs.lookup step).getD (.map [])
      .map (Entries.putPair step (putAt rest last value inner) pairs)
  | target => target

mutual

/-- Merge two values: maps entry by entry, and otherwise the second one counts. -/
def merge : Value → Value → Value
  | .map first, .map second => .map (mergeEntries first second)
  | _, second => second

def mergeEntries (first : List (String × Value)) : List (String × Value) → List (String × Value)
  | [] => first
  | (key, value) :: rest =>
    let merged := match first.lookup key with
      | some present => merge present value
      | none => value
    mergeEntries (Entries.putPair key merged first) rest

end

/-- A field is given as JSON that cannot be read. -/
inductive EnvironmentFault where
  | badJson
  | fields (faults : List FieldFault)

/-- Variables by their names in small letters. -/
abbrev Variables := Entries String (Option String)

def lowered (assigned : List (String × Option String)) : Variables :=
  .ofList (assigned.map fun (name, value) => (.ofList (smallLetters name.toList), value))

/-- The value of a variable: its text, or what it writes in JSON if the field is structured. An empty text
stays a text. -/
def stepValue (shape : Option Shape) (given : Option String) : Except EnvironmentFault Value :=
  match given with
  | none => .ok .null
  | some given =>
    if !given.isEmpty && shape.any Shape.structured then
      (Json.read? given.toList).elim (.error .badJson) .ok
    else .ok (.text given)

/-- Gather the variables whose names go on from a field. -/
def gatherSteps (name : String) (shape : Shape) (target : Value) :
    List (String × Option String) → Except EnvironmentFault Value
  | [] => .ok target
  | (label, given) :: rest =>
    let start := marker.toList ++ name.toList ++ stepMark
    if start.isPrefixOf label.toList then do
      let path := (steps (label.toList.drop start.length)).map String.ofList
      let value ← stepValue (shape.at? path) given
      gatherSteps name shape (putAt path.dropLast (path.getLastD "") value target) rest
    else gatherSteps name shape target rest

/-- Write the names of entries the way that the fields of a shape are written. -/
def renameFields : Shape → List (String × Value) → List (String × Value)
  | .block fields, pairs =>
    pairs.foldl (fun renamed (key, value) =>
      let wanted := String.ofList (smallLetters key.toList)
      match fields.lookup wanted with
      | some (.block inner) =>
        let value := match value with
          | .map pairs => .map (pairs.foldl (fun renamed (key, value) =>
              let wanted := String.ofList (smallLetters key.toList)
              Entries.putPair (if (inner.lookup wanted).isSome then wanted else key) value renamed) [])
          | value => value
        Entries.putPair wanted value renamed
      | some _ => Entries.putPair wanted value renamed
      | none => Entries.putPair key value renamed) []
  | _, pairs => pairs

/-- What variables give for a structured field at the top. -/
def structuredField (name : String) (assigned : Variables) : Except EnvironmentFault (Option Value) := do
  let shape := topShape name
  match (assigned.get? (marker ++ name)).join with
  | some given =>
    match Json.read? given.toList with
    | none => throw .badJson
    | some (.map pairs) => return some (merge (.map pairs) (← gatherSteps name shape (.map []) assigned.pairs))
    | some value => return some value
  | none =>
    match ← gatherSteps name shape (.map []) assigned.pairs with
    | .map [] => return none
    | value => return some value

/-- What variables give for a field at the top. -/
def topField (name : String) (assigned : Variables) : Except EnvironmentFault (Option Value) :=
  if (topShape name).structured then do
    match ← structuredField name assigned with
    | some (.map pairs) => return some (.map (renameFields (topShape name) pairs))
    | value => return value
  else return (assigned.get? (marker ++ name)).join.map .text

/-- What variables give for several fields. -/
def gatherFields (assigned : Variables) : List String → Except EnvironmentFault (List (String × Value))
  | [] => .ok []
  | name :: rest => do
    let value ← topField name assigned
    return (value.map (name, ·)).toList ++ (← gatherFields assigned rest)

/-- The variables of a file that belong to no field; they are refused under their own names. -/
def strayVariables (assigned : Variables) : List (String × Value) :=
  assigned.pairs.filterMap fun (label, given) =>
    let used := topFields.any fun name =>
      label = marker ++ name
        || ((topShape name).structured && (marker ++ name).toList.isPrefixOf label.toList)
    match given with
    | some given =>
      if used || given.isEmpty || topFields.contains label then none else some (label, .text given)
    | none => none

/-- The settings that an environment and a file of variables give. -/
def ofVariables (environment : List (String × String)) (file : Option String) :
    Except EnvironmentFault Settings := do
  let own := lowered (environment.map fun (name, value) => (name, some value))
  let fromEnvironment ← gatherFields own topFields
  let others := lowered ((file.map (Dotenv.read environment)).getD ∅).pairs
  let fromFile ← gatherFields others topFields
  let fields := mergeEntries (fromFile ++ strayVariables others) fromEnvironment
  (ofFields fields).toExcept.mapError .fields

end Progression.Settings
