import Progression.Descriptor.Rebuild
import Progression.Settings.Field

namespace Progression.Settings

structure ExponentialSettings where
  baseXp : Float := Formula.defaultBaseXp
  exponent : Float := Formula.defaultExponent
  maxLevel : Int := Formula.defaultMaxLevel

structure LinearSettings where
  xpPerLevel : Int := Formula.defaultXpPerLevel
  maxLevel : Int := Formula.defaultMaxLevel

structure TableSettings where
  file : String := defaultTableName

structure CustomSettings where
  xpForLevel : String := ""
  constants : Entries String Float := ∅
  maxLevel : Int := Formula.defaultMaxLevel

/-- Which formula is active, with the parameters of every kind. -/
structure FormulaSettings where
  kind : String := "EXPONENTIAL"
  migrateXp : Bool := true
  exponential : ExponentialSettings := {}
  linear : LinearSettings := {}
  table : TableSettings := {}
  custom : CustomSettings := {}

structure RankSettings where
  id : String
  name : String
  minLevel : Int
  maxLevel : Int

end Progression.Settings

namespace Progression

open Settings

structure Settings where
  dataDir : String := "./data"
  logLevel : String := "INFO"
  logFormat : String := "json"
  databaseUrl : String := "sqlite+aiosqlite:///./data/levelcore.db"
  poolSize : Int := 10
  maxOverflow : Int := 10
  batchSize : Int := 10000
  progressEvery : Int := 50000
  timeoutSeconds : Option Float := none
  formula : FormulaSettings := {}
  ranks : List RankSettings := []

namespace Settings

def exponentialBlock : Reader ExponentialSettings := block fun path pairs =>
  ExponentialSettings.mk <$> field path pairs "base_xp" decimal Formula.defaultBaseXp
    <*> field path pairs "exponent" decimal Formula.defaultExponent
    <*> field path pairs "max_level" integer Formula.defaultMaxLevel

def linearBlock : Reader LinearSettings := block fun path pairs =>
  LinearSettings.mk <$> field path pairs "xp_per_level" integer Formula.defaultXpPerLevel
    <*> field path pairs "max_level" integer Formula.defaultMaxLevel

def tableBlock : Reader TableSettings := block fun path pairs =>
  TableSettings.mk <$> field path pairs "file" text defaultTableName

def customBlock : Reader CustomSettings := block fun path pairs =>
  CustomSettings.mk <$> field path pairs "xp_for_level" text ""
    <*> field path pairs "constants" (mapOf decimal) ∅
    <*> field path pairs "max_level" integer Formula.defaultMaxLevel

def formulaBlock : Reader FormulaSettings := block fun path pairs =>
  FormulaSettings.mk <$> field path pairs "type" text "EXPONENTIAL"
    <*> field path pairs "migrate_xp" truth true
    <*> field path pairs "exponential" exponentialBlock {}
    <*> field path pairs "linear" linearBlock {}
    <*> field path pairs "table" tableBlock {}
    <*> field path pairs "custom" customBlock {}

def rankBlock : Reader RankSettings := block fun path pairs =>
  RankSettings.mk <$> requiredField path pairs "id" text
    <*> requiredField path pairs "name" text
    <*> requiredField path pairs "min_level" integer
    <*> requiredField path pairs "max_level" integer

/-- The names of the fields at the top. Others are refused there, and ignored in blocks. -/
def topFields : List String := [
  "data_dir", "log_level", "log_format", "database_url", "db_pool_size", "db_max_overflow",
  "migration_batch_size", "migration_progress_every", "migration_timeout_seconds", "formula", "ranks"]

/-- The fields at the top that have no such name. -/
def unknownFields (pairs : List (String × Value)) : Reading Unit :=
  match pairs.filter fun pair => !topFields.contains pair.1 with
  | [] => .read ()
  | unknown => .refused (unknown.map fun pair => ⟨[pair.1], .extraForbidden⟩)

/-- The settings that fields give. -/
def ofFields (pairs : List (String × Value)) : Reading Settings :=
  let defaults : Settings := {}
  (fun settings _ => settings) <$> (Settings.mk <$> field [] pairs "data_dir" text defaults.dataDir
    <*> field [] pairs "log_level" text defaults.logLevel
    <*> field [] pairs "log_format" text defaults.logFormat
    <*> field [] pairs "database_url" text defaults.databaseUrl
    <*> field [] pairs "db_pool_size" integer defaults.poolSize
    <*> field [] pairs "db_max_overflow" integer defaults.maxOverflow
    <*> field [] pairs "migration_batch_size" integer defaults.batchSize
    <*> field [] pairs "migration_progress_every" integer defaults.progressEvery
    <*> field [] pairs "migration_timeout_seconds" decimal? defaults.timeoutSeconds
    <*> field [] pairs "formula" formulaBlock defaults.formula
    <*> field [] pairs "ranks" (listOf rankBlock) defaults.ranks)
    <*> unknownFields pairs

/-- The formula that is active; a table may be written. Gives also the directory afterwards. -/
def FormulaSettings.build (settings : FormulaSettings) (directory : Directory) :
    Except BuildFault Formula × Directory :=
  match FormulaKind.ofText? settings.kind with
  | none => (.error (.formula (.unknownKind (some settings.kind))), directory)
  | some .exponential =>
    let block := settings.exponential
    (((Exponential.make? (.float block.baseXp) (.float block.exponent) (.int block.maxLevel)).map
      Formula.exponential).mapError .formula, directory)
  | some .linear =>
    (((Linear.make? (.int settings.linear.xpPerLevel) (.int settings.linear.maxLevel)).map
      Formula.linear).mapError .formula, directory)
  | some .table =>
    let (loaded, directory) := LevelTable.load directory settings.table.file true
    ((loaded.map Formula.table).mapError .table, directory)
  | some .custom =>
    let block := settings.custom
    (((Custom.make? block.xpForLevel (block.constants.map fun _ value => .float value)
      (.int block.maxLevel)).map Formula.custom).mapError .formula, directory)

end Settings

end Progression
