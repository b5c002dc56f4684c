import Progression.Proofs.Rerun
import Progression.Proofs.TableFile

namespace Progression

open Number Text Expression

namespace Entries

variable {α β : Type} {entries : Entries String α}

/-- The keys are in their order. -/
def Ordered (entries : Entries String α) : Prop := entries.pairs.Pairwise fun a b => a.1 ≤ b.1

theorem ordered_sorted : entries.sorted.Ordered := by
  have transitive (a b c : String × α) (below : decide (a.1 ≤ b.1) = true) (above : decide (b.1 ≤ c.1) = true) :
      decide (a.1 ≤ c.1) = true :=
    decide_eq_true (String.le_trans (of_decide_eq_true below) (of_decide_eq_true above))
  have total (a b : String × α) : (decide (a.1 ≤ b.1) || decide (b.1 ≤ a.1)) = true := by
    simpa using String.le_total a.1 b.1
  exact (List.pairwise_mergeSort transitive total entries.pairs).imp of_decide_eq_true

theorem Ordered.sorted_eq (ordered : entries.Ordered) : entries.sorted = entries :=
  ext_pairs (List.mergeSort_of_pairwise (ordered.imp decide_eq_true))

theorem Ordered.of_keys {others : Entries String β} (ordered : entries.Ordered) (same : others.keys = entries.keys) :
    others.Ordered := by
  have keys : others.keys.Pairwise fun a b => a ≤ b := same ▸ List.pairwise_map.2 ordered
  exact List.pairwise_map.1 keys

end Entries

namespace Expression

theorem checkConstants_numbers {unknown : String} {pairs : List (String × Value)} {numbers : List (String × Float)}
    (checked : checkConstants unknown pairs = .ok numbers) :
    checkConstants unknown (numbers.map fun number => (number.1, .float number.2)) = .ok numbers := by
  induction pairs generalizing numbers with
  | nil =>
    cases checked
    rfl
  | cons pair pairs ih =>
    obtain ⟨name, value⟩ := pair
    rw [checkConstants] at checked
    split at checked
    · cases checked
    · rename_i number passed
      obtain ⟨others, checkedOthers, success⟩ := bind_eq_ok.1 checked
      cases success
      obtain ⟨identifier, unreserved, -, finite⟩ := checkConstant_eq_ok.1 passed
      have again : checkConstant unknown name (.float number) = .ok number :=
        checkConstant_eq_ok.2 ⟨identifier, unreserved, rfl, finite⟩
      rw [List.map_cons, checkConstants, again]
      exact bind_eq_ok.2 ⟨others, ih checkedOthers, rfl⟩

end Expression

theorem checkMaxLevel_natCast {top : Nat} (positive : 1 ≤ top) : checkMaxLevel (.int top) = .ok ⟨top, positive⟩ := by
  rw [checkMaxLevel, dif_pos (by omega)]
  rfl

/-- The parameter, given as the number that it denotes. -/
def PositiveParameter.plain (parameter : PositiveParameter) : PositiveParameter :=
  ⟨.float parameter.value, parameter.value, rfl, rfl, parameter.finite, parameter.positive⟩

theorem PositiveParameter.check_self {name : String} {parameter : PositiveParameter} :
    check name parameter.given = .ok parameter := by
  rw [check, dif_pos parameter.isNumber]
  split
  · rename_i refused
    cases parameter.denotes.symm.trans refused
  · rename_i value denotes
    cases parameter.denotes.symm.trans denotes
    rw [dif_pos parameter.finite, dif_pos parameter.positive]

namespace Exponential

/-- The formula with its parameters given as numbers. -/
def plain (formula : Exponential) : Exponential :=
  { formula with baseXp := formula.baseXp.plain, exponent := formula.exponent.plain }

theorem make?_of_checked {base power : PositiveParameter} {top : Nat} (positive : 1 ≤ top)
    (checked : Curve.check (exponentialFloor base.value power.value) top = .ok ()) :
    make? base.given power.given (.int top) = .ok ⟨base, power, top, positive, checked⟩ := by
  rw [make?]
  refine bind_eq_ok.2 ⟨_, PositiveParameter.check_self, bind_eq_ok.2 ⟨_, PositiveParameter.check_self,
    bind_eq_ok.2 ⟨_, checkMaxLevel_natCast positive, ?_⟩⟩⟩
  dsimp only
  split
  · rename_i fault failed
    cases failed.symm.trans checked
  · rfl

theorem make?_plain {formula : Exponential} :
    make? (.float formula.baseXp.value) (.float formula.exponent.value) (.int formula.maxLevel)
      = .ok formula.plain := by
  have checked : Curve.check (exponentialFloor formula.baseXp.plain.value formula.exponent.plain.value)
      formula.maxLevel = .ok () := formula.checked
  exact make?_of_checked formula.maxLevel_pos checked

end Exponential

theorem Linear.make?_self {formula : Linear} :
    make? (.int formula.xpPerLevel) (.int formula.maxLevel) = .ok formula := by
  have step : checkXpPerLevel (.int formula.xpPerLevel) = .ok formula.xpPerLevel := by
    rw [checkXpPerLevel, if_pos (Int.natCast_nonneg _)]
    rfl
  rw [make?]
  refine bind_eq_ok.2 ⟨_, step, bind_eq_ok.2 ⟨_, checkMaxLevel_natCast formula.maxLevel_pos, ?_⟩⟩
  dsimp only
  rw [dif_pos formula.inRange]
  rfl

namespace Custom

variable {formula : Custom}

theorem keys_entries : formula.entries.keys = formula.constants.keys := (checkConstants_ok formula.numbered).1

theorem numbered_entries :
    checkConstants levelName (formula.entries.map fun _ value => Value.float value).pairs = .ok formula.numbers :=
  checkConstants_numbers formula.numbered

/-- The formula with its constants given as numbers. -/
def plain (formula : Custom) : Custom :=
  { formula with constants := formula.entries.map fun _ value => .float value, numbered := numbered_entries }

theorem make?_of_checked {expression : String} {constants : Entries String Value} {all numbers : List (String × Float)}
    {term : Term} {top : Nat} (positive : 1 ≤ top) (notEmpty : checkNotEmpty expression = .ok ())
    (given : checkConstants levelName constants.pairs = .ok all)
    (numbered : checkConstants levelName constants.sorted.pairs = .ok numbers)
    (compiled : compileOver expression levelName numbers = .ok term)
    (checked : Curve.check (expressionFloor expression term) top = .ok ()) :
    make? expression constants (.int top)
      = .ok ⟨expression, constants.sorted, numbers, term, top, positive, notEmpty, numbered, compiled, checked⟩ := by
  rw [make?]
  refine bind_eq_ok.2 ⟨_, checkMaxLevel_natCast positive, ?_⟩
  dsimp only
  split
  · rename_i failed
    cases failed.symm.trans notEmpty
  · refine bind_eq_ok.2 ⟨_, mapError_eq_ok.2 given, ?_⟩
    split
    · rename_i refusal failed
      cases failed.symm.trans numbered
    · rename_i found passed
      cases passed.symm.trans numbered
      split
      · rename_i failed
        cases failed.symm.trans compiled
      · rename_i found passed
        cases passed.symm.trans compiled
        split
        · rename_i failed
          cases failed.symm.trans checked
        · rfl

theorem make?_plain (ordered : formula.constants.Ordered) :
    make? formula.expression (formula.entries.map fun _ value => .float value) (.int formula.maxLevel)
      = .ok formula.plain := by
  have sorted : (formula.entries.map fun _ value => Value.float value).sorted
      = formula.entries.map fun _ value => .float value :=
    (ordered.of_keys (Entries.keys_map.trans keys_entries)).sorted_eq
  have numbered : checkConstants levelName (formula.entries.map fun _ value => Value.float value).sorted.pairs
      = .ok formula.numbers := by
    rw [sorted]
    exact numbered_entries
  rw [make?_of_checked formula.maxLevel_pos formula.notEmpty numbered_entries numbered formula.compiled formula.checked]
  simp only [sorted]
  rfl

end Custom

namespace Formula

variable {formula : Formula} {directory : Directory}

/-- The formula was made from some parameters. -/
inductive Made : Formula → Prop
  | exponential {baseXp exponent maxLevel : Value} {formula : Exponential}
    (made : Exponential.make? baseXp exponent maxLevel = .ok formula) : Made (.exponential formula)
  | linear {xpPerLevel maxLevel : Value} {formula : Linear}
    (made : Linear.make? xpPerLevel maxLevel = .ok formula) : Made (.linear formula)
  | table {floors : Array Int} {source : String} {levels : LevelTable}
    (made : LevelTable.make? floors source = .ok levels) : Made (.table levels)
  | custom {expression : String} {constants : Entries String Value} {maxLevel : Value} {formula : Custom}
    (made : Custom.make? expression constants maxLevel = .ok formula) : Made (.custom formula)

/-- The formula with its parameters given as the numbers that they denote. -/
def plain : Formula → Formula
  | exponential formula => .exponential formula.plain
  | custom formula => .custom formula.plain
  | other => other

theorem alike_plain : formula.Alike formula.plain := by
  cases formula <;> exact ⟨rfl, rfl, fun _ => rfl, fun _ => rfl⟩

theorem describe_plain : Descriptor.describe formula.plain = .describe formula := by
  cases formula <;> rfl

/-- The integers among the parameters of a formula. -/
def integers : Formula → List Nat
  | exponential formula => [formula.maxLevel]
  | linear formula => [formula.maxLevel, formula.xpPerLevel]
  | table _ => []
  | custom formula => [formula.maxLevel]

/-- No integer has more digits than are read. -/
def Printable (formula : Formula) : Prop := ∀ n ∈ formula.integers, (toString n).length ≤ maxIntegerDigits

/-- The parameters of a formula that was made, and that is no table, make the same formula of numbers. -/
theorem build_parameters (made : formula.Made) (untabled : formula.kind ≠ .table) :
    formula.parameters.build directory = .ok formula.plain := by
  cases made with
  | exponential => exact mapError_eq_ok.2 (map_eq_ok.2 ⟨_, Exponential.make?_plain, rfl⟩)
  | linear => exact mapError_eq_ok.2 (map_eq_ok.2 ⟨_, Linear.make?_self, rfl⟩)
  | table => exact absurd rfl untabled
  | custom made =>
    have ordered : Entries.Ordered _ := (Custom.make?_given made).2.1 ▸ Entries.ordered_sorted
    exact mapError_eq_ok.2 (map_eq_ok.2 ⟨_, Custom.make?_plain ordered, rfl⟩)

end Formula

namespace Descriptor

variable {formula : Formula} {directory : Directory}

theorem readInteger_of_short (key : String) {n : Nat} (short : (toString n).length ≤ maxIntegerDigits) :
    readInteger key (toString n) = .ok n := by
  rw [readInteger, readInt?_toString_eq, if_neg (Nat.not_lt.2 short)]
  rfl

theorem checkKeys_written {params : String} : checkKeys formula.kind params formula.written = .ok () := by
  cases formula <;> rfl

theorem parameters_written (untabled : formula.kind ≠ .table) (printable : formula.Printable) :
    parameters formula.kind formula.written = .ok formula.parameters := by
  cases formula with
  | table => exact absurd rfl untabled
  | exponential formula =>
    have top := readInteger_of_short "maxLevel" (printable formula.maxLevel (by simp [Formula.integers]))
    refine bind_eq_ok.2 ⟨_, top, bind_eq_ok.2 ⟨_, readNumber_shortest formula.baseXp.finite, ?_⟩⟩
    exact bind_eq_ok.2 ⟨_, readNumber_shortest formula.exponent.finite, rfl⟩
  | linear formula =>
    have top := readInteger_of_short "maxLevel" (printable formula.maxLevel (by simp [Formula.integers]))
    have step := readInteger_of_short "xpPerLevel" (printable formula.xpPerLevel (by simp [Formula.integers]))
    exact bind_eq_ok.2 ⟨_, top, bind_eq_ok.2 ⟨_, step, rfl⟩⟩
  | custom formula =>
    have top := readInteger_of_short "maxLevel" (printable formula.maxLevel (by simp [Formula.integers]))
    refine bind_eq_ok.2 ⟨_, top, bind_eq_ok.2 ⟨_, readBase64_ofText, ?_⟩⟩
    exact bind_eq_ok.2 ⟨_, readConstants_constantsField formula.isConstant, rfl⟩

theorem decode_describe_of_printable (untabled : formula.kind ≠ .table) (printable : formula.Printable) :
    (describe formula).decode = .ok formula.parameters :=
  (decode_eq_ok kind_describe).2 ⟨_, readFields_describe untabled, checkKeys_written,
    parameters_written untabled printable⟩

theorem rebuild_of_decode {descriptor : Descriptor} {described : DescribedFormula}
    (decoded : descriptor.decode = .ok described) : descriptor.rebuild directory = described.build directory := by
  rw [rebuild, decoded]

/-- The formula that is rebuilt is the described one, of numbers. -/
theorem rebuild_describe (made : formula.Made) (untabled : formula.kind ≠ .table) (printable : formula.Printable) :
    (describe formula).rebuild directory = .ok formula.plain := by
  rw [rebuild_of_decode (decode_describe_of_printable untabled printable)]
  exact Formula.build_parameters made untabled

section Tables

variable {levels : LevelTable} {file : String}

theorem notMem_of_decode_table {described : DescribedFormula}
    (decoded : (describe (.table levels)).decode = .ok described) : ';' ∉ levels.source.toList := by
  obtain ⟨fields, read, checked, -⟩ := (decode_eq_ok kind_describe).1 decoded
  exact ((readFields_table read).2 (eq_file_of_checkKeys checked)).1

theorem decode_describe_table (named : levels.source ≠ "") (clean : ';' ∉ levels.source.toList) :
    (describe (.table levels)).decode = .ok (.table levels.source) := by
  have separate : ∀ field ∈ (Formula.table levels).fields, IsKey field.1 ∧ ';' ∉ (fieldText field).toList := by
    intro field member
    obtain rfl := List.mem_singleton.1 member
    have isKey : IsKey "file" := ⟨by decide, by decide⟩
    exact ⟨isKey, notMem_fieldText (by decide) clean⟩
  have read : readFields (describe (.table levels)).params = .ok (Formula.table levels).written := by
    rw [describe_eq]
    exact readFields_params rfl separate
  have given : parameters .table (Formula.table levels).written = .ok (.table levels.source) := by
    have file : required (Formula.table levels).written "file" = levels.source := rfl
    refine bind_eq_ok.2 ⟨_, rfl, ?_⟩
    dsimp only
    rw [file, if_neg (by simpa using named)]
    rfl
  exact (decode_eq_ok kind_describe).2 ⟨_, read, checkKeys_written, given⟩

end Tables

end Descriptor

namespace LevelTable

variable {directory after later : Directory} {file : String} {levels : LevelTable} {createDefault : Bool}

theorem holdsNull_of_load (success : load directory file createDefault = (.ok levels, after)) :
    holdsNull (Path.ofText file).names = false := by
  by_contra other
  rw [load, if_pos (by simpa using other)] at success
  rcases loadMissing_cases directory file createDefault with
    ⟨fault, failed⟩ | ⟨-, ⟨written, writes, -⟩ | ⟨fault, left, -, failed⟩⟩
  · cases failed.symm.trans success
  · exact other (holdsNull_of_writeDefault writes)
  · cases failed.symm.trans success

theorem load_of_readFile (createDefault : Bool) (named : holdsNull (Path.ofText file).names = false)
    (read : readFile directory file = .ok levels) : load directory file createDefault = (.ok levels, directory) := by
  obtain ⟨text, found, -⟩ := readFile_eq_ok.1 read
  rw [Directory.read?] at found
  split at found
  · rename_i place reached
    obtain ⟨raw, present, -⟩ := Option.map_eq_some_iff.1 found
    have occupied : directory.occupied place = true := by
      simp [Directory.occupied, Entries.contains, present]
    simp only [load, named, reached, occupied, read, if_true, Bool.false_eq_true, if_false]
  · cases found

/-- Tables are told by the names of their files. A table that was loaded has a descriptor that can be read just if the
name of the file holds no semicolon, which separates fields. Then what is read is this name, and whoever finds the same
text in the file rebuilds the table as it is. -/
theorem descriptor_read_iff (named : file ≠ "") (loaded : load directory file createDefault = (.ok levels, after)) :
    ((∃ described, (Descriptor.describe (.table levels)).decode = .ok described) ↔ ';' ∉ file.toList) ∧
    (';' ∉ file.toList → (Descriptor.describe (.table levels)).decode = .ok (.table file) ∧
      ∀ later : Directory, later.read? (.ofText file) = after.read? (.ofText file) →
        (Descriptor.describe (.table levels)).rebuild later = .ok (.table levels)) := by
  have read := (load_ok loaded).1
  have source : levels.source = file := readFile_source read
  subst source
  have decoded (clean : ';' ∉ levels.source.toList) := Descriptor.decode_describe_table named clean
  refine ⟨⟨fun ⟨_, decoded⟩ => Descriptor.notMem_of_decode_table decoded, fun clean => ⟨_, decoded clean⟩⟩,
    fun clean => ⟨decoded clean, fun later same => ?_⟩⟩
  have reread : readFile later levels.source = .ok levels := by
    obtain ⟨text, found, written⟩ := readFile_eq_ok.1 read
    exact readFile_eq_ok.2 ⟨text, same.trans found, written⟩
  have reloaded := load_of_readFile false (holdsNull_of_load loaded) reread
  rw [Descriptor.rebuild_of_decode (decoded clean), DescribedFormula.build, reloaded]
  rfl

/-- Two files of one text. -/
def seasons : Directory :=
  .ofFiles "data" [("levels.csv", "1,0\n2,100\n"), ("winter;2024.csv", "1,0\n2,100\n")]

theorem load_seasons (file : String)
    (loads : ((load seasons file true).1.toOption.map LevelTable.floors) = some #[0, 100]) :
    ∃ levels after, load seasons file true = (.ok levels, after) ∧ levels.floors = #[0, 100] := by
  obtain ⟨levels, found, floors⟩ := Option.map_eq_some_iff.1 loads
  refine ⟨levels, (load seasons file true).2, Prod.ext ?_ rfl, floors⟩
  cases outcome : (load seasons file true).1 with
  | error fault =>
    rw [outcome] at found
    cases found
  | ok read =>
    rw [outcome] at found
    cases found
    rfl

theorem descriptor_read_iff_levels :
    ∃ levels after, load seasons "levels.csv" true = (.ok levels, after) ∧ levels.floors = #[0, 100] ∧
      (Descriptor.describe (.table levels)).decode = .ok (.table "levels.csv") ∧
      (Descriptor.describe (.table levels)).rebuild after = .ok (.table levels) := by
  obtain ⟨levels, after, loaded, floors⟩ := load_seasons "levels.csv" (by decide +kernel)
  obtain ⟨-, clean⟩ := descriptor_read_iff (by decide) loaded
  obtain ⟨decoded, rebuilt⟩ := clean (by decide)
  exact ⟨levels, after, loaded, floors, decoded, rebuilt after rfl⟩

/-- A table can be loaded from a file whose name holds a semicolon, and its descriptor cannot be read. -/
theorem descriptor_with_semicolon_unread :
    ∃ levels after, load seasons "winter;2024.csv" true = (.ok levels, after) ∧ levels.floors = #[0, 100] ∧
      ∀ described, (Descriptor.describe (.table levels)).decode ≠ .ok described := by
  obtain ⟨levels, after, loaded, floors⟩ := load_seasons "winter;2024.csv" (by decide +kernel)
  have source : levels.source = "winter;2024.csv" := readFile_source (load_ok loaded).1
  refine ⟨levels, after, loaded, floors, fun described decoded => ?_⟩
  have clean := Descriptor.notMem_of_decode_table decoded
  rw [source] at clean
  exact clean (by decide)

end LevelTable

namespace Migration

variable {migration : Migration} {mishaps : Mishaps} {store after : Store}

theorem Ended.found {result : Result} (ended : Ended migration mishaps store (.ok result) after)
    (unchanged : result.status = .unchanged) :
    after = store ∧ store.readDescriptor = .ok (some migration.descriptor) := by
  cases ended with
  | disabled | adopted | migrated => cases unchanged
  | unchanged stored => exact ⟨rfl, stored⟩

end Migration

namespace Formula

variable {formula : Formula}

/-- A formula with a descriptor that is no table's is known by it, whatever file there may be. -/
theorem alike_of_describe_of_untabled {other : Formula} (untabled : formula.kind ≠ .table)
    (same : Descriptor.describe other = .describe formula) : formula.Alike other :=
  alike_of_describe same.symm fun _ _ tabled => absurd (congrArg kind tabled) untabled

/-- Descriptors stand for the formulas of all kinds but tables. The descriptor of a formula that was made, and whose
integers are short enough to be read, leads to a formula that no level and no XP tells from the first one, and that has
the same descriptor again. A formula with the same descriptor is no other one, so that a migration which finds it in
the store, and therefore leaves all as it is, leaves every level as it was. -/
theorem descriptor_stands_for_formula (made : formula.Made) (untabled : formula.kind ≠ .table)
    (printable : formula.Printable) :
    (∀ directory, ∃ built, (Descriptor.describe formula).rebuild directory = .ok built ∧ formula.Alike built ∧
      Descriptor.describe built = .describe formula) ∧
    (∀ other, Descriptor.describe other = .describe formula → formula.Alike other) ∧
    ∀ (migration : Migration) (mishaps : Migration.Mishaps) (store : Store) (result : Migration.Result),
      store.readDescriptor = .ok (some (.describe formula)) →
      (migration.run mishaps store).result = .ok result → result.status = .unchanged →
      (migration.run mishaps store).store = store ∧
        Migration.KeepsLevels formula migration.formula store (migration.run mishaps store).store := by
  refine ⟨fun directory => ?_, fun other => alike_of_describe_of_untabled untabled, ?_⟩
  · exact ⟨formula.plain, Descriptor.rebuild_describe made untabled printable, alike_plain, describe_plain⟩
  · intro migration mishaps store result stored returned unchanged
    have ended : Migration.Ended migration mishaps store (.ok result) (migration.run mishaps store).store :=
      returned ▸ Migration.run_ended migration mishaps store
    obtain ⟨untouched, found⟩ := ended.found unchanged
    have same : Descriptor.describe migration.formula = .describe formula :=
      Option.some.inj (Except.ok.inj (found.symm.trans stored))
    have alike := alike_of_describe_of_untabled untabled same
    rw [untouched]
    exact ⟨rfl, fun identity xp present => ⟨xp, present, (alike.levelForXp xp).symm⟩⟩

theorem descriptor_stands_for_formula_hundred :
    let back : Migration := { formula := .hundredEach, directory := .empty "data" }
    (∃ built, (Descriptor.describe .hundredEach).rebuild (.empty "data") = .ok built ∧
      Formula.hundredEach.Alike built ∧ Descriptor.describe built = ⟨"LINEAR", "maxLevel=60;xpPerLevel=100"⟩) ∧
    (back.run .none Migration.hundredStore).store = Migration.hundredStore := by
  intro back
  have made : hundredEach.Made := @Made.linear (.int 100) (.int 60) _ rfl
  have printable : hundredEach.Printable := by
    simp only [Printable, integers, hundredEach, List.forall_mem_cons]
    decide +kernel
  obtain ⟨rebuilt, -, unchanged⟩ := descriptor_stands_for_formula made (by decide) printable
  obtain ⟨built, rebuilding, alike, same⟩ := rebuilt (.empty "data")
  refine ⟨⟨built, rebuilding, alike, same⟩, ?_⟩
  exact (unchanged back .none Migration.hundredStore _ rfl rfl rfl).1

end Formula

end Progression
