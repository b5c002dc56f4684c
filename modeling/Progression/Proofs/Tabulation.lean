import Mathlib.Data.List.Forall2
import Mathlib.Data.List.Perm.Subperm
import Progression.Formula.TableFile
import Progression.Proofs.Fields
import Progression.Proofs.Formula

/-!
Which texts are level tables. Every line that is neither blank nor a comment nor a heading has to write the floor of one
level, the levels have to be those from one on, each once, and the floors have to rise from zero. The order of the lines
does not matter.
-/

namespace Progression

open Curve Number Text

/-- Whether a line, without the white space around it, is to give a row: it is neither blank nor a comment nor a
heading. -/
def IsRowLine (line : List Char) : Prop :=
  line ≠ [] ∧ line.head? ≠ some '#' ∧ ¬ "level".toList <+: smallLetters line

instance (line : List Char) : Decidable (IsRowLine line) := inferInstanceAs (Decidable (_ ∧ _ ∧ ¬ _))

/-- The lines that are to give rows, without the white space around them. -/
def rowLines (given : List (List Char)) : List (List Char) := (given.map strip).filter fun line => IsRowLine line

/-- A line writes the floor of a level: two integers with one comma between them, white space aside. -/
def WritesRow (line : List Char) (row : Nat × Int) : Prop :=
  ∃ left right, line = left ++ ',' :: right ∧ ',' ∉ left ∧ ',' ∉ right ∧
    readInt? (strip left) = some (row.1 : Int) ∧ readInt? (strip right) = some row.2

/-- The rows of a table with given floors, by level. -/
def levelRows (floors : List Int) : List (Nat × Int) := (List.range' 1 floors.length).zip floors

/-- Lines tabulate floors: each line writes a row, the levels are those from one to the number of floors, each once and
with its floor, the first level needs nothing, and the floors rise. -/
structure Tabulates (given : List (List Char)) (floors : List Int) : Prop where
  rows : ∃ rows, List.Forall₂ WritesRow given rows ∧ rows.Perm (levelRows floors)
  first : floors.head? = some 0
  rising : floors.Pairwise (· < ·)

theorem isRemark_eq_false_iff {line : List Char} : isRemark line = false ↔ IsRowLine line := by
  rw [isRemark, IsRowLine, Bool.or_eq_false_iff, Bool.or_eq_false_iff, List.isEmpty_eq_false_iff, decide_eq_false_iff_not,
    ← Bool.not_eq_true, List.isPrefixOf_iff_prefix, and_assoc]

section RowLines

variable {line : List Char} {given : List (List Char)}

theorem rowLines_cons_of_row (gives : IsRowLine (strip line)) :
    rowLines (line :: given) = strip line :: rowLines given := by
  simp [rowLines, gives]

theorem rowLines_cons_of_remark (passed : ¬ IsRowLine (strip line)) : rowLines (line :: given) = rowLines given := by
  simp [rowLines, passed]

end RowLines

namespace Text

theorem splitAt_eq_pair {separator : Char} {text left right : List Char} :
    splitAt separator text = [left, right] ↔
      text = left ++ separator :: right ∧ separator ∉ left ∧ separator ∉ right := by
  constructor
  · intro cut
    have apart : ∀ piece ∈ [left, right], separator ∉ piece := cut ▸ notMem_of_mem_splitAt
    have whole : [separator].intercalate [left, right] = text := cut ▸ intercalate_splitAt
    exact ⟨whole.symm.trans (by simp), apart left (by simp), apart right (by simp)⟩
  · rintro ⟨rfl, left_clean, right_clean⟩
    rw [splitAt_append left_clean, splitAt_of_notMem right_clean]

end Text

theorem readRow_eq_ok {line : List Char} {row : Nat × Int} :
    readRow line = .ok row ↔ WritesRow line row ∧ 1 ≤ row.1 ∧ 0 ≤ row.2 := by
  constructor
  · intro read
    rw [readRow] at read
    split at read
    · rename_i left right cut
      obtain ⟨whole, left_clean, right_clean⟩ := splitAt_eq_pair.1 cut
      split at read
      · rename_i level xp level_read xp_read
        split at read
        · cases read
        · split at read
          · cases read
          · cases read
            rename_i high enough
            have listed : ((level.toNat : Nat) : Int) = level := by omega
            exact ⟨⟨left, right, whole, left_clean, right_clean, level_read.trans (congrArg some listed.symm), xp_read⟩,
              by omega, by omega⟩
      · cases read
    · cases read
  · rintro ⟨⟨left, right, whole, left_clean, right_clean, level_read, xp_read⟩, high, enough⟩
    have listed : ¬ (row.1 : Int) < 1 := by omega
    rw [readRow, splitAt_eq_pair.2 ⟨whole, left_clean, right_clean⟩]
    simp only [level_read, xp_read, listed, Int.not_lt.2 enough, if_false, Int.toNat_natCast]

namespace TableRows

variable {rows all : TableRows} {source : String} {line : List Char}

theorem add_eq_ok : rows.add line = .ok all ↔
    ¬ IsRowLine (strip line) ∧ all = rows ∨
      IsRowLine (strip line) ∧ ∃ row, readRow (strip line) = .ok row ∧ rows.contains row.1 = false ∧
        all = rows.put row.1 row.2 := by
  rw [add]
  cases remark : isRemark (strip line) with
  | true =>
    have passed : ¬ IsRowLine (strip line) := by
      intro gives
      rw [isRemark_eq_false_iff.2 gives] at remark
      cases remark
    simp [passed, eq_comm (a := rows)]
  | false =>
    have gives : IsRowLine (strip line) := isRemark_eq_false_iff.1 remark
    simp only [Bool.false_eq_true, if_false, gives, not_true_eq_false, false_and, false_or, true_and]
    cases read : readRow (strip line) with
    | error fault => simp
    | ok row =>
      obtain ⟨level, xp⟩ := row
      cases present : rows.contains level <;> simp [present, eq_comm (a := all)]

theorem addLines_cons_eq_ok {number : Nat} {given : List (List Char)} :
    addLines source rows number (line :: given) = .ok all ↔
      ∃ next, rows.add line = .ok next ∧ addLines source next (number + 1) given = .ok all := by
  rw [addLines]
  cases added : rows.add line with
  | error fault => simp
  | ok next => simp

/-- What lines add to the rows before them: each that is to give a row does so, and no level is given twice. -/
theorem addLines_eq_ok {number : Nat} {given : List (List Char)} :
    addLines source rows number given = .ok all ↔
      ∃ written, List.Forall₂ (fun line row => readRow line = .ok row) (rowLines given) written ∧
        all.pairs = rows.pairs ++ written := by
  induction given generalizing rows number with
  | nil =>
    constructor
    · intro success
      exact ⟨[], .nil, by rw [← Except.ok.inj success, List.append_nil]⟩
    · rintro ⟨written, reads, pairs⟩
      cases reads
      rw [List.append_nil] at pairs
      exact congrArg Except.ok (Entries.ext_pairs pairs).symm
  | cons line given ih =>
    rw [addLines_cons_eq_ok]
    by_cases gives : IsRowLine (strip line)
    · rw [rowLines_cons_of_row gives]
      constructor
      · rintro ⟨next, added, success⟩
        rcases add_eq_ok.1 added with ⟨passed, -⟩ | ⟨-, row, read, absent, rfl⟩
        · exact absurd gives passed
        · obtain ⟨written, reads, pairs⟩ := ih.1 success
          rw [Entries.pairs_put_of_absent absent, List.append_assoc] at pairs
          exact ⟨row :: written, .cons read reads, pairs⟩
      · rintro ⟨written, reads, pairs⟩
        obtain ⟨row, rest, read, later, rfl⟩ := List.forall₂_cons_left_iff.1 reads
        -- A level that is there already is not given again by distinct keys.
        have absent : rows.contains row.1 = false := by
          rw [← Bool.not_eq_true]
          intro present
          have distinct := all.distinct
          rw [pairs, List.map_append, List.nodup_append] at distinct
          exact distinct.2.2 row.1 (Entries.contains_eq_true_iff.1 present) row.1 (List.mem_cons_self ..) rfl
        refine ⟨rows.put row.1 row.2, add_eq_ok.2 (.inr ⟨gives, row, read, absent, rfl⟩), ih.2 ⟨rest, later, ?_⟩⟩
        rw [Entries.pairs_put_of_absent absent, pairs, List.append_assoc, List.singleton_append]
    · rw [rowLines_cons_of_remark gives, ← ih]
      constructor
      · rintro ⟨next, added, success⟩
        rcases add_eq_ok.1 added with ⟨-, rfl⟩ | ⟨also, -⟩
        · exact success
        · exact absurd also gives
      · intro success
        exact ⟨rows, add_eq_ok.2 (.inl ⟨gives, rfl⟩), success⟩

end TableRows

theorem mem_levelRows {floors : List Int} {row : Nat × Int} :
    row ∈ levelRows floors ↔ 1 ≤ row.1 ∧ floors[row.1 - 1]? = some row.2 := by
  rw [levelRows, List.mem_iff_getElem?]
  constructor
  · rintro ⟨index, found⟩
    obtain ⟨level, floor⟩ := List.getElem?_zip_eq_some.1 found
    obtain ⟨inside, same⟩ := List.getElem?_eq_some_iff.1 level
    rw [List.getElem_range'] at same
    have position : row.1 - 1 = index := by omega
    exact ⟨by omega, position ▸ floor⟩
  · rintro ⟨first, found⟩
    obtain ⟨inside, -⟩ := List.getElem?_eq_some_iff.1 found
    refine ⟨row.1 - 1, List.getElem?_zip_eq_some.2 ⟨?_, found⟩⟩
    rw [List.getElem?_range' inside]
    congr 1
    omega

namespace LevelTable

variable {table : LevelTable} {floors : List Int}

theorem listedFloor_succ {listed : Array Int} {index : Nat} (inside : index < listed.size) :
    listedFloor listed (index + 1) = listed[index] := by
  simp [listedFloor, inside]

theorem head?_floors : table.floors.toList.head? = some 0 := by
  have first := table.first
  have inside : 0 < table.floors.size := table.nonempty
  rw [listedFloor_succ inside] at first
  rw [List.head?_eq_getElem?, Array.getElem?_toList, Array.getElem?_eq_getElem inside, first]

theorem rising_floors : table.floors.toList.Pairwise (· < ·) := by
  rw [List.pairwise_iff_getElem]
  intro lower upper lower_inside upper_inside rises
  rw [Array.length_toList] at lower_inside upper_inside
  have climbs : table.xpForLevel (lower + 1 : Nat) < table.xpForLevel (upper + 1 : Nat) :=
    table.xpForLevel_strictMonoOn ⟨by omega, by omega⟩ ⟨by omega, by omega⟩ (by omega)
  rw [xpForLevel_natCast (by omega) (by omega), xpForLevel_natCast (by omega) (by omega),
    listedFloor_succ lower_inside, listedFloor_succ upper_inside] at climbs
  exact climbs

theorem exists_of_rising (first : floors.head? = some 0) (rising : floors.Pairwise (· < ·)) (source : String) :
    ∃ table : LevelTable, table.floors.toList = floors ∧ table.source = source := by
  obtain ⟨rest, rfl⟩ := List.head?_eq_some_iff.1 first
  have lists {index : Nat} (inside : index < (0 :: rest).length) :
      listedFloor (0 :: rest).toArray (index + 1) = (0 :: rest)[index] := listedFloor_succ inside
  have climbs {level : Nat} (above : 1 ≤ level) (below : level < (0 :: rest).length) :
      listedFloor (0 :: rest).toArray level < listedFloor (0 :: rest).toArray (level + 1) := by
    obtain ⟨index, rfl⟩ := Nat.exists_eq_add_of_le' above
    rw [lists (by omega), lists below]
    exact List.pairwise_iff_getElem.1 rising index (index + 1) _ _ (Nat.lt_succ_self index)
  refine ⟨⟨(0 :: rest).toArray, source, Nat.succ_pos _, lists (Nat.succ_pos _), ?_⟩, rfl, rfl⟩
  refine checkFrom_of_rising (fun _ _ _ => rfl) (fun within => ?_) fun level above below => climbs (by omega) below
  exact climbs le_rfl within

theorem make?_eq_ok {listed : Array Int} {source : String} :
    make? listed source = .ok table ↔ table.floors = listed ∧ table.source = source := by
  constructor
  · intro success
    rw [make?] at success
    split at success
    · split at success
      · split at success
        · cases success
          exact ⟨rfl, rfl⟩
        · cases success
      · cases success
    · cases success
  · rintro ⟨rfl, rfl⟩
    exact make?_self table

end LevelTable

namespace TableRows

variable {rows : TableRows} {source : String} {table : LevelTable}

theorem gap?_eq_none_iff : rows.gap? = none ↔ rows.keys.Perm (List.range' 1 rows.size) := by
  have size : rows.keys.length = rows.size := List.length_map _
  have levels : (List.range rows.size).map (· + 1) = List.range' 1 rows.size := by
    rw [List.range'_eq_map_range]
    exact List.map_congr_left fun index _ => Nat.add_comm index 1
  rw [gap?, levels, List.find?_eq_none]
  constructor
  · intro none
    have present : List.range' 1 rows.size ⊆ rows.keys := by
      intro level member
      have contained := none level member
      rw [Bool.not_eq_true, Bool.not_eq_false'] at contained
      exact Entries.contains_eq_true_iff.1 contained
    have distinct : (List.range' 1 rows.size).Nodup := List.nodup_range'
    have part : (List.range' 1 rows.size).Subperm rows.keys := distinct.subperm present
    exact (part.perm_of_length_le (by rw [size, List.length_range'])).symm
  · intro shuffled level member
    have present : rows.contains level = true := Entries.contains_eq_true_iff.2 (shuffled.mem_iff.2 member)
    simp [present]

theorem toList_floors :
    rows.floors.toList = (List.range' 1 rows.size).map fun level => (rows.get? level).getD 0 := by
  rw [floors, List.toList_toArray, List.range'_eq_map_range, List.map_map]
  refine List.map_congr_left fun index _ => ?_
  rw [Function.comp_apply, Nat.add_comm]

/-- Rows without a gap are those of their floors. -/
theorem perm_levelRows_floors (gapless : rows.keys.Perm (List.range' 1 rows.size)) :
    rows.pairs.Perm (levelRows rows.floors.toList) := by
  have pairs : rows.pairs = rows.keys.map fun level => (level, (rows.get? level).getD 0) := by
    rw [Entries.keys, List.map_map]
    refine (List.map_id rows.pairs).symm.trans (List.map_congr_left fun row member => ?_)
    rw [Function.comp_apply, Entries.get?_eq_some_iff.2 member]
    rfl
  have listed : levelRows rows.floors.toList
      = (List.range' 1 rows.size).map fun level => (level, (rows.get? level).getD 0) := by
    rw [levelRows, toList_floors, List.length_map, List.length_range']
    nth_rewrite 1 [← List.map_id (List.range' 1 rows.size)]
    exact List.zip_map'
  rw [pairs, listed]
  exact gapless.map _

/-- Rows make just the tables whose rows they are, in some order. -/
theorem table?_eq_ok :
    rows.table? source = .ok table ↔ rows.pairs.Perm (levelRows table.floors.toList) ∧ table.source = source := by
  constructor
  · intro success
    rw [table?] at success
    split at success
    · cases success
    · split at success
      · cases success
      · split at success
        · cases success
        · split at success
          · cases success
          · rename_i gapless
            obtain ⟨floors, named⟩ := LevelTable.make?_eq_ok.1 (mapError_eq_ok.1 success)
            exact ⟨floors ▸ perm_levelRows_floors (gap?_eq_none_iff.1 gapless), named⟩
  · rintro ⟨shuffled, named⟩
    have size : rows.size = table.floors.size := by
      rw [Entries.size, shuffled.length_eq, levelRows, List.length_zip, List.length_range', Nat.min_self,
        Array.length_toList]
    have found {level : Nat} (above : 1 ≤ level) (inside : level - 1 < table.floors.size) :
        rows.get? level = some table.floors[level - 1] := by
      refine Entries.get?_eq_some_iff.2 (shuffled.mem_iff.2 (mem_levelRows.2 ⟨above, ?_⟩))
      rw [Array.getElem?_toList, Array.getElem?_eq_getElem inside]
    have gapless : rows.keys.Perm (List.range' 1 rows.size) := by
      have keys := shuffled.map Prod.fst
      rwa [levelRows, List.map_fst_zip (by rw [List.length_range']), Array.length_toList, ← size] at keys
    have floors : rows.floors = table.floors := by
      refine Array.toList_inj.1 (toList_floors.trans (List.ext_getElem (by simp [size]) fun index inside _ => ?_))
      rw [List.length_map, List.length_range'] at inside
      rw [List.getElem_map, List.getElem_range', found (by omega) (by omega)]
      simp
    have nonempty : rows.size ≠ 0 := by
      have positive := table.nonempty
      omega
    have first : rows.get? 1 = some 0 := by
      rw [found le_rfl table.nonempty]
      exact congrArg some ((LevelTable.listedFloor_succ table.nonempty).symm.trans table.first)
    rw [table?, if_neg nonempty, first]
    dsimp only
    rw [if_neg (not_not.2 rfl), gap?_eq_none_iff.2 gapless]
    exact mapError_eq_ok.2 (LevelTable.make?_eq_ok.2 ⟨floors.symm, named⟩)

end TableRows

/-- The order of lines does not matter. -/
theorem Tabulates.of_perm {given others : List (List Char)} {floors : List Int} (tabulates : Tabulates given floors)
    (shuffled : others.Perm given) : Tabulates others floors := by
  obtain ⟨⟨rows, writes, listed⟩, first, rising⟩ := tabulates
  obtain ⟨moved, also, same⟩ := List.perm_comp_forall₂ shuffled writes
  exact ⟨⟨moved, also, same.trans listed⟩, first, rising⟩

theorem rowLines_perm {given others remarks : List (List Char)} (passed : ∀ line ∈ remarks, ¬ IsRowLine (strip line))
    (shuffled : others.Perm (remarks ++ given)) : (rowLines others).Perm (rowLines given) := by
  have nothing : rowLines remarks = [] := by
    rw [rowLines, List.filter_eq_nil_iff]
    intro body member
    obtain ⟨line, inside, rfl⟩ := List.mem_map.1 member
    simpa using passed line inside
  have kept : rowLines (remarks ++ given) = rowLines given := by
    rw [rowLines, List.map_append, List.filter_append, ← rowLines, ← rowLines, nothing, List.nil_append]
  exact kept ▸ (shuffled.map strip).filter _

theorem Tabulates.nonneg {given : List (List Char)} {floors : List Int} (tabulates : Tabulates given floors) :
    ∀ floor ∈ floors, 0 ≤ floor := by
  obtain ⟨rest, rfl⟩ := List.head?_eq_some_iff.1 tabulates.first
  intro floor member
  rcases List.mem_cons.1 member with rfl | later
  · exact le_rfl
  · exact ((List.pairwise_cons.1 tabulates.rising).1 floor later).le

theorem Tabulates.reads {given : List (List Char)} {floors : List Int} {rows : List (Nat × Int)}
    (tabulates : Tabulates given floors) (writes : List.Forall₂ WritesRow given rows)
    (listed : rows.Perm (levelRows floors)) :
    List.Forall₂ (fun line row => readRow line = .ok row) given rows := by
  have fine : ∀ row ∈ rows, 1 ≤ row.1 ∧ 0 ≤ row.2 := by
    intro row member
    obtain ⟨first, found⟩ := mem_levelRows.1 (listed.mem_iff.1 member)
    exact ⟨first, tabulates.nonneg row.2 (List.mem_of_getElem? found)⟩
  have both : List.Forall₂ (fun row line => (1 ≤ row.1 ∧ 0 ≤ row.2) ∧ WritesRow line row) rows given :=
    (List.forall₂_and_left rows given).2 ⟨fine, writes.flip⟩
  exact both.flip.imp fun line row fits => readRow_eq_ok.2 ⟨fits.2, fits.1⟩

namespace LevelTable

variable {table : LevelTable} {text : List Char} {source : String}

/-- A text is read as a table just if its lines tabulate the floors of the table. -/
theorem read_eq_ok :
    read text source = .ok table ↔ Tabulates (rowLines (lines text)) table.floors.toList ∧ table.source = source := by
  rw [read, bind_eq_ok]
  constructor
  · rintro ⟨rows, added, made⟩
    obtain ⟨written, reads, pairs⟩ := TableRows.addLines_eq_ok.1 added
    obtain ⟨listed, named⟩ := TableRows.table?_eq_ok.1 made
    have same : rows.pairs = written := pairs
    have writes := reads.imp fun line row read => (readRow_eq_ok.1 read).1
    exact ⟨⟨⟨written, writes, same ▸ listed⟩, head?_floors, rising_floors⟩, named⟩
  · rintro ⟨tabulates, named⟩
    obtain ⟨rows, writes, listed⟩ := tabulates.rows
    have distinct : (rows.map Prod.fst).Nodup := by
      rw [(listed.map Prod.fst).nodup_iff, levelRows, List.map_fst_zip (by rw [List.length_range'])]
      exact List.nodup_range'
    exact ⟨⟨rows, distinct⟩, TableRows.addLines_eq_ok.2 ⟨rows, tabulates.reads writes listed, rfl⟩,
      TableRows.table?_eq_ok.2 ⟨listed, named⟩⟩

theorem kind_of_make?_error {listed : Array Int} {fault : FormulaFault} (failed : make? listed source = .error fault) :
    fault.kind = .configuration := by
  rw [make?] at failed
  split at failed
  · split at failed
    · split at failed <;> cases failed
      rfl
    · cases failed
      rfl
  · cases failed
    rfl

theorem kind_of_addLines_error {rows : TableRows} {number : Nat} {given : List (List Char)} {fault : TableFault}
    (failed : rows.addLines source number given = .error fault) :
    (TableFileFault.text fault).kind = .configuration := by
  induction given generalizing rows number with
  | nil => cases failed
  | cons line given ih =>
    rw [TableRows.addLines] at failed
    split at failed
    · cases failed
      rfl
    · exact ih failed

theorem kind_of_table?_error {rows : TableRows} {fault : TableFault} (failed : rows.table? source = .error fault) :
    (TableFileFault.text fault).kind = .configuration := by
  rw [TableRows.table?] at failed
  split at failed
  · cases failed
    rfl
  · split at failed
    · cases failed
      rfl
    · split at failed
      · cases failed
        rfl
      · split at failed
        · cases failed
          rfl
        · obtain ⟨inner, made, rfl⟩ := mapError_eq_error.1 failed
          exact kind_of_make?_error made

/-- Whatever is wrong with a table, it is a fault of the configuration. -/
theorem kind_of_read_error {fault : TableFault} (failed : read text source = .error fault) :
    (TableFileFault.text fault).kind = .configuration := by
  rcases bind_eq_error.1 failed with failed | ⟨rows, -, failed⟩
  · exact kind_of_addLines_error failed
  · exact kind_of_table?_error failed

/-- A text is read as the table of just the floors that its lines tabulate; if they tabulate none, reading fails, as a
fault of the configuration. So it does not matter in which order the lines come and what else stands between them:
blank lines, comments and headings. -/
theorem read_iff_tabulates (text : List Char) (source : String) :
    (∀ floors, (∃ table, read text source = .ok table ∧ table.floors.toList = floors ∧ table.source = source) ↔
      Tabulates (rowLines (lines text)) floors) ∧
    ((¬ ∃ floors, Tabulates (rowLines (lines text)) floors) →
      ∃ fault, read text source = .error fault ∧ (TableFileFault.text fault).kind = .configuration) ∧
    ∀ other remarks, (∀ line ∈ remarks, ¬ IsRowLine (strip line)) → (lines other).Perm (remarks ++ lines text) →
      ∀ table, read other source = .ok table ↔ read text source = .ok table := by
  refine ⟨fun floors => ⟨?_, fun tabulates => ?_⟩, fun none => ?_, fun other remarks passed shuffled table => ?_⟩
  · rintro ⟨table, success, rfl, -⟩
    exact (read_eq_ok.1 success).1
  · obtain ⟨table, rfl, named⟩ := exists_of_rising tabulates.first tabulates.rising source
    exact ⟨table, read_eq_ok.2 ⟨tabulates, named⟩, rfl, named⟩
  · cases outcome : read text source with
    | ok table => exact absurd ⟨_, (read_eq_ok.1 outcome).1⟩ none
    | error fault => exact ⟨fault, rfl, kind_of_read_error outcome⟩
  · have same := rowLines_perm passed shuffled
    rw [read_eq_ok, read_eq_ok]
    exact and_congr_left fun _ => ⟨fun tabulates => tabulates.of_perm same.symm, fun tabulates => tabulates.of_perm same⟩

end LevelTable

end Progression
