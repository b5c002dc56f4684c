import Progression.Proofs.Descriptor
import Progression.Settings.Basic

namespace Progression

open Text Settings

namespace Directory

variable {before after : Directory} {file : String}

/-- The place that names lead to, if they lead anywhere. -/
def walk (place : Place) (names : List String) : Place :=
  names.foldl (fun place name => if name = ".." then place.dropLast else place ++ [name]) place

theorem follow_place {directory : Directory} {place reached : Place} {names : List String}
    (found : directory.follow place names = .place reached) : reached = walk place names := by
  induction names generalizing place with
  | nil =>
    cases found
    rfl
  | cons name rest ih =>
    rw [follow] at found
    split at found
    · cases found
    · split at found
      · cases found
      · exact ih found

/-- Whether there is something where a path leads. -/
def Present (directory : Directory) (path : Path) : Prop :=
  holdsNull path.names = false ∧ ∃ place, directory.followPath path = .place place ∧ directory.occupied place = true

/-- Whoever reads a file in both directories reads the same text. -/
def Keeps (file : String) (before after : Directory) : Prop :=
  ∀ text later, before.read? (.ofText file) = some text → after.read? (.ofText file) = some later → later = text

theorem keeps_of_present (name : after.name = before.name)
    (present : ∀ place text, before.files.get? place = some text → after.files.get? place = some text) :
    Keeps file before after := by
  intro text later read reread
  rw [read?] at read reread
  split at read
  · rename_i place found
    split at reread
    · rename_i placeAfter foundAfter
      have start : after.start (.ofText file) = before.start (.ofText file) := by rw [start, start, home, home, name]
      rw [follow_place foundAfter, start, ← follow_place found] at reread
      obtain ⟨raw, there, rfl⟩ := Option.map_eq_some_iff.1 read
      rw [present place raw there] at reread
      exact (Option.some.inj reread).symm
    · cases reread
  · cases read

end Directory

namespace LevelTable

variable {directory after : Directory} {file : String} {levels : LevelTable}

theorem make?_source {floors : Array Int} (success : make? floors file = .ok levels) : levels.source = file := by
  rw [make?] at success
  split at success
  · split at success
    · split at success
      · cases success
        rfl
      · cases success
    · cases success
  · cases success

theorem read_source {text : List Char} (success : LevelTable.read text file = .ok levels) : levels.source = file := by
  obtain ⟨rows, -, success⟩ := bind_eq_ok.1 success
  rw [TableRows.table?] at success
  split at success
  · cases success
  · split at success
    · cases success
    · split at success
      · cases success
      · split at success
        · cases success
        · exact make?_source (mapError_eq_ok.1 success)

theorem readFile_eq_ok : readFile directory file = .ok levels ↔
    ∃ text, directory.read? (.ofText file) = some text ∧ LevelTable.read text.toList file = .ok levels := by
  rw [readFile]
  split
  · rename_i none
    simp [none]
  · rename_i text found
    simp [found, mapError_eq_ok]

theorem readFile_source (success : readFile directory file = .ok levels) : levels.source = file :=
  have ⟨_, _, read⟩ := readFile_eq_ok.1 success
  read_source read

theorem readFile_of_keeps {others : LevelTable} (kept : Directory.Keeps file directory after)
    (read : readFile directory file = .ok levels) (reread : readFile after file = .ok others) : others = levels := by
  obtain ⟨text, found, read⟩ := readFile_eq_ok.1 read
  obtain ⟨later, foundLater, reread⟩ := readFile_eq_ok.1 reread
  rw [kept text later found foundLater, read] at reread
  exact (Except.ok.inj reread).symm

theorem holdsNull_of_writeDefault (writes : writeDefault directory file = (.ok (), after)) :
    holdsNull (Path.ofText file).names = false := by
  rw [writeDefault] at writes
  split at writes
  · cases writes
  · split at writes
    · cases writes
    · split at writes
      · cases writes
      · rename_i named
        simpa using named

theorem load_of_present {createDefault : Bool} (present : directory.Present (.ofText file)) :
    load directory file createDefault = (readFile directory file, directory) := by
  obtain ⟨named, place, reached, occupied⟩ := present
  simp only [load, named, reached, occupied, if_true, Bool.false_eq_true, if_false]

theorem load_of_absent (createDefault : Bool) (absent : ¬ directory.Present (.ofText file)) :
    (∃ fault, load directory file createDefault = (.error fault, directory)) ∨
      load directory file createDefault = loadMissing directory file createDefault := by
  rw [load]
  split
  · exact .inr rfl
  · rename_i named
    split
    · exact .inl ⟨_, rfl⟩
    · exact .inr rfl
    · rename_i place reached
      split
      · rename_i occupied
        exact absurd ⟨by simpa using named, place, reached, occupied⟩ absent
      · exact .inr rfl

/-- A missing table is written and read, or nothing can be read; nothing is written unless that is wanted. -/
theorem loadMissing_cases (directory : Directory) (file : String) (createDefault : Bool) :
    (∃ fault, loadMissing directory file createDefault = (.error fault, directory)) ∨
      createDefault = true ∧
        ((∃ written, writeDefault directory file = (.ok (), written) ∧
            loadMissing directory file createDefault = (readFile written file, written)) ∨
          ∃ fault left, writeDefault directory file = (.error fault, left) ∧
            loadMissing directory file createDefault = (.error fault, left)) := by
  cases createDefault with
  | false => exact .inl ⟨_, rfl⟩
  | true =>
    rw [loadMissing, if_pos rfl]
    rcases writes : writeDefault directory file with ⟨fault | done, left⟩
    · exact .inr ⟨rfl, .inr ⟨fault, left, rfl, rfl⟩⟩
    · exact .inr ⟨rfl, .inl ⟨left, rfl, rfl⟩⟩

theorem load_ok {createDefault : Bool} (success : load directory file createDefault = (.ok levels, after)) :
    readFile after file = .ok levels ∧ (createDefault = false → after = directory) := by
  by_cases present : directory.Present (.ofText file)
  · obtain ⟨read, rfl⟩ := Prod.mk.inj ((load_of_present present).symm.trans success)
    exact ⟨read, fun _ => rfl⟩
  · rcases load_of_absent createDefault present with ⟨fault, failed⟩ | missing
    · cases failed.symm.trans success
    · rcases loadMissing_cases directory file createDefault with
        ⟨fault, failed⟩ | ⟨rfl, ⟨written, -, reads⟩ | ⟨fault, left, -, failed⟩⟩
      · cases (missing.trans failed).symm.trans success
      · obtain ⟨read, rfl⟩ := Prod.mk.inj ((missing.trans reads).symm.trans success)
        exact ⟨read, nofun⟩
      · cases (missing.trans failed).symm.trans success

end LevelTable

namespace Formula

variable {formula : Formula} {before after : Directory} {file : String}

/-- If a formula has a table, it is the one in a file. -/
def ReadFrom (file : String) (directory : Directory) : Formula → Prop
  | table levels => LevelTable.readFile directory file = .ok levels
  | _ => True

theorem readFrom_of_build {settings : FormulaSettings}
    (success : settings.build before = (.ok formula, after)) : formula.ReadFrom settings.table.file after := by
  rw [FormulaSettings.build] at success
  split at success
  · cases success
  · obtain ⟨made, -, rfl⟩ := map_eq_ok.1 (mapError_eq_ok.1 (Prod.mk.inj success).1)
    trivial
  · obtain ⟨made, -, rfl⟩ := map_eq_ok.1 (mapError_eq_ok.1 (Prod.mk.inj success).1)
    trivial
  · obtain ⟨levels, loaded, rfl⟩ := map_eq_ok.1 (mapError_eq_ok.1 (Prod.mk.inj success).1)
    exact (LevelTable.load_ok (Prod.ext loaded (Prod.mk.inj success).2)).1
  · obtain ⟨made, -, rfl⟩ := map_eq_ok.1 (mapError_eq_ok.1 (Prod.mk.inj success).1)
    trivial

theorem foundIn_of_keeps (kept : Directory.Keeps file before after) (read : formula.ReadFrom file before) :
    formula.FoundIn after := by
  cases formula with
  | table levels =>
    intro found loaded
    rw [LevelTable.readFile_source read] at loaded
    obtain ⟨reread, same⟩ := LevelTable.load_ok (Prod.ext loaded rfl)
    rw [same rfl] at reread
    exact LevelTable.readFile_of_keeps kept read reread
  | _ => trivial

/-- Formulas with one descriptor are alike, if nobody edited the file of a table in between. -/
theorem alike_of_keeps {left right : Formula} {other : String} (kept : Directory.Keeps file before after)
    (first : left.ReadFrom file before) (second : right.ReadFrom other after)
    (same : Descriptor.describe left = Descriptor.describe right) : left.Alike right := by
  refine alike_of_describe same fun levels others tabled otherTabled source => ?_
  subst tabled
  subst otherTabled
  rw [LevelTable.readFile_source first, LevelTable.readFile_source second] at source
  subst source
  rw [LevelTable.readFile_of_keeps kept first second]

end Formula

end Progression
