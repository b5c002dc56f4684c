import Progression.Proofs.Rebuild
import Progression.Proofs.Tabulation

/-!
What loading a level table leaves behind. Only a default table is ever written, only if that is wanted, and only where
the path of the table leads to nothing; what is loaded then are the default floors, and loading again changes nothing.
The folders on the way are made first, though. If a path goes by a folder that was missing and up again, it leads
elsewhere once that folder is there, and a file that stands there is overwritten.
-/

namespace Progression

open Text

namespace Directory

variable {directory after : Directory} {path : Path} {place start : Place} {names : List String}

theorem follow_of_folders (folders : after.folders = directory.folders) :
    after.follow place names = directory.follow place names := by
  induction names generalizing place with
  | nil => rfl
  | cons name rest ih =>
    have folder : after.isFolder place = directory.isFolder place := by rw [isFolder, isFolder, folders]
    rw [follow, follow, folder, ih]

section Folders

theorem makeFolder_kept :
    (directory.makeFolder place).1.files = directory.files ∧ (directory.makeFolder place).1.name = directory.name := by
  rw [makeFolder]
  split
  · exact ⟨rfl, rfl⟩
  · split <;> exact ⟨rfl, rfl⟩

theorem makeFolders_kept :
    (directory.makeFolders start names).1.files = directory.files ∧
      (directory.makeFolders start names).1.name = directory.name := by
  induction names with
  | nil => exact makeFolder_kept
  | cons last before ih =>
    rw [makeFolders]
    split
    · exact makeFolder_kept
    · exact ⟨rfl, rfl⟩
    · split <;> rename_i made <;> rw [made] at ih
      · exact ih
      · split
        · exact ⟨makeFolder_kept.1.trans ih.1, makeFolder_kept.2.trans ih.2⟩
        · exact ih

end Folders

theorem write?_eq_some {text : String} : directory.write? path text = some after ↔
    ∃ place, directory.followPath path = .place place ∧ directory.isFolder place = false ∧
      after = { directory with files := directory.files.put place text } := by
  rw [write?]
  split
  · rename_i place reached
    rw [reached]
    cases folder : directory.isFolder place <;> simp [folder, eq_comm (a := after)]
  · rename_i elsewhere
    simpa using fun place reached => absurd reached (elsewhere place)

theorem start_of_name (name : after.name = directory.name) : after.start path = directory.start path := by
  rw [Directory.start, Directory.start, home, home, name]

theorem followPath_of_folders (name : after.name = directory.name) (folders : after.folders = directory.folders) :
    after.followPath path = directory.followPath path := by
  rw [followPath, followPath, start_of_name name, follow_of_folders folders]

/-- Where a path leads by its names, whatever folders there are. -/
def destination (directory : Directory) (path : Path) : Place := walk (directory.start path) path.names

theorem destination_of_name (name : after.name = directory.name) :
    after.destination path = directory.destination path := by
  rw [destination, destination, start_of_name name]

theorem followPath_eq (reached : directory.followPath path = .place place) : place = directory.destination path :=
  follow_place reached

theorem walk_of_notMem (straight : ".." ∉ names) : walk place names = place ++ names := by
  induction names generalizing place with
  | nil => exact (List.append_nil place).symm
  | cons name rest ih =>
    rw [List.mem_cons, not_or] at straight
    rw [walk, List.foldl_cons, ← walk, if_neg (Ne.symm straight.1), ih straight.2, List.append_assoc]
    rfl

section Rooted

/-- Every folder above a place exists. -/
def Stands (directory : Directory) (place : Place) : Prop :=
  ∀ above, above <+: place → above ≠ place → directory.isFolder above = true

/-- Whatever there is stands in a folder, which stands in a folder, and so on up to the root. -/
def Rooted (directory : Directory) : Prop := ∀ place, directory.occupied place = true → directory.Stands place

theorem stands_start : after.Stands (directory.start path) := by
  intro above higher different
  have outermost : above = [] := by
    rw [start, home] at higher different
    split at higher
    · exact List.prefix_nil.1 higher
    · rw [if_neg ‹_›] at different
      rcases List.prefix_cons_iff.1 higher with nothing | ⟨rest, rfl, further⟩
      · exact nothing
      · exact absurd (by rw [List.prefix_nil.1 further]) different
  rw [outermost]
  rfl

theorem stands_append {name : String} (stands : directory.Stands place) (folder : directory.isFolder place = true) :
    directory.Stands (place ++ [name]) := by
  intro above higher different
  rcases List.prefix_concat_iff.1 higher with same | higher
  · exact absurd same different
  · by_cases here : above = place
    · exact here ▸ folder
    · exact stands above higher here

theorem stands_dropLast (stands : directory.Stands place) : directory.Stands place.dropLast := by
  intro above higher different
  refine stands above (higher.trans (List.dropLast_prefix place)) fun same => ?_
  subst same
  exact different (higher.eq_of_length_le (by simp))

theorem stands_of_follow {reached : Place} (stands : directory.Stands place)
    (found : directory.follow place names = .place reached) : directory.Stands reached := by
  induction names generalizing place with
  | nil =>
    cases found
    exact stands
  | cons name rest ih =>
    rw [follow] at found
    split at found
    · cases found
    · rename_i folder
      split at found
      · cases found
      · refine ih ?_ found
        split
        · exact stands_dropLast stands
        · exact stands_append stands (by simpa using folder)

theorem Stands.mono (more : ∀ place, directory.isFolder place = true → after.isFolder place = true)
    (stands : directory.Stands place) : after.Stands place :=
  fun above higher different => more above (stands above higher different)

theorem rooted_makeFolder (rooted : directory.Rooted) (stands : directory.Stands place) :
    (directory.makeFolder place).1.Rooted := by
  rw [makeFolder]
  split
  · exact rooted
  split
  · exact rooted
  have folder_iff (other : Place) :
      ({ directory with folders := directory.folders ++ [place] } : Directory).isFolder other = true ↔
        directory.isFolder other = true ∨ other = place := by
    simp [isFolder, or_assoc]
  intro other there
  refine Stands.mono (fun further folder => (folder_iff further).2 (.inl folder)) ?_
  rw [occupied, Bool.or_eq_true, folder_iff, or_right_comm, ← Bool.or_eq_true] at there
  rcases there with there | rfl
  · exact rooted other there
  · exact stands

theorem rooted_makeFolders (rooted : directory.Rooted) (start : ∀ directory : Directory, directory.Stands place) :
    (directory.makeFolders place names).1.Rooted := by
  induction names with
  | nil => exact rooted_makeFolder rooted (start directory)
  | cons last before ih =>
    rw [makeFolders]
    split
    · exact rooted_makeFolder rooted (stands_of_follow (start directory) ‹_›)
    · exact rooted
    · split <;> rename_i made <;> rw [made] at ih
      · exact ih
      · split
        · exact rooted_makeFolder ih (stands_of_follow (start _) ‹_›)
        · exact ih

theorem rooted_write {text : String} (rooted : directory.Rooted) (writes : directory.write? path text = some after) :
    after.Rooted := by
  obtain ⟨place, reached, -, rfl⟩ := write?_eq_some.1 writes
  intro other there
  have stands : directory.Stands other := by
    by_cases here : other = place
    · rw [here]
      exact stands_of_follow stands_start reached
    · refine rooted other ?_
      rwa [occupied, Entries.contains, Entries.get?_put, if_neg (Ne.symm here)] at there
  exact stands.mono fun _ folder => folder

theorem rooted_makeWay (rooted : directory.Rooted) : (directory.makeWay path).1.Rooted :=
  rooted_makeFolders rooted fun _ => stands_start

theorem rooted_create {text : String} (rooted : directory.Rooted) (creates : directory.create? path text = some after) :
    after.Rooted := by
  rw [create?] at creates
  split at creates
  · rename_i made way
    have made_rooted : (directory.makeWay path).1.Rooted := rooted_makeWay rooted
    rw [way] at made_rooted
    exact rooted_write made_rooted creates
  · cases creates

theorem rooted_ofFiles (name : String) (files : List (String × String)) : (ofFiles name files).Rooted := by
  refine List.foldlRecOn files _ (fun place there above higher different => ?_) fun directory rooted file _ => ?_
  · have alone : place = [name] ∨ place = [] := by
      rcases (Bool.or_eq_true ..).mp there with folder | file
      · simpa [isFolder, empty, or_comm] using folder
      · cases file
    rcases alone with rfl | rfl
    · rcases List.prefix_cons_iff.1 higher with rfl | ⟨rest, rfl, further⟩
      · rfl
      · exact absurd (by rw [List.prefix_nil.1 further]) different
    · exact absurd (List.prefix_nil.1 higher) different
  · obtain ⟨path, text⟩ := file
    cases creates : directory.create? (.ofText path) text with
    | none => simpa [creates] using rooted
    | some written => simpa [creates] using rooted_create rooted creates

end Rooted

/-- The way down to a file goes by folders that exist. -/
theorem follow_ne_nowhere (rooted : directory.Rooted) {text : String}
    (present : directory.files.get? (place ++ names) = some text) (straight : ".." ∉ names) :
    directory.follow place names ≠ .nowhere := by
  induction names generalizing place with
  | nil => simp [follow]
  | cons name rest ih =>
    rw [List.mem_cons, not_or] at straight
    have folder : directory.isFolder place = true :=
      rooted _ ((Bool.or_eq_true ..).mpr (.inr (by rw [Entries.contains, present]; rfl))) place
        (List.prefix_append ..) (by simp)
    rw [follow, folder, if_neg (by simp), if_neg (Ne.symm straight.1)]
    split
    · simp
    · exact ih (by rwa [List.append_assoc]) straight.2

end Directory

namespace LevelTable

variable {directory after written left : Directory} {file : String} {levels : LevelTable} {createDefault : Bool}

/-- The floors of the default table. -/
def defaultFloors : List Int := [0, 100, 250, 450, 700, 1000]

/-- The text of the default table, as it is read back from a file, writes its floors, whatever its source is called. -/
theorem read_default (source : String) :
    ∃ table, read (unifyNewlines defaultTableText.toList) source = .ok table ∧ table.floors.toList = defaultFloors ∧
      table.source = source := by
  have letters : defaultTableText.toList = _ := String.toList_ofList
  have reads : ((read (unifyNewlines defaultTableText.toList) "").toOption.map LevelTable.floors)
      = some defaultFloors.toArray := by
    rw [letters]
    decide +kernel
  obtain ⟨table, success, floors⟩ := Option.map_eq_some_iff.1 reads
  have tabulates := (read_eq_ok.1 (toOption_eq_some.1 success)).1
  exact ((read_iff_tabulates _ source).1 defaultFloors).2 (by simpa [floors] using tabulates)

/-- Writing the default table leaves all files alone, or writes the one that the path leads to in the end. -/
theorem writeDefault_cases (directory : Directory) (file : String) :
    (∃ fault left, writeDefault directory file = (.error fault, left) ∧ left.files = directory.files) ∨
      ∃ written, writeDefault directory file = (.ok (), written) ∧
        written.followPath (.ofText file) = .place (directory.destination (.ofText file)) ∧
        written.files = directory.files.put (directory.destination (.ofText file)) defaultTableText := by
  obtain ⟨files, name⟩ : (directory.makeWay (.ofText file)).1.files = directory.files ∧
      (directory.makeWay (.ofText file)).1.name = directory.name := Directory.makeFolders_kept
  rw [writeDefault]
  split
  · exact .inl ⟨_, _, rfl, rfl⟩
  · split <;> rename_i made <;> rw [made] at files name
    · exact .inl ⟨_, _, rfl, files⟩
    · split
      · exact .inl ⟨_, _, rfl, files⟩
      · split
        · exact .inl ⟨_, _, rfl, files⟩
        · rename_i written writes
          obtain ⟨place, reached, -, rfl⟩ := Directory.write?_eq_some.1 writes
          have stands : place = directory.destination (.ofText file) :=
            (Directory.followPath_eq reached).trans (Directory.destination_of_name name)
          subst stands
          -- The new file is no folder, so that the path is followed as before.
          refine .inr ⟨_, rfl, (Directory.followPath_of_folders (by rfl) (by rfl)).trans reached, ?_⟩
          exact congrArg (Entries.put · (directory.destination (.ofText file)) defaultTableText) files

theorem readFile_of_written {place : Place} (reached : written.followPath (.ofText file) = .place place)
    (files : written.files.get? place = some defaultTableText) :
    ∃ levels, readFile written file = .ok levels ∧ levels.floors.toList = defaultFloors ∧ levels.source = file := by
  obtain ⟨levels, read, whole⟩ := read_default file
  refine ⟨levels, readFile_eq_ok.2 ⟨String.ofList (unifyNewlines defaultTableText.toList), ?_, ?_⟩, whole⟩
  · simp only [Directory.read?, reached, files, Option.map_some]
  · rwa [String.toList_ofList]

theorem load_untouched (idle : createDefault = false ∨ directory.Present (.ofText file)) :
    (load directory file createDefault).2 = directory := by
  by_cases present : directory.Present (.ofText file)
  · rw [load_of_present present]
  · obtain rfl := idle.resolve_right present
    rcases load_of_absent false present with ⟨fault, failed⟩ | missing
    · rw [failed]
    · rw [missing]
      rfl

/-- Where there is nothing, loading fails and leaves all files alone, or it writes the default table and loads its
floors. -/
theorem load_absent_cases (createDefault : Bool) (absent : ¬ directory.Present (.ofText file)) :
    (∃ fault left, load directory file createDefault = (.error fault, left) ∧ left.files = directory.files) ∨
      createDefault = true ∧
        (load directory file createDefault).2.followPath (.ofText file)
          = .place (directory.destination (.ofText file)) ∧
        (load directory file createDefault).2.files
          = directory.files.put (directory.destination (.ofText file)) defaultTableText ∧
        ∃ levels, (load directory file createDefault).1 = .ok levels ∧ levels.floors.toList = defaultFloors ∧
          levels.source = file := by
  rcases load_of_absent createDefault absent with ⟨fault, failed⟩ | missing
  · exact .inl ⟨fault, directory, failed, rfl⟩
  rw [missing]
  rcases loadMissing_cases directory file createDefault with
    ⟨fault, failed⟩ | ⟨wanted, ⟨written, writes, reads⟩ | ⟨fault, left, writes, failed⟩⟩
  · exact .inl ⟨fault, directory, failed, rfl⟩
  · rcases writeDefault_cases directory file with ⟨fault, left, fails, -⟩ | ⟨other, also, reached, files⟩
    · cases writes.symm.trans fails
    · cases writes.symm.trans also
      rw [reads]
      exact .inr ⟨wanted, reached, files, readFile_of_written reached (by rw [files, Entries.get?_put, if_pos rfl])⟩
  · rcases writeDefault_cases directory file with ⟨other, stuck, fails, files⟩ | ⟨written, also, -⟩
    · cases writes.symm.trans fails
      exact .inl ⟨fault, left, failed, files⟩
    · cases writes.symm.trans also

/-- A path that leads nowhere, and by which a table is loaded all the same, is one that the default table was written
at. -/
theorem load_of_nowhere (nowhere : directory.followPath (.ofText file) = .nowhere)
    (loaded : (load directory file createDefault).1 = .ok levels) :
    (load directory file createDefault).2.files
      = directory.files.put (directory.destination (.ofText file)) defaultTableText := by
  have absent : ¬ directory.Present (.ofText file) := fun ⟨_, _, reached, _⟩ => by cases nowhere.symm.trans reached
  rcases load_absent_cases createDefault absent with ⟨fault, left, failed, -⟩ | ⟨-, -, files, -⟩
  · rw [failed] at loaded
    cases loaded
  · exact files

theorem rooted_writeDefault (rooted : directory.Rooted) : (writeDefault directory file).2.Rooted := by
  have way : (directory.makeWay (.ofText file)).1.Rooted := Directory.rooted_makeWay rooted
  rw [writeDefault]
  split
  · exact rooted
  · split <;> rename_i made <;> rw [made] at way
    · exact way
    · split
      · exact way
      · split
        · exact way
        · exact Directory.rooted_write way ‹_›

theorem rooted_load (rooted : directory.Rooted) : (load directory file createDefault).2.Rooted := by
  by_cases present : directory.Present (.ofText file)
  · rwa [load_of_present present]
  rcases load_of_absent createDefault present with ⟨fault, failed⟩ | missing
  · rwa [failed]
  have written : (writeDefault directory file).2.Rooted := rooted_writeDefault rooted
  rw [missing]
  rcases loadMissing_cases directory file createDefault with
    ⟨fault, failed⟩ | ⟨-, ⟨left, writes, reads⟩ | ⟨fault, left, writes, failed⟩⟩
  · rwa [failed]
  · rw [writes] at written
    rwa [reads]
  · rw [writes] at written
    rwa [failed]

theorem nowhere_of_written {text : String}
    (stood : directory.files.get? (directory.destination (.ofText file)) = some text)
    (absent : ¬ directory.Present (.ofText file)) (loaded : (load directory file createDefault).1 = .ok levels) :
    directory.followPath (.ofText file) = .nowhere := by
  have named : holdsNull (Path.ofText file).names = false := holdsNull_of_load (Prod.ext loaded rfl)
  cases follows : directory.followPath (.ofText file) with
  | nowhere => rfl
  | refused => simp [load, named, follows] at loaded
  | place place =>
    have occupied : directory.occupied place = true := by
      rw [Directory.followPath_eq follows, Directory.occupied, Entries.contains, stood]
      exact Bool.or_true _
    exact absurd ⟨named, place, follows, occupied⟩ absent

/-- Loading leaves all files alone, or it writes the default table where there was nothing, and loads its floors. -/
theorem load_files_cases (directory : Directory) (file : String) (createDefault : Bool) :
    (load directory file createDefault).2.files = directory.files ∨
      createDefault = true ∧ ¬ directory.Present (.ofText file) ∧
        (load directory file createDefault).2.followPath (.ofText file)
          = .place (directory.destination (.ofText file)) ∧
        (load directory file createDefault).2.files
          = directory.files.put (directory.destination (.ofText file)) defaultTableText ∧
        ∃ levels, (load directory file createDefault).1 = .ok levels ∧ levels.floors.toList = defaultFloors ∧
          levels.source = file := by
  by_cases present : directory.Present (.ofText file)
  · rw [load_of_present present]
    exact .inl rfl
  · rcases load_absent_cases createDefault present with ⟨fault, left, failed, kept⟩ | ⟨wanted, written⟩
    · rw [failed]
      exact .inl kept
    · exact .inr ⟨wanted, present, written⟩

/-- Which file loses its text: the one that the path leads to once the folders are made that it goes by. -/
theorem load_overwrites_iff {place : Place} {text : String} (stood : directory.files.get? place = some text) :
    (load directory file createDefault).2.files.get? place ≠ some text ↔
      place = directory.destination (.ofText file) ∧ text ≠ defaultTableText ∧ createDefault = true ∧
        directory.followPath (.ofText file) = .nowhere ∧
        ∃ levels, (load directory file createDefault).1 = .ok levels := by
  constructor
  · intro changed
    rcases load_files_cases directory file createDefault with
      same | ⟨wanted, absent, -, written, levels, success, -⟩
    · exact absurd (same ▸ stood) changed
    · rw [written, Entries.get?_put] at changed
      split at changed
      · rename_i here
        subst here
        exact ⟨rfl, fun same => changed (congrArg some same.symm), wanted, nowhere_of_written stood absent success,
          levels, success⟩
      · exact absurd stood changed
  · rintro ⟨rfl, different, -, nowhere, levels, success⟩ kept
    rw [load_of_nowhere nowhere success, Entries.get?_put, if_pos rfl] at kept
    exact different (Option.some.inj kept).symm

/-- Loading a table makes nothing, unless a default table is wanted and there is nothing where the path leads. At most
it writes the default table, at the place that the path then leads to, and loads the default floors; all other files
keep their texts. The file that stands at this place already, because the path goes by a missing folder and up again, is
overwritten, and no other one ever is: not if the path never goes up. What was loaded is loaded again, from the same
files. -/
theorem load_footprint (directory : Directory) (file : String) (createDefault : Bool) :
    let path := Path.ofText file
    let loaded := load directory file createDefault
    (createDefault = false ∨ directory.Present path → loaded.2 = directory) ∧
    (loaded.2.files = directory.files ∨
      createDefault = true ∧ ¬ directory.Present path ∧ loaded.2.followPath path = .place (directory.destination path) ∧
        loaded.2.files = directory.files.put (directory.destination path) defaultTableText ∧
        ∃ levels, loaded.1 = .ok levels ∧ levels.floors.toList = defaultFloors ∧ levels.source = file) ∧
    (∀ place text, directory.files.get? place = some text →
      (loaded.2.files.get? place ≠ some text ↔
        place = directory.destination path ∧ text ≠ defaultTableText ∧ createDefault = true ∧
          directory.followPath path = .nowhere ∧ ∃ levels, loaded.1 = .ok levels)) ∧
    (directory.Rooted → loaded.2.Rooted ∧ (".." ∉ path.names → ∀ place text,
      directory.files.get? place = some text → loaded.2.files.get? place = some text)) ∧
    ∀ levels, loaded.1 = .ok levels → ∀ again, load loaded.2 file again = (.ok levels, loaded.2) := by
  intro path loaded
  refine ⟨load_untouched, load_files_cases directory file createDefault, fun place text => load_overwrites_iff,
    fun rooted => ⟨rooted_load rooted, fun straight place text stood => ?_⟩, fun levels success again => ?_⟩
  · by_contra changed
    obtain ⟨rfl, -, -, nowhere, -⟩ := (load_overwrites_iff stood).1 changed
    have down : directory.destination path = directory.start path ++ path.names := Directory.walk_of_notMem straight
    exact Directory.follow_ne_nowhere rooted (down ▸ stood) straight nowhere
  · exact load_of_readFile again (holdsNull_of_load (Prod.ext success rfl)) (load_ok (Prod.ext success rfl)).1

/-- A table in a folder that is missing is written next to the file that is there already, and is the same when it is
loaded again. -/
theorem load_footprint_nested :
    let directory := Directory.ofFiles "data" [("notes.txt", "kept")]
    let loaded := load directory "tables/levels.csv" true
    loaded.2.files.get? ["data", "notes.txt"] = some "kept" ∧
      loaded.2.files.get? ["data", "tables", "levels.csv"] = some defaultTableText ∧
      ∃ levels, loaded.1 = .ok levels ∧ levels.floors.toList = defaultFloors ∧
        load loaded.2 "tables/levels.csv" true = (.ok levels, loaded.2) := by
  intro directory loaded
  obtain ⟨-, files, -, rooted, again⟩ := load_footprint directory "tables/levels.csv" true
  have changed : ¬ loaded.2.files = directory.files := by decide
  have straight : ".." ∉ (Path.ofText "tables/levels.csv").names := by decide
  have kept : directory.files.get? ["data", "notes.txt"] = some "kept" := rfl
  have place : directory.destination (.ofText "tables/levels.csv") = ["data", "tables", "levels.csv"] := rfl
  obtain ⟨-, -, -, written, levels, success, floors, -⟩ := files.resolve_left changed
  refine ⟨(rooted (Directory.rooted_ofFiles "data" _)).2 straight _ _ kept, ?_, levels, success, floors,
    again levels success true⟩
  exact (congrArg (Entries.get? · _) written).trans (Entries.get?_put.trans (if_pos place))

/-- The folder is missing that this path goes by, so that it leads to nothing until the folder is made. Then it leads to
a file that is there, which is overwritten. -/
theorem load_overwrites_after_detour :
    let directory := Directory.ofFiles "data" [("levels.csv", "1,0\n2,5\n")]
    ¬ directory.Present (.ofText "new/../levels.csv") ∧
      directory.files.get? ["data", "levels.csv"] = some "1,0\n2,5\n" ∧
      (load directory "new/../levels.csv" true).2.files.get? ["data", "levels.csv"] = some defaultTableText ∧
      defaultTableText ≠ "1,0\n2,5\n" := by
  refine ⟨?_, rfl, rfl, by decide⟩
  rintro ⟨-, place, reached, -⟩
  have nowhere : (Directory.ofFiles "data" [("levels.csv", "1,0\n2,5\n")]).followPath (.ofText "new/../levels.csv")
      = .nowhere := rfl
  cases nowhere.symm.trans reached

end LevelTable

end Progression
