import Progression.Descriptor.Decode
import Progression.Proofs.Base64
import Progression.Proofs.Entries
import Progression.Proofs.Numeral
import Progression.Proofs.Outcome

namespace Progression

open Number Text

namespace Text

variable {separator : Char} {text piece rest : List Char}

theorem splitAt_of_notMem (clean : separator ∉ piece) : splitAt separator piece = [piece] := by
  induction piece with
  | nil => rfl
  | cons c piece ih =>
    rw [List.mem_cons, not_or] at clean
    rw [splitAt, if_neg (Ne.symm clean.1), ih clean.2]

theorem splitAt_append (clean : separator ∉ piece) :
    splitAt separator (piece ++ separator :: rest) = piece :: splitAt separator rest := by
  induction piece with
  | nil => rw [List.nil_append, splitAt, if_pos rfl]
  | cons c piece ih =>
    rw [List.mem_cons, not_or] at clean
    rw [List.cons_append, splitAt, if_neg (Ne.symm clean.1), ih clean.2]

theorem splitAt_ne_nil {text : List Char} : splitAt separator text ≠ [] := by
  cases text with
  | nil => simp [splitAt]
  | cons c rest => rw [splitAt]; split <;> [skip; split] <;> exact List.cons_ne_nil _ _

theorem splitAt_intercalate {pieces : List (List Char)} (clean : ∀ piece ∈ pieces, separator ∉ piece)
    (nonempty : pieces ≠ []) : splitAt separator ([separator].intercalate pieces) = pieces := by
  induction pieces with
  | nil => exact absurd rfl nonempty
  | cons piece pieces ih =>
    obtain ⟨first, others⟩ := List.forall_mem_cons.1 clean
    cases pieces with
    | nil => rw [List.intercalate_singleton, splitAt_of_notMem first]
    | cons next pieces =>
      rw [List.intercalate_cons_cons, List.append_assoc, List.singleton_append, splitAt_append first,
        ih others (List.cons_ne_nil _ _)]

theorem intercalate_splitAt : [separator].intercalate (splitAt separator text) = text := by
  induction text with
  | nil => rfl
  | cons c rest ih =>
    have nonempty : splitAt separator rest ≠ [] := splitAt_ne_nil
    obtain ⟨piece, pieces, cut⟩ := List.exists_cons_of_ne_nil nonempty
    rw [cut] at ih
    rw [splitAt, cut]
    split
    · rename_i same
      rw [List.intercalate_cons_cons, ih, same]
      rfl
    · cases pieces with
      | nil =>
        rw [List.intercalate_singleton] at ih ⊢
        rw [ih]
      | cons next pieces =>
        rw [List.intercalate_cons_cons] at ih ⊢
        rw [← ih]
        simp

theorem notMem_of_mem_splitAt : ∀ piece ∈ splitAt separator text, separator ∉ piece := by
  induction text with
  | nil => simp [splitAt]
  | cons c rest ih =>
    have nonempty : splitAt separator rest ≠ [] := splitAt_ne_nil
    obtain ⟨piece, pieces, cut⟩ := List.exists_cons_of_ne_nil nonempty
    rw [cut] at ih
    rw [splitAt, cut]
    obtain ⟨first, others⟩ := List.forall_mem_cons.1 ih
    split
    · exact List.forall_mem_cons.2 ⟨List.not_mem_nil, ih⟩
    · rename_i different
      refine List.forall_mem_cons.2 ⟨?_, others⟩
      rw [List.mem_cons, not_or]
      exact ⟨Ne.symm different, first⟩

theorem cutAt?_append (clean : separator ∉ piece) :
    cutAt? separator (piece ++ separator :: rest) = some (piece, rest) := by
  have kept : ∀ c ∈ piece, decide (c ≠ separator) = true := by
    rintro c member
    exact decide_eq_true fun same => clean (same ▸ member)
  rw [cutAt?, List.dropWhile_append_of_pos kept, List.takeWhile_append_of_pos kept]
  simp

theorem cutAt?_eq_some_iff :
    cutAt? separator text = some (piece, rest) ↔ text = piece ++ separator :: rest ∧ separator ∉ piece := by
  refine ⟨fun cut => ?_, fun ⟨same, clean⟩ => same ▸ cutAt?_append clean⟩
  by_cases present : separator ∈ text
  · obtain ⟨before, after, same, clean⟩ := List.eq_append_cons_of_mem present
    rw [same, cutAt?_append clean] at cut
    cases cut
    exact ⟨same, clean⟩
  · have whole : text.dropWhile (· ≠ separator) = [] := by
      rw [List.dropWhile_eq_nil_iff]
      intro c member
      rw [decide_eq_true_eq]
      rintro rfl
      exact present member
    rw [cutAt?, whole] at cut
    cases cut

end Text

namespace Descriptor

/-- A field as it is written. -/
def fieldText (field : String × String) : String := field.1 ++ "=" ++ field.2

theorem toList_fieldText {field : String × String} :
    (fieldText field).toList = field.1.toList ++ '=' :: field.2.toList := by
  simp [fieldText]

/-- A key that can be read back. -/
def IsKey (key : String) : Prop := key ≠ "" ∧ '=' ∉ key.toList

theorem pair?_fieldText {field : String × String} (isKey : IsKey field.1) :
    pair? (fieldText field).toList = some field := by
  have mark : "=".toList = ['='] := rfl
  rw [fieldText, String.toList_append, String.toList_append, mark, List.append_assoc, List.singleton_append, pair?,
    cutAt?_append isKey.2]
  simp [guard, isKey.1]

theorem pair?_eq_some_iff {part : List Char} {field : String × String} :
    pair? part = some field ↔ part = (fieldText field).toList ∧ IsKey field.1 := by
  constructor
  · intro found
    rw [pair?] at found
    obtain ⟨⟨key, value⟩, cut, found⟩ := Option.bind_eq_some_iff.1 found
    obtain ⟨same, clean⟩ := cutAt?_eq_some_iff.1 cut
    obtain ⟨_, kept, found⟩ := Option.bind_eq_some_iff.1 found
    cases found
    rw [toList_fieldText, String.toList_ofList, String.toList_ofList]
    refine ⟨same, ?_, by rwa [String.toList_ofList]⟩
    intro empty
    have none : key = [] := by simpa using congrArg String.toList empty
    rw [none] at kept
    cases kept
  · rintro ⟨rfl, isKey⟩
    exact pair?_fieldText isKey

theorem map_pair?_eq_iff {parts : List (List Char)} {written : List (String × String)} :
    parts.map pair? = written.map some ↔
      parts = written.map (fun field => (fieldText field).toList) ∧ ∀ field ∈ written, IsKey field.1 := by
  constructor
  · intro same
    induction parts generalizing written with
    | nil =>
      cases List.map_eq_nil_iff.1 same.symm
      exact ⟨rfl, fun _ member => nomatch member⟩
    | cons part parts ih =>
      obtain ⟨field, rest, rfl, first, others⟩ := List.map_eq_cons_iff.1 same.symm
      obtain ⟨text, isKey⟩ := pair?_eq_some_iff.1 first.symm
      obtain ⟨texts, keys⟩ := ih others.symm
      exact ⟨by rw [text, texts, List.map_cons], List.forall_mem_cons.2 ⟨isKey, keys⟩⟩
  · rintro ⟨rfl, keys⟩
    rw [List.map_map]
    exact List.map_congr_left fun field member => pair?_fieldText (keys field member)

/-- A text is fields with marks between them: each has a key, and none holds a mark. -/
structure Writes (mark : Char) (fields : List (String × String)) (text : List Char) : Prop where
  text : text = [mark].intercalate (fields.map fun field => (fieldText field).toList)
  keys : ∀ field ∈ fields, IsKey field.1
  apart : ∀ field ∈ fields, mark ∉ (fieldText field).toList

section Writes

variable {mark : Char} {fields : List (String × String)} {text : List Char}

theorem Writes.nonempty (writes : Writes mark fields text) (some : fields ≠ []) : text ≠ [] := by
  have sign : '=' ∈ text := by
    obtain ⟨field, rest, rfl⟩ := List.exists_cons_of_ne_nil some
    rw [writes.text]
    cases rest <;> simp [toList_fieldText]
  exact List.ne_nil_of_mem sign

theorem writes_iff (some : fields ≠ []) :
    Writes mark fields text ↔ (splitAt mark text).map pair? = fields.map Option.some := by
  rw [map_pair?_eq_iff]
  constructor
  · intro writes
    rw [writes.text, splitAt_intercalate _ (by simpa using some)]
    · exact ⟨rfl, writes.keys⟩
    · intro piece member
      obtain ⟨field, inside, rfl⟩ := List.mem_map.1 member
      exact writes.apart field inside
  · rintro ⟨parts, keys⟩
    refine ⟨by rw [← parts, intercalate_splitAt], keys, fun field member => ?_⟩
    exact notMem_of_mem_splitAt _ (parts ▸ List.mem_map.2 ⟨field, member, rfl⟩)

end Writes

theorem addParts_cons_eq_ok {params : String} {fields all : Fields} {part : List Char} {parts : List (List Char)} :
    addParts params fields (part :: parts) = .ok all ↔ ∃ key value, pair? part = some (key, value) ∧
      fields.contains key = false ∧ addParts params (fields.put key value) parts = .ok all := by
  rw [addParts]
  cases found : pair? part with
  | none => simp
  | some field =>
    obtain ⟨key, value⟩ := field
    dsimp only
    split <;> simp_all

/-- What parts add to the fields before them: each part is a field, and no key is given twice. -/
theorem addParts_eq_ok {params : String} {fields all : Fields} {parts : List (List Char)} :
    addParts params fields parts = .ok all ↔
      ∃ written, parts.map pair? = written.map some ∧ all.pairs = fields.pairs ++ written := by
  induction parts generalizing fields with
  | nil =>
    constructor
    · intro success
      exact ⟨[], rfl, by rw [← Except.ok.inj success, List.append_nil]⟩
    · rintro ⟨written, same, pairs⟩
      rw [List.map_eq_nil_iff.1 same.symm, List.append_nil] at pairs
      exact congrArg Except.ok (Entries.ext_pairs pairs).symm
  | cons part parts ih =>
    rw [addParts_cons_eq_ok]
    constructor
    · rintro ⟨key, value, found, absent, success⟩
      obtain ⟨written, same, pairs⟩ := ih.1 success
      rw [Entries.pairs_put_of_absent absent, List.append_assoc] at pairs
      exact ⟨(key, value) :: written, by rw [List.map_cons, found, same, List.map_cons], pairs⟩
    · rintro ⟨written, same, pairs⟩
      obtain ⟨⟨key, value⟩, rest, rfl, found, same⟩ := List.map_eq_cons_iff.1 same.symm
      -- A key that is there already is not given again by distinct keys.
      have absent : fields.contains key = false := by
        rw [← Bool.not_eq_true]
        intro present
        have distinct := all.distinct
        rw [pairs, List.map_append, List.nodup_append] at distinct
        exact distinct.2.2 key (Entries.contains_eq_true_iff.1 present) key (List.mem_cons_self ..) rfl
      refine ⟨key, value, found.symm, absent, ih.2 ⟨rest, same.symm, ?_⟩⟩
      rw [Entries.pairs_put_of_absent absent, pairs, List.append_assoc, List.singleton_append]

section Fields

variable {kind : FormulaKind} {fields : List (String × String)}

theorem toList_params :
    (ofFields kind fields).params.toList = [';'].intercalate (fields.map fun field => (fieldText field).toList) := by
  have mark : ";".toList = [';'] := rfl
  rw [ofFields, String.toList_intercalate, List.map_map, mark]
  rfl

/-- Parameters are read just if they are fields with separators between them, and no key is given twice. -/
theorem readFields_eq_ok {params : String} {all : Fields} :
    readFields params = .ok all ↔ Writes ';' all.pairs params.toList := by
  rw [readFields]
  by_cases empty : params.isEmpty = true
  · rw [if_pos empty, String.isEmpty_iff.1 empty]
    constructor
    · intro success
      cases success
      exact ⟨rfl, fun _ member => (nomatch member), fun _ member => (nomatch member)⟩
    · intro writes
      have none : all.pairs = [] := by
        by_contra some
        exact writes.nonempty some rfl
      exact congrArg Except.ok (Entries.ext_pairs none.symm)
  · rw [if_neg empty, addParts_eq_ok]
    constructor
    · rintro ⟨written, same, pairs⟩
      replace pairs : all.pairs = written := pairs
      rw [pairs]
      refine (writes_iff ?_).2 same
      rintro rfl
      exact splitAt_ne_nil (List.map_eq_nil_iff.1 same)
    · intro writes
      have some : all.pairs ≠ [] := by
        intro none
        rw [none] at writes
        exact empty (String.isEmpty_iff.2 (String.toList_inj.1 writes.text))
      exact ⟨all.pairs, (writes_iff some).1 writes, rfl⟩

/-- Fields are read back if neither keys nor values hold a separator. -/
theorem readFields_params {all : Fields} (written : all.pairs = fields)
    (clean : ∀ field ∈ fields, IsKey field.1 ∧ ';' ∉ (fieldText field).toList) :
    readFields (ofFields kind fields).params = .ok all := by
  rw [readFields_eq_ok, written]
  exact ⟨toList_params, fun field member => (clean field member).1, fun field member => (clean field member).2⟩

end Fields

section Constants

theorem notMem_of_isIdentifier {name : List Char} (identifier : isIdentifier name = true) {c : Char}
    (first : nameStartSet.contains c.toNat = false) (rest : nameRestSet.contains c.toNat = false) : c ∉ name := by
  cases name with
  | nil => exact List.not_mem_nil
  | cons head tail =>
    rw [isIdentifier, Bool.and_eq_true, List.all_eq_true] at identifier
    intro member
    rcases List.mem_cons.1 member with rfl | inside
    · exact Bool.false_ne_true (first.symm.trans identifier.1)
    · exact Bool.false_ne_true (rest.symm.trans (identifier.2 c inside))

theorem isKey_of_isIdentifier {name : String} (identifier : isIdentifier name.toList = true) : IsKey name := by
  refine ⟨?_, notMem_of_isIdentifier identifier rfl rfl⟩
  rintro rfl
  cases identifier

/-- The number that a text writes, which is finite. -/
def IsNumber (text : String) (x : Float) : Prop := readFloat? text.toList = some x ∧ x.isFinite = true

theorem readNumber_eq_ok {slot : NumberSlot} {given : String} {x : Float} :
    readNumber slot given = .ok x ↔ IsNumber given x := by
  rw [readNumber, IsNumber]
  cases readFloat? given.toList with
  | none => simp
  | some value =>
    dsimp only
    split
    · rename_i finite
      constructor
      · intro same
        cases same
        exact ⟨rfl, finite⟩
      · rintro ⟨same, -⟩
        cases same
        rfl
    · rename_i infinite
      constructor
      · intro same
        cases same
      · rintro ⟨same, finite⟩
        cases same
        exact absurd finite infinite

theorem isNumber_shortest {x : Float} (finite : x.isFinite = true) : IsNumber (shortest x) x :=
  ⟨readFloat?_shortest finite, finite⟩

theorem readNumber_shortest {slot : NumberSlot} {x : Float} (finite : x.isFinite = true) :
    readNumber slot (shortest x) = .ok x :=
  readNumber_eq_ok.2 (isNumber_shortest finite)

/-- The constant that an entry gives: its name, and the number that it writes. -/
def Gives (entry : String × String) (constant : String × Float) : Prop :=
  entry.1 = constant.1 ∧ IsNumber entry.2 constant.2

theorem addConstants_cons_eq_ok {constants all : Entries String Float} {part : List Char} {parts : List (List Char)} :
    addConstants constants (part :: parts) = .ok all ↔ ∃ entry x, pair? part = some entry ∧ IsNumber entry.2 x ∧
      addConstants (constants.put entry.1 x) parts = .ok all := by
  rw [addConstants]
  cases pair? part with
  | none => simp
  | some entry =>
    dsimp only
    rw [bind_eq_ok]
    constructor
    · rintro ⟨x, read, success⟩
      exact ⟨entry, x, rfl, readNumber_eq_ok.1 read, success⟩
    · rintro ⟨_, x, same, number, success⟩
      cases same
      exact ⟨x, readNumber_eq_ok.2 number, success⟩

theorem addConstants_eq_ok {constants all : Entries String Float} {parts : List (List Char)} :
    addConstants constants parts = .ok all ↔ ∃ written listed, parts.map pair? = written.map some ∧
      List.Forall₂ Gives written listed ∧ all = constants.putAll listed := by
  induction parts generalizing constants with
  | nil =>
    constructor
    · intro success
      exact ⟨[], [], rfl, .nil, (Except.ok.inj success).symm⟩
    · rintro ⟨written, listed, same, numbers, rfl⟩
      cases List.map_eq_nil_iff.1 same.symm
      cases numbers
      rfl
  | cons part parts ih =>
    rw [addConstants_cons_eq_ok]
    constructor
    · rintro ⟨entry, x, found, number, success⟩
      obtain ⟨written, listed, same, numbers, rfl⟩ := ih.1 success
      exact ⟨entry :: written, (entry.1, x) :: listed, by rw [List.map_cons, found, same, List.map_cons],
        .cons ⟨rfl, number⟩ numbers, rfl⟩
    · rintro ⟨written, listed, same, numbers, rfl⟩
      obtain ⟨entry, rest, rfl, found, same⟩ := List.map_eq_cons_iff.1 same.symm
      cases numbers with
      | @cons _ constant _ others first numbers =>
        obtain ⟨name, x⟩ := constant
        obtain ⟨rfl, number⟩ := first
        exact ⟨entry, x, found.symm, number, ih.2 ⟨rest, others, same.symm, numbers, rfl⟩⟩

/-- The constants that a field lists, in their order: none if it is empty, or else those of the entries that it holds in
base 64. -/
inductive Lists : String → List (String × Float) → Prop where
  | none : Lists "" []
  | some {given text : String} {written : List (String × String)} {listed : List (String × Float)}
    (decoded : Base64.toText? given = some text) (writes : Writes ',' written text.toList) (nonempty : written ≠ [])
    (numbers : List.Forall₂ Gives written listed) : Lists given listed

/-- Constants are read just if they are listed; of equal names the last one counts. -/
theorem readConstants_eq_ok {given : String} {constants : Entries String Float} :
    readConstants given = .ok constants ↔ ∃ listed, Lists given listed ∧ constants = .ofList listed := by
  rw [readConstants]
  by_cases empty : given.isEmpty = true
  · rw [if_pos empty]
    cases String.isEmpty_iff.1 empty
    constructor
    · intro success
      exact ⟨[], .none, (Except.ok.inj success).symm⟩
    · rintro ⟨listed, lists, rfl⟩
      cases lists with
      | none => rfl
      | some decoded writes nonempty numbers =>
        cases Option.some.inj decoded
        exact absurd rfl (writes.nonempty nonempty)
  · rw [if_neg empty, bind_eq_ok]
    constructor
    · rintro ⟨text, decoded, success⟩
      obtain ⟨written, listed, same, numbers, rfl⟩ := addConstants_eq_ok.1 success
      have nonempty : written ≠ [] := by
        rintro rfl
        exact splitAt_ne_nil (List.map_eq_nil_iff.1 same)
      exact ⟨listed, .some (elim_eq_ok.1 decoded) ((writes_iff nonempty).2 same) nonempty numbers, rfl⟩
    · rintro ⟨listed, lists, rfl⟩
      cases lists with
      | none => exact absurd rfl empty
      | some decoded writes nonempty numbers =>
        exact ⟨_, elim_eq_ok.2 decoded,
          addConstants_eq_ok.2 ⟨_, _, (writes_iff nonempty).1 writes, numbers, rfl⟩⟩

/-- A constant that can be read back: its name is one, and its number is finite. -/
def IsConstant (constant : String × Float) : Prop :=
  isIdentifier constant.1.toList = true ∧ constant.2.isFinite = true

/-- A constant as it is written. -/
def constantText (constant : String × Float) : String := fieldText (constant.1, shortest constant.2)

theorem notMem_constantText {constant : String × Float} (isConstant : IsConstant constant) :
    ',' ∉ (constantText constant).toList := by
  rw [constantText, toList_fieldText]
  intro member
  rcases List.mem_append.1 member with inside | inside
  · exact notMem_of_isIdentifier isConstant.1 rfl rfl inside
  · rcases List.mem_cons.1 inside with same | inside
    · cases same
    · exact absurd (isNumeral_shortest isConstant.2 _ inside) (by decide)

theorem toList_constantsText {written : List (String × Float)} :
    (constantsText written).toList
      = [','].intercalate (written.map fun constant => (constantText constant).toList) := by
  have mark : ",".toList = [','] := rfl
  rw [constantsText, String.toList_intercalate, List.map_map, mark]
  rfl

theorem lists_constantsField {written : List (String × Float)} (each : ∀ constant ∈ written, IsConstant constant) :
    Lists (constantsField written) written := by
  cases written with
  | nil => exact .none
  | cons constant rest =>
    rw [constantsField, if_neg (by simp)]
    have writes : Writes ',' ((constant :: rest).map fun constant => (constant.1, shortest constant.2))
        (constantsText (constant :: rest)).toList := by
      refine ⟨?_, ?_, ?_⟩
      · rw [toList_constantsText, List.map_map]
        rfl
      · intro field member
        obtain ⟨constant, inside, rfl⟩ := List.mem_map.1 member
        exact isKey_of_isIdentifier (each constant inside).1
      · intro field member
        obtain ⟨constant, inside, rfl⟩ := List.mem_map.1 member
        exact notMem_constantText (each constant inside)
    refine .some (Base64.toText?_ofText _) writes (List.cons_ne_nil _ _) ?_
    rw [List.forall₂_map_left_iff, List.forall₂_same]
    exact fun constant member => ⟨rfl, isNumber_shortest (each constant member).2⟩

theorem readConstants_constantsField {all : Entries String Float}
    (each : ∀ constant ∈ all.pairs, IsConstant constant) : readConstants (constantsField all.pairs) = .ok all :=
  readConstants_eq_ok.2 ⟨all.pairs, lists_constantsField each, Entries.ofList_pairs.symm⟩

end Constants

end Descriptor

end Progression
