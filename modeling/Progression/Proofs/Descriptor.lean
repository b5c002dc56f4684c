import Progression.Descriptor.Rebuild
import Progression.Proofs.Fields

namespace Progression

open Number Text Expression

namespace Entries

theorem lookup_pairs {κ α : Type} [DecidableEq κ] {entries : Entries κ α} {key : κ} :
    entries.pairs.lookup key = entries.get? key := by
  obtain ⟨pairs, distinct⟩ := entries
  induction pairs with
  | nil => rfl
  | cons pair rest ih =>
    obtain ⟨written, value⟩ := pair
    have rest := ih (List.nodup_cons.1 distinct).2
    by_cases same : written = key
    · subst same
      simp [get?]
    · have other : (key == written) = false := by simpa using Ne.symm same
      simpa [List.lookup_cons, get?, same, other] using rest

end Entries

namespace Expression

theorem checkConstant_eq_ok {unknown name : String} {value : Value} {number : Float} :
    checkConstant unknown name value = .ok number ↔ isIdentifier name.toList = true ∧
      ¬ (name = unknown ∨ (Function.ofName? name).isSome) ∧ value.toFloat = .ok number ∧ number.isFinite = true := by
  rw [checkConstant]
  by_cases identifier : isIdentifier name.toList = true
  · by_cases reserved : name = unknown ∨ (Function.ofName? name).isSome
    · simp [identifier, reserved]
    · rw [if_neg (by simp [identifier]), if_neg reserved]
      split
      · rename_i refused
        simp [refused]
      · rename_i refused
        simp [refused]
      · rename_i denoted denotes
        by_cases finite : denoted.isFinite = true
        · simp only [finite, if_true, denotes, Except.ok.injEq]
          exact ⟨fun same => ⟨identifier, reserved, same, same ▸ finite⟩, fun ⟨_, _, same, _⟩ => same⟩
        · simp only [finite, denotes, Except.ok.injEq]
          exact ⟨nofun, fun ⟨_, _, same, passed⟩ => absurd (same ▸ passed) finite⟩
  · simp [identifier]

theorem checkConstants_ok {unknown : String} {pairs : List (String × Value)} {numbers : List (String × Float)}
    (success : checkConstants unknown pairs = .ok numbers) :
    numbers.map Prod.fst = pairs.map Prod.fst ∧ ∀ number ∈ numbers, Descriptor.IsConstant number ∧
      ∃ value, (number.1, value) ∈ pairs ∧ value.toFloat = .ok number.2 := by
  induction pairs generalizing numbers with
  | nil =>
    cases success
    exact ⟨rfl, fun _ member => nomatch member⟩
  | cons pair pairs ih =>
    obtain ⟨name, value⟩ := pair
    rw [checkConstants] at success
    split at success
    · cases success
    · rename_i number checked
      obtain ⟨others, checkedOthers, success⟩ := bind_eq_ok.1 success
      cases success
      obtain ⟨names, each⟩ := ih checkedOthers
      obtain ⟨identifier, -, denotes, finite⟩ := checkConstant_eq_ok.1 checked
      refine ⟨congrArg (name :: ·) names, List.forall_mem_cons.2 ⟨⟨⟨identifier, finite⟩, value,
        List.mem_cons_self .., denotes⟩, fun number member => ?_⟩⟩
      obtain ⟨isConstant, value, present, denotes⟩ := each number member
      exact ⟨isConstant, value, List.mem_cons_of_mem _ present, denotes⟩

section Scopes

variable {source unknown : String} {left right : List (String × Float)}

mutual

theorem Tree.term?_congr (same : ∀ name, left.lookup name = right.lookup name) :
    (tree : Tree) → tree.term? ⟨source, unknown, left⟩ = tree.term? ⟨source, unknown, right⟩
  | .literal value => by cases value <;> simp only [Tree.term?]
  | .name text => by simp only [Tree.term?, same]
  | .signed negative operand => by simp only [Tree.term?, operand.term?_congr same]
  | .binary operator first second => by simp only [Tree.term?, first.term?_congr same, second.term?_congr same]
  | .call callee arguments keywords => by
    cases callee <;> simp only [Tree.term?, terms?_congr same arguments]
  | .other assignable => by simp only [Tree.term?]

theorem terms?_congr (same : ∀ name, left.lookup name = right.lookup name) :
    (trees : List Tree) → terms? ⟨source, unknown, left⟩ trees = terms? ⟨source, unknown, right⟩ trees
  | [] => rfl
  | first :: rest => by simp only [terms?, first.term?_congr same, terms?_congr same rest]

end

theorem compileOver_congr (same : ∀ name, left.lookup name = right.lookup name) :
    compileOver source unknown left = compileOver source unknown right := by
  rw [compileOver, compileOver]
  split
  · rfl
  · split
    · rfl
    · exact Tree.term?_congr same _

end Scopes

end Expression

/-- No level and no floor tells two formulas apart. -/
structure Formula.Alike (left right : Formula) : Prop where
  kind : left.kind = right.kind
  maxLevel : left.maxLevel = right.maxLevel
  xpForLevel : ∀ level, left.xpForLevel level = right.xpForLevel level
  levelForXp : ∀ xp, left.levelForXp xp = right.levelForXp xp

theorem checkMaxLevel_ok {given : Value} {top : { n : Nat // 1 ≤ n }} (success : checkMaxLevel given = .ok top) :
    given = .int top.1 := by
  cases given with
  | int n =>
    rw [checkMaxLevel] at success
    split at success
    · cases success
      simp only [Value.int.injEq]
      omega
    · cases success
  | _ => cases success

namespace Exponential

variable {left right : Exponential}

theorem alike (base : left.baseXp.value = right.baseXp.value) (power : left.exponent.value = right.exponent.value)
    (top : left.maxLevel = right.maxLevel) : Formula.Alike (.exponential left) (.exponential right) := by
  obtain ⟨⟨_, base, _, _, _, _⟩, ⟨_, power, _, _, _, _⟩, top, _, _⟩ := left
  obtain ⟨⟨_, _, _, _, _, _⟩, ⟨_, _, _, _, _, _⟩, _, _, _⟩ := right
  cases base
  cases power
  cases top
  exact ⟨rfl, rfl, fun _ => rfl, fun _ => rfl⟩

theorem check_given {name : String} {given : Value} {parameter : PositiveParameter}
    (success : PositiveParameter.check name given = .ok parameter) : parameter.given = given := by
  rw [PositiveParameter.check] at success
  split at success
  · split at success
    · cases success
    · split at success
      · split at success
        · cases success
          rfl
        · cases success
      · cases success
  · cases success

theorem make?_given {baseXp exponent maxLevel : Value} {formula : Exponential}
    (success : make? baseXp exponent maxLevel = .ok formula) :
    formula.baseXp.given = baseXp ∧ formula.exponent.given = exponent ∧ maxLevel = .int formula.maxLevel := by
  obtain ⟨base, checkedBase, success⟩ := bind_eq_ok.1 success
  obtain ⟨power, checkedPower, success⟩ := bind_eq_ok.1 success
  obtain ⟨⟨top, positive⟩, checkedTop, success⟩ := bind_eq_ok.1 success
  dsimp only at success
  split at success
  · cases success
  · cases success
    exact ⟨check_given checkedBase, check_given checkedPower, checkMaxLevel_ok checkedTop⟩

end Exponential

namespace Linear

variable {left right : Linear}

theorem alike (step : left.xpPerLevel = right.xpPerLevel) (top : left.maxLevel = right.maxLevel) :
    Formula.Alike (.linear left) (.linear right) := by
  obtain ⟨step, top, _, _⟩ := left
  obtain ⟨_, _, _, _⟩ := right
  cases step
  cases top
  exact ⟨rfl, rfl, fun _ => rfl, fun _ => rfl⟩

theorem checkXpPerLevel_ok {given : Value} {step : Nat} (success : checkXpPerLevel given = .ok step) :
    given = .int step := by
  cases given with
  | int n =>
    rw [checkXpPerLevel] at success
    split at success
    · cases success
      simp only [Value.int.injEq]
      omega
    · cases success
  | _ => cases success

theorem make?_given {xpPerLevel maxLevel : Value} {formula : Linear}
    (success : make? xpPerLevel maxLevel = .ok formula) :
    xpPerLevel = .int formula.xpPerLevel ∧ maxLevel = .int formula.maxLevel := by
  obtain ⟨step, checkedStep, success⟩ := bind_eq_ok.1 success
  obtain ⟨⟨top, positive⟩, checkedTop, success⟩ := bind_eq_ok.1 success
  dsimp only at success
  split at success
  · cases success
    exact ⟨checkXpPerLevel_ok checkedStep, checkMaxLevel_ok checkedTop⟩
  · cases success

end Linear

namespace LevelTable

theorem alike {left right : LevelTable} (floors : left.floors = right.floors) :
    Formula.Alike (.table left) (.table right) := by
  obtain ⟨floors, _, _, _, _⟩ := left
  obtain ⟨_, _, _, _, _⟩ := right
  cases floors
  exact ⟨rfl, rfl, fun _ => rfl, fun _ => rfl⟩

end LevelTable

namespace Custom

variable {formula left right : Custom}

theorem alike (expression : left.expression = right.expression)
    (numbers : ∀ name, left.numbers.lookup name = right.numbers.lookup name) (top : left.maxLevel = right.maxLevel) :
    Formula.Alike (.custom left) (.custom right) := by
  have terms : left.term = right.term := by
    have compiled := left.compiled
    rw [compileOver_congr numbers, expression, right.compiled] at compiled
    exact (Except.ok.inj compiled).symm
  obtain ⟨expression, _, _, term, top, _, _, _, _, _⟩ := left
  obtain ⟨_, _, _, _, _, _, _, _, _, _⟩ := right
  cases expression
  cases terms
  cases top
  exact ⟨rfl, rfl, fun _ => rfl, fun _ => rfl⟩

/-- The numbers of the constants, by name. -/
def entries (formula : Custom) : Entries String Float where
  pairs := formula.numbers
  distinct := (checkConstants_ok formula.numbered).1 ▸ formula.constants.distinct

theorem isConstant : ∀ constant ∈ formula.entries.pairs, Descriptor.IsConstant constant :=
  fun constant member => ((checkConstants_ok formula.numbered).2 constant member).1

theorem make?_given {expression : String} {constants : Entries String Value} {maxLevel : Value}
    (success : make? expression constants maxLevel = .ok formula) :
    formula.expression = expression ∧ formula.constants = constants.sorted ∧ maxLevel = .int formula.maxLevel := by
  obtain ⟨⟨top, positive⟩, checkedTop, success⟩ := bind_eq_ok.1 success
  dsimp only at success
  split at success
  · cases success
  · obtain ⟨_, _, success⟩ := bind_eq_ok.1 success
    split at success
    · cases success
    · split at success
      · cases success
      · split at success
        · cases success
        · cases success
          exact ⟨rfl, rfl, checkMaxLevel_ok checkedTop⟩

theorem lookup_numbers {numbers : Entries String Float}
    (given : formula.constants = (numbers.map fun _ value => .float value).sorted) (name : String) :
    formula.numbers.lookup name = numbers.pairs.lookup name := by
  have shuffled : formula.constants.pairs.Perm (numbers.pairs.map fun pair => (pair.1, .float pair.2)) :=
    given ▸ List.mergeSort_perm _ _
  obtain ⟨names, each⟩ := checkConstants_ok formula.numbered
  change formula.entries.pairs.lookup name = numbers.pairs.lookup name
  rw [Entries.lookup_pairs, Entries.lookup_pairs]
  cases found : formula.entries.get? name with
  | some x =>
    obtain ⟨-, value, present, denotes⟩ := each _ (Entries.get?_eq_some_iff.1 found)
    obtain ⟨pair, member, same⟩ := List.mem_map.1 (shuffled.mem_iff.1 present)
    cases same
    cases denotes
    exact (Entries.get?_eq_some_iff.2 member).symm
  | none =>
    have absent := Entries.get?_eq_none_iff.1 found
    rw [Entries.keys, entries, names, (shuffled.map Prod.fst).mem_iff, List.map_map] at absent
    exact (Entries.get?_eq_none_iff.2 absent).symm

end Custom

namespace Formula

/-- The fields of the descriptor of a formula. -/
def fields : Formula → List (String × String)
  | exponential formula => [
      ("baseXp", shortest formula.baseXp.value), ("exponent", shortest formula.exponent.value),
      ("maxLevel", toString formula.maxLevel)]
  | linear formula => [("maxLevel", toString formula.maxLevel), ("xpPerLevel", toString formula.xpPerLevel)]
  | table levels => [("file", levels.source)]
  | custom formula => [
      ("constB64", Descriptor.constantsField formula.numbers),
      ("exprB64", Base64.ofText formula.expression), ("maxLevel", toString formula.maxLevel)]

/-- The same, by key. -/
def written (formula : Formula) : Descriptor.Fields where
  pairs := formula.fields
  distinct := by cases formula <;> simp [fields]

/-- The parameters that the descriptor of a formula gives. -/
def parameters : Formula → DescribedFormula
  | exponential formula => .exponential formula.baseXp.value formula.exponent.value formula.maxLevel
  | linear formula => .linear formula.xpPerLevel formula.maxLevel
  | table levels => .table levels.source
  | custom formula => .custom formula.expression formula.entries formula.maxLevel

end Formula

namespace Descriptor

variable {formula : Formula} {kind : FormulaKind} {params : String} {fields : Fields}

theorem describe_eq : describe formula = ofFields formula.kind formula.fields := by
  cases formula <;> rfl

theorem ofText?_name : FormulaKind.ofText? kind.name = some kind := by
  cases kind <;> rfl

theorem name_injective : Function.Injective FormulaKind.name := by
  intro left right same
  have found : FormulaKind.ofText? left.name = some left := ofText?_name
  rw [same, ofText?_name] at found
  exact (Option.some.inj found).symm

theorem kind_describe : (describe formula).kind = formula.kind.name := by
  rw [describe_eq]
  rfl

theorem decode_eq_ok {descriptor : Descriptor} {described : DescribedFormula} (named : descriptor.kind = kind.name) :
    descriptor.decode = .ok described ↔ ∃ fields, readFields descriptor.params = .ok fields ∧
      checkKeys kind descriptor.params fields = .ok () ∧ parameters kind fields = .ok described := by
  rw [decode, named, ofText?_name]
  dsimp only
  rw [bind_eq_ok]
  refine exists_congr fun fields => and_congr_right fun _ => ?_
  rw [bind_eq_ok]
  exact ⟨fun ⟨_, checked, success⟩ => ⟨checked, success⟩, fun ⟨checked, success⟩ => ⟨(), checked, success⟩⟩

theorem readInteger_toString {key : String} {n : Nat} {read : Int} (success : readInteger key (toString n) = .ok read) :
    read = n :=
  readInt?_toString (elim_eq_ok.1 success)

theorem readBase64_ofText {text : String} : readBase64 (Base64.ofText text) = .ok text := by
  rw [readBase64, Base64.toText?_ofText]
  rfl

theorem notMem_fieldText {key value : String} (clean : ';' ∉ key.toList) (inside : ';' ∉ value.toList) :
    ';' ∉ (fieldText (key, value)).toList := by
  rw [toList_fieldText]
  intro member
  rcases List.mem_append.1 member with member | member
  · exact clean member
  · rcases List.mem_cons.1 member with same | member
    · cases same
    · exact inside member

theorem notMem_ofText {text : String} : ';' ∉ (Base64.ofText text).toList :=
  fun member => absurd (Base64.isSome_sextet?_ofText _ member) (by decide)

theorem notMem_constantsField {constants : List (String × Float)} : ';' ∉ (constantsField constants).toList := by
  rw [constantsField]
  split
  · exact List.not_mem_nil
  · exact notMem_ofText

theorem notMem_shortest {x : Float} (finite : x.isFinite = true) : ';' ∉ (shortest x).toList :=
  fun member => absurd (isNumeral_shortest finite _ member) (by decide)

theorem notMem_toString {n : Nat} : ';' ∉ (toString n).toList :=
  fun member => absurd (isNumeral_toString _ member) (by decide)

theorem clean_fields (untabled : formula.kind ≠ .table) :
    ∀ field ∈ formula.fields, IsKey field.1 ∧ ';' ∉ (fieldText field).toList := by
  cases formula with
  | table => exact absurd rfl untabled
  | exponential formula =>
    simp only [Formula.fields, List.forall_mem_cons]
    exact ⟨⟨⟨by decide, by decide⟩, notMem_fieldText (by decide) (notMem_shortest formula.baseXp.finite)⟩,
      ⟨⟨by decide, by decide⟩, notMem_fieldText (by decide) (notMem_shortest formula.exponent.finite)⟩,
      ⟨⟨by decide, by decide⟩, notMem_fieldText (by decide) notMem_toString⟩, fun _ member => nomatch member⟩
  | linear formula =>
    simp only [Formula.fields, List.forall_mem_cons]
    exact ⟨⟨⟨by decide, by decide⟩, notMem_fieldText (by decide) notMem_toString⟩,
      ⟨⟨by decide, by decide⟩, notMem_fieldText (by decide) notMem_toString⟩, fun _ member => nomatch member⟩
  | custom formula =>
    simp only [Formula.fields, List.forall_mem_cons]
    exact ⟨⟨⟨by decide, by decide⟩, notMem_fieldText (by decide) notMem_constantsField⟩,
      ⟨⟨by decide, by decide⟩, notMem_fieldText (by decide) notMem_ofText⟩,
      ⟨⟨by decide, by decide⟩, notMem_fieldText (by decide) notMem_toString⟩, fun _ member => nomatch member⟩

theorem readFields_describe (untabled : formula.kind ≠ .table) :
    readFields (describe formula).params = .ok formula.written := by
  rw [describe_eq]
  exact readFields_params rfl (clean_fields untabled)

theorem lookup_of_checkKeys (checked : checkKeys kind params fields = .ok ()) :
    ∀ key ∈ fields.keys, ((schema kind).lookup key).isSome = true := by
  rw [checkKeys] at checked
  split at checked
  · cases checked
  · rename_i none
    intro key member
    exact Option.isSome_iff_ne_none.2 fun unknown =>
      List.find?_eq_none.1 none key member (by rw [unknown, Option.isNone_none])

theorem pair?_file {name : List Char} : pair? ("file".toList ++ '=' :: name) = some ("file", .ofList name) := by
  have isKey : IsKey "file" := ⟨by decide, by decide⟩
  have read : pair? (fieldText ("file", .ofList name)).toList = some ("file", .ofList name) := pair?_fieldText isKey
  simpa only [toList_fieldText, String.toList_ofList] using read

theorem toList_params_table (levels : LevelTable) :
    (describe (.table levels)).params.toList = "file".toList ++ '=' :: levels.source.toList := by
  rw [describe_eq, toList_params]
  exact List.intercalate_singleton.trans toList_fieldText

/-- If the parameters of a table are fields, the file is one; it is the whole of them only if its name holds no
separator. -/
theorem readFields_table {levels : LevelTable} (read : readFields (describe (.table levels)).params = .ok fields) :
    "file" ∈ fields.keys ∧ ((∀ key ∈ fields.keys, key = "file") →
      ';' ∉ levels.source.toList ∧ fields.pairs = [("file", levels.source)]) := by
  have written := toList_params_table levels
  have filled : ¬ (describe (.table levels)).params.isEmpty = true := fun empty => by
    rw [String.isEmpty_iff.1 empty] at written
    simp at written
  rw [readFields, if_neg filled, written] at read
  obtain ⟨parts, found, pairs⟩ := addParts_eq_ok.1 read
  replace pairs : fields.pairs = parts := pairs
  by_cases clean : ';' ∈ levels.source.toList
  · obtain ⟨before, after, cut, first⟩ := List.eq_append_cons_of_mem clean
    rw [cut, ← List.cons_append, ← List.append_assoc, splitAt_append (by simpa using first), List.map_cons,
      pair?_file] at found
    have nonempty : splitAt ';' after ≠ [] := splitAt_ne_nil
    obtain ⟨second, others, split⟩ := List.exists_cons_of_ne_nil nonempty
    rw [split, List.map_cons] at found
    obtain ⟨_, _, rfl, head, more⟩ := List.map_eq_cons_iff.1 found.symm
    obtain ⟨next, _, rfl, -, -⟩ := List.map_eq_cons_iff.1 more
    cases head
    rw [Entries.keys, pairs]
    refine ⟨List.mem_cons_self .., fun only => ?_⟩
    -- A second field would need a second key.
    have distinct := fields.distinct
    rw [pairs] at distinct
    have same : next.1 = "file" := only _ (by simp)
    simp [same] at distinct
  · rw [splitAt_of_notMem (by simpa using clean), List.map_singleton, pair?_file, String.ofList_toList] at found
    obtain ⟨_, _, rfl, head, nothing⟩ := List.map_eq_cons_iff.1 found.symm
    cases head
    rw [List.map_eq_nil_iff.1 nothing] at pairs
    rw [Entries.keys, pairs]
    exact ⟨List.mem_cons_self .., fun _ => ⟨clean, rfl⟩⟩

theorem eq_file_of_checkKeys (checked : checkKeys .table params fields = .ok ()) :
    ∀ key ∈ fields.keys, key = "file" := by
  intro key member
  have known := lookup_of_checkKeys checked key member
  by_contra other
  have unknown : (key == "file") = false := by simpa using other
  simp [schema, List.lookup_cons, unknown] at known

/-- What is read from the descriptor of a formula are its parameters. -/
theorem decode_describe {described : DescribedFormula} (success : (describe formula).decode = .ok described) :
    described = formula.parameters := by
  obtain ⟨fields, read, checked, success⟩ := (decode_eq_ok kind_describe).1 success
  cases formula with
  | exponential formula =>
    cases (readFields_describe (by simp [Formula.kind])).symm.trans read
    obtain ⟨top, topRead, success⟩ := bind_eq_ok.1 success
    obtain ⟨base, baseRead, success⟩ := bind_eq_ok.1 success
    obtain ⟨power, powerRead, success⟩ := bind_eq_ok.1 success
    cases (readNumber_shortest formula.baseXp.finite).symm.trans baseRead
    cases (readNumber_shortest formula.exponent.finite).symm.trans powerRead
    cases readInteger_toString topRead
    exact (Except.ok.inj success).symm
  | linear formula =>
    cases (readFields_describe (by simp [Formula.kind])).symm.trans read
    obtain ⟨top, topRead, success⟩ := bind_eq_ok.1 success
    obtain ⟨step, stepRead, success⟩ := bind_eq_ok.1 success
    cases readInteger_toString topRead
    cases readInteger_toString stepRead
    exact (Except.ok.inj success).symm
  | table levels =>
    obtain ⟨-, whole⟩ := readFields_table read
    obtain ⟨-, pairs⟩ := whole (eq_file_of_checkKeys checked)
    obtain ⟨top, topRead, success⟩ := bind_eq_ok.1 success
    have file : required fields "file" = levels.source := by simp [required, Entries.get?, pairs]
    dsimp only [Formula.kind] at success
    rw [file] at success
    split at success
    · cases success
    · exact (Except.ok.inj success).symm
  | custom formula =>
    cases (readFields_describe (by simp [Formula.kind])).symm.trans read
    obtain ⟨top, topRead, success⟩ := bind_eq_ok.1 success
    obtain ⟨expression, expressionRead, success⟩ := bind_eq_ok.1 success
    obtain ⟨constants, constantsRead, success⟩ := bind_eq_ok.1 success
    cases readBase64_ofText.symm.trans expressionRead
    cases (readConstants_constantsField formula.isConstant).symm.trans constantsRead
    cases readInteger_toString topRead
    exact (Except.ok.inj success).symm

theorem decode_other {described : DescribedFormula} (different : kind ≠ formula.kind) :
    decode ⟨kind.name, (describe formula).params⟩ ≠ .ok described := by
  intro success
  obtain ⟨fields, read, checked, -⟩ := (decode_eq_ok rfl).1 success
  -- Each kind has a key that is no key of another one.
  obtain ⟨key, present, foreign⟩ : ∃ key ∈ fields.keys, (schema kind).lookup key = none := by
    cases formula with
    | table levels =>
      refine ⟨"file", (readFields_table read).1, ?_⟩
      cases kind <;> first | rfl | exact absurd rfl different
    | exponential =>
      cases (readFields_describe (by simp [Formula.kind])).symm.trans read
      refine ⟨"baseXp", by simp [Entries.keys, Formula.written, Formula.fields], ?_⟩
      cases kind <;> first | rfl | exact absurd rfl different
    | linear =>
      cases (readFields_describe (by simp [Formula.kind])).symm.trans read
      refine ⟨"xpPerLevel", by simp [Entries.keys, Formula.written, Formula.fields], ?_⟩
      cases kind <;> first | rfl | exact absurd rfl different
    | custom =>
      cases (readFields_describe (by simp [Formula.kind])).symm.trans read
      refine ⟨"exprB64", by simp [Entries.keys, Formula.written, Formula.fields], ?_⟩
      cases kind <;> first | rfl | exact absurd rfl different
  have known := lookup_of_checkKeys checked key present
  rw [foreign] at known
  cases known

theorem rebuild_other {built : Formula} {directory : Directory} (different : kind ≠ formula.kind) :
    rebuild directory ⟨kind.name, (describe formula).params⟩ ≠ .ok built := by
  intro rebuilt
  rw [rebuild] at rebuilt
  split at rebuilt
  · cases rebuilt
  · rename_i described decoded
    exact decode_other different decoded

end Descriptor

namespace Formula

variable {formula left right : Formula} {directory : Directory}

/-- A directory gives no other table than the one that a formula has, if it has one. -/
def FoundIn (formula : Formula) (directory : Directory) : Prop :=
  match formula with
  | table levels => ∀ read, (LevelTable.load directory levels.source false).1 = .ok read → read = levels
  | _ => True

/-- A formula that is built from the parameters of another one is like it. -/
theorem alike_of_build {built : Formula} (found : formula.FoundIn directory)
    (success : formula.parameters.build directory = .ok built) : formula.Alike built := by
  cases formula with
  | exponential formula =>
    obtain ⟨made, making, rfl⟩ := map_eq_ok.1 (mapError_eq_ok.1 success)
    obtain ⟨base, power, top⟩ := Exponential.make?_given making
    have baseValue : .ok formula.baseXp.value = Except.ok made.baseXp.value := base ▸ made.baseXp.denotes
    have powerValue : .ok formula.exponent.value = Except.ok made.exponent.value := power ▸ made.exponent.denotes
    exact Exponential.alike (Except.ok.inj baseValue) (Except.ok.inj powerValue) (Int.ofNat.inj (Value.int.inj top))
  | linear formula =>
    obtain ⟨made, making, rfl⟩ := map_eq_ok.1 (mapError_eq_ok.1 success)
    obtain ⟨step, top⟩ := Linear.make?_given making
    exact Linear.alike (Int.ofNat.inj (Value.int.inj step)) (Int.ofNat.inj (Value.int.inj top))
  | table levels =>
    obtain ⟨read, reading, rfl⟩ := map_eq_ok.1 (mapError_eq_ok.1 success)
    rw [found read reading]
    exact LevelTable.alike rfl
  | custom formula =>
    obtain ⟨made, making, rfl⟩ := map_eq_ok.1 (mapError_eq_ok.1 success)
    obtain ⟨expression, constants, top⟩ := Custom.make?_given making
    exact Custom.alike expression.symm (fun name => (Custom.lookup_numbers constants name).symm)
      (Int.ofNat.inj (Value.int.inj top))

theorem alike_of_rebuild {built : Formula} (found : formula.FoundIn directory)
    (success : (Descriptor.describe formula).rebuild directory = .ok built) : formula.Alike built := by
  rw [Descriptor.rebuild] at success
  split at success
  · cases success
  · rename_i described decoded
    cases Descriptor.decode_describe decoded
    exact alike_of_build found success

theorem shortest_inj {x y : Float} (finite : x.isFinite = true) (otherFinite : y.isFinite = true)
    (same : shortest x = shortest y) : x = y := by
  have read := readFloat?_shortest finite
  rw [same, readFloat?_shortest otherFinite] at read
  exact (Option.some.inj read).symm

theorem toString_inj {m n : Nat} (same : toString m = toString n) : m = n := by
  rw [Nat.toString_eq_ofList_toDigits, Nat.toString_eq_ofList_toDigits] at same
  rw [← Nat.ofDigitChars_ten_toDigits (n := m), String.ofList_injective same, Nat.ofDigitChars_ten_toDigits]

theorem parameters_of_describe (same : Descriptor.describe left = .describe right) :
    left.parameters = right.parameters := by
  have kind : left.kind = right.kind := by
    refine Descriptor.name_injective ?_
    rw [← Descriptor.kind_describe, ← Descriptor.kind_describe, same]
  have fields (untabled : left.kind ≠ .table) : left.fields = right.fields := by
    have read := Descriptor.readFields_describe untabled
    rw [same, Descriptor.readFields_describe (kind ▸ untabled)] at read
    exact (congrArg Entries.pairs (Except.ok.inj read)).symm
  cases left <;> cases right <;> try cases kind
  case exponential.exponential left right =>
    have equal := fields (by simp [Formula.kind])
    simp only [Formula.fields, List.cons.injEq, Prod.mk.injEq, true_and, and_true] at equal
    rw [parameters, parameters, shortest_inj left.baseXp.finite right.baseXp.finite equal.1,
      shortest_inj left.exponent.finite right.exponent.finite equal.2.1, toString_inj equal.2.2]
  case linear.linear left right =>
    have equal := fields (by simp [Formula.kind])
    simp only [Formula.fields, List.cons.injEq, Prod.mk.injEq, true_and, and_true] at equal
    rw [parameters, parameters, toString_inj equal.1, toString_inj equal.2]
  case table.table left right =>
    have params := congrArg (fun descriptor => descriptor.params.toList) same
    simp only [Descriptor.toList_params_table] at params
    exact congrArg DescribedFormula.table (String.toList_inj.1 (by simpa using params))
  case custom.custom left right =>
    have equal := fields (by simp [Formula.kind])
    simp only [Formula.fields, List.cons.injEq, Prod.mk.injEq, true_and, and_true] at equal
    obtain ⟨constants, expression, top⟩ := equal
    have expressions := Base64.toText?_ofText left.expression
    rw [expression, Base64.toText?_ofText] at expressions
    have numbers := Descriptor.readConstants_constantsField left.isConstant
    rw [Custom.entries, constants] at numbers
    have entries := Except.ok.inj (numbers.symm.trans (Descriptor.readConstants_constantsField right.isConstant))
    rw [parameters, parameters, Option.some.inj expressions, toString_inj top]
    exact congrArg (DescribedFormula.custom _ · _) entries

/-- Formulas have one descriptor just if they have the same parameters. -/
theorem describe_eq_iff : Descriptor.describe left = .describe right ↔ left.parameters = right.parameters := by
  refine ⟨parameters_of_describe, fun same => ?_⟩
  have kind : left.kind = right.kind := by
    cases left <;> cases right <;> first | rfl | cases same
  have fields : left.fields = right.fields := by
    cases left <;> cases right <;> try cases kind
    case exponential.exponential left right =>
      obtain ⟨base, power, top⟩ := DescribedFormula.exponential.inj same
      rw [Formula.fields, Formula.fields, base, power, Int.ofNat.inj top]
    case linear.linear left right =>
      obtain ⟨step, top⟩ := DescribedFormula.linear.inj same
      rw [Formula.fields, Formula.fields, Int.ofNat.inj step, Int.ofNat.inj top]
    case table.table left right => rw [Formula.fields, Formula.fields, DescribedFormula.table.inj same]
    case custom.custom left right =>
      obtain ⟨expression, entries, top⟩ := DescribedFormula.custom.inj same
      have numbers : left.numbers = right.numbers := congrArg Entries.pairs entries
      rw [Formula.fields, Formula.fields, expression, numbers, Int.ofNat.inj top]
  rw [Descriptor.describe_eq, Descriptor.describe_eq, kind, fields]

/-- Formulas with one descriptor are alike, if tables with one name are. -/
theorem alike_of_describe (same : Descriptor.describe left = Descriptor.describe right)
    (tables : ∀ levels others, left = .table levels → right = .table others → levels.source = others.source →
      levels.floors = others.floors) : left.Alike right := by
  have equal := parameters_of_describe same
  cases left <;> cases right <;> try cases equal
  case exponential.exponential left right =>
    obtain ⟨base, power, top⟩ := DescribedFormula.exponential.inj equal
    exact Exponential.alike base power (Int.ofNat.inj top)
  case linear.linear left right =>
    obtain ⟨step, top⟩ := DescribedFormula.linear.inj equal
    exact Linear.alike (Int.ofNat.inj step) (Int.ofNat.inj top)
  case table.table left right =>
    exact LevelTable.alike (tables left right rfl rfl (DescribedFormula.table.inj equal))
  case custom.custom left right =>
    obtain ⟨expression, entries, top⟩ := DescribedFormula.custom.inj equal
    exact Custom.alike expression
      (fun name => congrArg (fun entries : Entries String Float => entries.pairs.lookup name) entries)
      (Int.ofNat.inj top)

end Formula

end Progression
