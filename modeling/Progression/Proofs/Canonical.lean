import Progression.Proofs.Acceptance
import Progression.Proofs.Rebuild

namespace Progression

open Number Text

theorem PositiveParameter.value_of_given {parameter : PositiveParameter} {x : Float}
    (given : parameter.given = .float x) : parameter.value = x := by
  have denotes := parameter.denotes
  rw [given] at denotes
  exact (Except.ok.inj denotes).symm

namespace Custom

variable {formula : Custom} {expression : String} {numbers : Entries String Float} {maxLevel : Value}

theorem entries_of_make? (success : make? expression (numbers.map fun _ value => .float value) maxLevel = .ok formula) :
    formula.entries = numbers.sorted := by
  have given := (make?_given success).2.1
  refine Entries.ext_get? ?_ fun name => ?_
  · rw [keys_entries, given, Entries.sorted_map, Entries.keys_map]
  · rw [Entries.get?_sorted, ← Entries.lookup_pairs, ← Entries.lookup_pairs]
    exact lookup_numbers given name

theorem plain_of_make? (success : make? expression (numbers.map fun _ value => .float value) maxLevel = .ok formula) :
    formula.plain = formula := by
  have given : formula.entries.map (fun _ value => Value.float value) = formula.constants := by
    rw [entries_of_make? success, (make?_given success).2.1, Entries.sorted_map]
  have same (constants : Entries String Value)
      (numbered : Expression.checkConstants levelName constants.pairs = .ok formula.numbers)
      (equal : constants = formula.constants) : { formula with constants, numbered } = formula := by
    subst equal
    rfl
  exact same _ _ given

end Custom

namespace DescribedFormula

variable {described : DescribedFormula} {directory : Directory} {formula : Formula}

/-- The same parameters, where constants count by their names and not by their order. -/
def Equal : DescribedFormula → DescribedFormula → Prop
  | custom expression constants top, custom otherExpression others otherTop =>
    expression = otherExpression ∧ (∀ name, constants.get? name = others.get? name) ∧ top = otherTop
  | left, right => left = right

/-- The parameters with the constants in the order of their names. -/
def sorted : DescribedFormula → DescribedFormula
  | custom expression constants top => custom expression constants.sorted top
  | other => other

theorem equal_sorted : described.Equal described.sorted := by
  cases described with
  | custom => exact ⟨rfl, fun _ => Entries.get?_sorted.symm, rfl⟩
  | _ => rfl

theorem parameters_of_build (built : described.build directory = .ok formula) :
    formula.parameters = described.sorted := by
  cases described with
  | exponential baseXp exponent top =>
    obtain ⟨made, making, rfl⟩ := map_eq_ok.1 (mapError_eq_ok.1 built)
    obtain ⟨base, power, limit⟩ := Exponential.make?_given making
    cases limit
    rw [Formula.parameters, PositiveParameter.value_of_given base, PositiveParameter.value_of_given power]
    rfl
  | linear xpPerLevel top =>
    obtain ⟨made, making, rfl⟩ := map_eq_ok.1 (mapError_eq_ok.1 built)
    obtain ⟨step, limit⟩ := Linear.make?_given making
    cases step
    cases limit
    rfl
  | table file =>
    obtain ⟨levels, loaded, rfl⟩ := map_eq_ok.1 (mapError_eq_ok.1 built)
    have source := LevelTable.readFile_source (LevelTable.load_ok (Prod.ext loaded rfl)).1
    rw [Formula.parameters, source]
    rfl
  | custom expression constants top =>
    obtain ⟨made, making, rfl⟩ := map_eq_ok.1 (mapError_eq_ok.1 built)
    obtain ⟨same, -, limit⟩ := Custom.make?_given making
    cases limit
    rw [Formula.parameters, same, Custom.entries_of_make? making]
    rfl

theorem build_sorted (built : described.build directory = .ok formula) :
    described.sorted.build directory = .ok formula := by
  cases described with
  | custom expression constants top =>
    obtain ⟨made, making, rfl⟩ := map_eq_ok.1 (mapError_eq_ok.1 built)
    obtain ⟨same, given, limit⟩ := Custom.make?_given making
    have again := Custom.make?_plain (given ▸ Entries.ordered_sorted)
    rw [same, Custom.entries_of_make? making, Custom.plain_of_make? making, ← limit] at again
    exact mapError_eq_ok.2 (map_eq_ok.2 ⟨made, again, rfl⟩)
  | _ => exact built

end DescribedFormula

namespace Descriptor

variable {descriptor : Descriptor} {directory : Directory} {formula : Formula} {described : DescribedFormula}

theorem rebuild_eq_ok : descriptor.rebuild directory = .ok formula ↔
    ∃ described, descriptor.decode = .ok described ∧ described.build directory = .ok formula := by
  rw [rebuild]
  cases descriptor.decode with
  | error fault => simp
  | ok described => simp

/-- Integers that were read are short enough to be read again. -/
theorem short_of_read {text : List Char} {n : Nat} (read : readInt? text = some (n : Int)) :
    (toString n).length ≤ maxIntegerDigits :=
  length_toString_le_iff.2 (natAbs_lt_of_readInt? read)

theorem TellsMaxLevel.short {fields : Fields} {top : Nat} (limit : TellsMaxLevel fields top) :
    (toString top).length ≤ maxIntegerDigits := by
  rw [TellsMaxLevel] at limit
  cases given : fields.get? "maxLevel" with
  | none =>
    rw [given, Option.elim_none, Formula.defaultMaxLevel] at limit
    obtain rfl : top = 100000 := Int.ofNat.inj limit
    decide
  | some text =>
    rw [given, Option.elim_some] at limit
    exact short_of_read limit

/-- The formula that a descriptor leads to can be described so that its integers are read. -/
theorem printable_of_decode (decoded : descriptor.decode = .ok described)
    (built : described.build directory = .ok formula) : formula.Printable := by
  obtain ⟨kind, fields, -, tells⟩ := decode_eq_ok_iff.1 decoded
  have parameters := DescribedFormula.parameters_of_build built
  cases formula with
  | exponential formula =>
    cases tells with
    | exponential limit =>
      cases parameters
      exact List.forall_mem_singleton.2 limit.short
    | _ => cases parameters
  | linear formula =>
    cases tells with
    | linear limit step =>
      cases parameters
      exact List.forall_mem_cons.2 ⟨limit.short, List.forall_mem_singleton.2 (short_of_read step)⟩
    | _ => cases parameters
  | table levels => exact fun _ member => nomatch member
  | custom formula =>
    cases tells with
    | custom limit =>
      obtain ⟨-, -, rfl⟩ := DescribedFormula.custom.inj parameters
      exact List.forall_mem_singleton.2 limit.short
    | _ => cases parameters

theorem named_of_decode_table {file : String} (decoded : descriptor.decode = .ok (.table file)) :
    file ≠ "" ∧ ';' ∉ file.toList := by
  obtain ⟨kind, fields, spells, tells⟩ := decode_eq_ok_iff.1 decoded
  cases tells with
  | table limit named =>
    refine ⟨named, fun member => ?_⟩
    rw [required] at named member
    cases given : fields.get? "file" with
    | none => exact named (by rw [given, Option.getD_none])
    | some text =>
      rw [given, Option.getD_some] at member
      refine spells.written.apart _ (Entries.get?_eq_some_iff.1 given) ?_
      rw [toList_fieldText]
      exact List.mem_append_right _ (List.mem_cons_of_mem _ member)

/-- The descriptor of a formula that a descriptor leads to gives the same parameters, with the constants in order. -/
theorem decode_describe_of_build (decoded : descriptor.decode = .ok described)
    (built : described.build directory = .ok formula) : (describe formula).decode = .ok described.sorted := by
  have parameters := DescribedFormula.parameters_of_build built
  rw [← parameters]
  by_cases untabled : formula.kind = .table
  · cases formula with
    | table levels =>
      cases described with
      | table file =>
        cases parameters
        obtain ⟨named, clean⟩ := named_of_decode_table decoded
        exact decode_describe_table named clean
      | _ => cases parameters
    | _ => cases untabled
  · exact decode_describe_of_printable untabled (printable_of_decode decoded built)

/-- Descriptors have a canonical form. If a descriptor leads to a formula, in whatever way its fields and numbers are
spelled, then the descriptor of this formula gives the same parameters, and it leads to the same formula again, so that
describing the formula once more changes nothing. -/
theorem describe_canonical (rebuilt : descriptor.rebuild directory = .ok formula) :
    (∃ described canonical, descriptor.decode = .ok described ∧ (describe formula).decode = .ok canonical ∧
      described.Equal canonical) ∧
    (describe formula).rebuild directory = .ok formula ∧
    ((describe formula).rebuild directory).map describe = .ok (describe formula) := by
  obtain ⟨described, decoded, built⟩ := rebuild_eq_ok.1 rebuilt
  have canonical := decode_describe_of_build decoded built
  have again : (describe formula).rebuild directory = .ok formula :=
    rebuild_eq_ok.2 ⟨_, canonical, DescribedFormula.build_sorted built⟩
  exact ⟨⟨described, described.sorted, decoded, canonical, DescribedFormula.equal_sorted⟩, again,
    map_eq_ok.2 ⟨formula, again, rfl⟩⟩

theorem describe_canonical_hundred :
    rebuild (.empty "data") ⟨" linear ", "xpPerLevel=0100;maxLevel=+6_0"⟩ = .ok .hundredEach ∧
    describe .hundredEach = ⟨"LINEAR", "maxLevel=60;xpPerLevel=100"⟩ ∧
    (∃ described canonical, decode ⟨" linear ", "xpPerLevel=0100;maxLevel=+6_0"⟩ = .ok described ∧
      decode ⟨"LINEAR", "maxLevel=60;xpPerLevel=100"⟩ = .ok canonical ∧ described.Equal canonical) ∧
    rebuild (.empty "data") ⟨"LINEAR", "maxLevel=60;xpPerLevel=100"⟩ = .ok .hundredEach := by
  let fields : Fields := ⟨[("xpPerLevel", "0100"), ("maxLevel", "+6_0")], by decide⟩
  have spells : Spells ⟨" linear ", "xpPerLevel=0100;maxLevel=+6_0"⟩ .linear fields := by
    have checked : checkKeys .linear "" fields = .ok () := rfl
    obtain ⟨known, complete⟩ := checkKeys_eq_ok.1 checked
    exact ⟨by decide +kernel, (writes_iff (by simp [fields])).2 (by decide +kernel), known, complete⟩
  have limit : readInt? "+6_0".toList = some 60 := by decide +kernel
  have step : readInt? "0100".toList = some 100 := by decide +kernel
  have decoded := decode_eq_ok_iff.2 ⟨_, _, spells, .linear limit step⟩
  have built : DescribedFormula.build (.empty "data") (.linear 100 60) = .ok .hundredEach := rfl
  have rebuilt := rebuild_eq_ok.2 ⟨_, decoded, built⟩
  obtain ⟨same, again, -⟩ := describe_canonical rebuilt
  exact ⟨rebuilt, rfl, same, again⟩

end Descriptor

end Progression
