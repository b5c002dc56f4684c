import Progression.Proofs.Descriptor

/-!
Which descriptors are read, and what they say. The kind, the keys and each value have their conditions, and no field is
dropped or overridden by another one. Constants have their conditions too, but a name may be given again, and then all
values but the last one are dropped.
-/

namespace Progression

open Number Text

namespace Descriptor

variable {descriptor : Descriptor} {kind : FormulaKind} {params : String} {fields : Fields}

/-- A descriptor names a kind, and its parameters are the given fields between semicolons: those that are required, and
none that is unknown. That no key stands twice is part of what fields are. -/
structure Spells (descriptor : Descriptor) (kind : FormulaKind) (fields : Fields) : Prop where
  named : String.ofList (capitals (strip descriptor.kind.toList)) = kind.name
  written : Writes ';' fields.pairs descriptor.params.toList
  known : ∀ key ∈ fields.keys, ∃ needed, (key, needed) ∈ schema kind
  complete : ∀ key, (key, true) ∈ schema kind → key ∈ fields.keys

/-- The maximum level that fields tell, or the one that counts if they tell none. -/
def TellsMaxLevel (fields : Fields) (top : Int) : Prop :=
  (fields.get? "maxLevel").elim (top = Formula.defaultMaxLevel) fun given => readInt? given.toList = some top

/-- What fields tell for each kind: numbers are finite or integers, texts in base 64 can be read, and files have a
name. -/
inductive Tells (fields : Fields) : FormulaKind → DescribedFormula → Prop where
  | exponential {baseXp exponent : Float} {top : Int} (limit : TellsMaxLevel fields top)
    (base : IsNumber (required fields "baseXp") baseXp) (power : IsNumber (required fields "exponent") exponent) :
    Tells fields .exponential (.exponential baseXp exponent top)
  | linear {xpPerLevel top : Int} (limit : TellsMaxLevel fields top)
    (step : readInt? (required fields "xpPerLevel").toList = some xpPerLevel) :
    Tells fields .linear (.linear xpPerLevel top)
  | table {top : Int} (limit : TellsMaxLevel fields top) (named : required fields "file" ≠ "") :
    Tells fields .table (.table (required fields "file"))
  | custom {expression : String} {listed : List (String × Float)} {top : Int} (limit : TellsMaxLevel fields top)
    (decoded : Base64.toText? (required fields "exprB64") = some expression)
    (lists : Lists (required fields "constB64") listed) :
    Tells fields .custom (.custom expression (.ofList listed) top)

theorem ofText?_eq_some_iff {text : String} :
    FormulaKind.ofText? text = some kind ↔ String.ofList (capitals (strip text.toList)) = kind.name := by
  constructor
  · intro found
    rw [FormulaKind.ofText?] at found
    have same := List.find?_some found
    exact (of_decide_eq_true same).symm
  · intro named
    rw [FormulaKind.ofText?, named]
    cases kind <;> rfl

theorem checkKeys_eq_ok :
    checkKeys kind params fields = .ok () ↔ (∀ key ∈ fields.keys, ∃ needed, (key, needed) ∈ schema kind) ∧
      ∀ key, (key, true) ∈ schema kind → key ∈ fields.keys := by
  have known {key : String} : ((schema kind).lookup key).isNone = false ↔ ∃ needed, (key, needed) ∈ schema kind := by
    rw [Option.isNone_eq_false_iff, List.lookup_isSome_iff]
    simp
  rw [checkKeys]
  split
  · rename_i key foreign
    constructor
    · intro success
      cases success
    · rintro ⟨all, -⟩
      have unknown := List.find?_some foreign
      rw [known.2 (all key (List.mem_of_find?_eq_some foreign))] at unknown
      cases unknown
  · rename_i noForeign
    have all : ∀ key ∈ fields.keys, ∃ needed, (key, needed) ∈ schema kind := fun key member =>
      known.1 (Bool.eq_false_iff.2 (List.find?_eq_none.1 noForeign key member))
    split
    · rename_i key needed missing
      constructor
      · intro success
        cases success
      · rintro ⟨-, complete⟩
        have absent := List.find?_some missing
        have member := List.mem_of_find?_eq_some missing
        cases needed with
        | false => cases absent
        | true => simp [Entries.contains_eq_true_iff.2 (complete key member)] at absent
    · rename_i noMissing
      refine ⟨fun _ => ⟨all, fun key member => ?_⟩, fun _ => rfl⟩
      have present := List.find?_eq_none.1 noMissing (key, true) member
      rw [← Entries.contains_eq_true_iff]
      simpa using present

theorem readInteger_eq_ok {key given : String} {n : Int} :
    readInteger key given = .ok n ↔ readInt? given.toList = some n :=
  elim_eq_ok

theorem readBase64_eq_ok {given text : String} : readBase64 given = .ok text ↔ Base64.toText? given = some text :=
  elim_eq_ok

theorem readMaxLevel_eq_ok {top : Int} : readMaxLevel fields = .ok top ↔ TellsMaxLevel fields top := by
  rw [readMaxLevel, TellsMaxLevel]
  cases fields.get? "maxLevel" with
  | none => exact ⟨fun same => (Except.ok.inj same).symm, congrArg Except.ok ∘ Eq.symm⟩
  | some given => exact readInteger_eq_ok

theorem parameters_eq_ok {described : DescribedFormula} :
    parameters kind fields = .ok described ↔ Tells fields kind described := by
  rw [parameters, bind_eq_ok]
  constructor
  · rintro ⟨top, limit, success⟩
    replace limit := readMaxLevel_eq_ok.1 limit
    cases kind with
    | exponential =>
      obtain ⟨base, baseRead, success⟩ := bind_eq_ok.1 success
      obtain ⟨power, powerRead, success⟩ := bind_eq_ok.1 success
      cases success
      exact .exponential limit (readNumber_eq_ok.1 baseRead) (readNumber_eq_ok.1 powerRead)
    | linear =>
      obtain ⟨step, stepRead, success⟩ := bind_eq_ok.1 success
      cases success
      exact .linear limit (readInteger_eq_ok.1 stepRead)
    | table =>
      dsimp only at success
      split at success
      · cases success
      · rename_i named
        cases success
        exact .table limit (by simpa using named)
    | custom =>
      obtain ⟨expression, expressionRead, success⟩ := bind_eq_ok.1 success
      obtain ⟨constants, constantsRead, success⟩ := bind_eq_ok.1 success
      obtain ⟨listed, lists, rfl⟩ := readConstants_eq_ok.1 constantsRead
      cases success
      exact .custom limit (readBase64_eq_ok.1 expressionRead) lists
  · intro tells
    cases tells with
    | exponential limit base power =>
      exact ⟨_, readMaxLevel_eq_ok.2 limit, bind_eq_ok.2 ⟨_, readNumber_eq_ok.2 base,
        bind_eq_ok.2 ⟨_, readNumber_eq_ok.2 power, rfl⟩⟩⟩
    | linear limit step => exact ⟨_, readMaxLevel_eq_ok.2 limit, bind_eq_ok.2 ⟨_, readInteger_eq_ok.2 step, rfl⟩⟩
    | table limit named =>
      refine ⟨_, readMaxLevel_eq_ok.2 limit, ?_⟩
      dsimp only
      rw [if_neg (by simpa using named)]
      rfl
    | custom limit decoded lists =>
      exact ⟨_, readMaxLevel_eq_ok.2 limit, bind_eq_ok.2 ⟨_, readBase64_eq_ok.2 decoded,
        bind_eq_ok.2 ⟨_, readConstants_eq_ok.2 ⟨_, lists, rfl⟩, rfl⟩⟩⟩

/-- A descriptor is read just if it spells fields of a kind, and what is read is what they tell. -/
theorem decode_eq_ok_iff {described : DescribedFormula} :
    descriptor.decode = .ok described ↔ ∃ kind fields, Spells descriptor kind fields ∧ Tells fields kind described := by
  constructor
  · intro decoded
    rw [decode] at decoded
    split at decoded
    · cases decoded
    · rename_i kind named
      obtain ⟨fields, read, decoded⟩ := bind_eq_ok.1 decoded
      obtain ⟨_, checked, decoded⟩ := bind_eq_ok.1 decoded
      obtain ⟨known, complete⟩ := checkKeys_eq_ok.1 checked
      exact ⟨kind, fields, ⟨ofText?_eq_some_iff.1 named, readFields_eq_ok.1 read, known, complete⟩,
        parameters_eq_ok.1 decoded⟩
  · rintro ⟨kind, fields, ⟨named, written, known, complete⟩, tells⟩
    rw [decode, ofText?_eq_some_iff.2 named]
    exact bind_eq_ok.2 ⟨fields, readFields_eq_ok.2 written,
      bind_eq_ok.2 ⟨(), checkKeys_eq_ok.2 ⟨known, complete⟩, parameters_eq_ok.2 tells⟩⟩

theorem Spells.unique {otherKind : FormulaKind} {others : Fields} (spells : Spells descriptor kind fields)
    (other : Spells descriptor otherKind others) : kind = otherKind ∧ fields = others := by
  have read := readFields_eq_ok.2 spells.written
  rw [readFields_eq_ok.2 other.written] at read
  exact ⟨name_injective (spells.named.symm.trans other.named), (Except.ok.inj read).symm⟩

theorem rightUnique_gives : Relator.RightUnique Gives := fun _ _ _ one other =>
  Prod.ext (one.1.symm.trans other.1) (Option.some.inj (one.2.1.symm.trans other.2.1))

theorem Lists.unique {given : String} {listed others : List (String × Float)} (lists : Lists given listed)
    (other : Lists given others) : listed = others := by
  cases lists with
  | none =>
    cases other with
    | none => rfl
    | some decoded writes nonempty =>
      cases Option.some.inj decoded
      exact absurd rfl (writes.nonempty nonempty)
  | some decoded writes nonempty numbers =>
    cases other with
    | none =>
      cases Option.some.inj decoded
      exact absurd rfl (writes.nonempty nonempty)
    | some otherDecoded otherWrites otherNonempty otherNumbers =>
      cases decoded.symm.trans otherDecoded
      have same := ((writes_iff nonempty).1 writes).symm.trans ((writes_iff otherNonempty).1 otherWrites)
      cases List.map_injective_iff.2 (Option.some_injective _) same
      exact List.right_unique_forall₂' rightUnique_gives numbers otherNumbers

/-- Descriptors are either read or refused by a fault of their own, and those are read that spell fields of a kind. Of
an accepted descriptor no field is dropped, since no key is given twice. The constants are kept as they are listed just
if no name is given twice; else the last value of a name counts, and those before it are dropped. -/
theorem accepted_iff_spelled (descriptor : Descriptor) :
    ((∃ described, descriptor.decode = .ok described) ∨ ∃ fault, descriptor.decode = .error fault ∧
      ∀ directory, descriptor.rebuild directory = .error (.descriptor fault)) ∧
    (∀ described, descriptor.decode = .ok described ↔
      ∃ kind fields, Spells descriptor kind fields ∧ Tells fields kind described) ∧
    ∀ expression constants top, descriptor.decode = .ok (.custom expression constants top) →
      ∀ fields listed, Spells descriptor .custom fields → Lists (required fields "constB64") listed →
        (constants.pairs = listed ↔ (listed.map Prod.fst).Nodup) ∧
        ∀ name, constants.get? name = listed.reverse.lookup name := by
  refine ⟨?_, fun _ => decode_eq_ok_iff, ?_⟩
  · cases decoded : descriptor.decode with
    | ok described => exact .inl ⟨described, rfl⟩
    | error fault =>
      refine .inr ⟨fault, rfl, fun directory => ?_⟩
      rw [rebuild, decoded]
  · intro expression constants top decoded fields listed spells lists
    obtain ⟨kind, others, otherSpells, tells⟩ := decode_eq_ok_iff.1 decoded
    obtain ⟨rfl, rfl⟩ := spells.unique otherSpells
    cases tells with
    | custom limit read otherLists =>
      cases lists.unique otherLists
      exact ⟨Entries.pairs_ofList_iff, fun name => Entries.get?_ofList⟩

/-- Of a constant that is given twice, the first value is dropped. -/
theorem repeated_constant_overridden :
    ∃ fields, Spells ⟨"CUSTOM", "constB64=az0xLGs9Mg;exprB64=aypsZXZlbA"⟩ .custom fields ∧
      Lists (required fields "constB64") [("k", 1), ("k", 2)] ∧
      decode ⟨"CUSTOM", "constB64=az0xLGs9Mg;exprB64=aypsZXZlbA"⟩
        = .ok (.custom "k*level" (.ofList [("k", 2)]) 100000) := by
  let fields : Fields := ⟨[("constB64", "az0xLGs9Mg"), ("exprB64", "aypsZXZlbA")], by decide⟩
  have spells : Spells ⟨"CUSTOM", "constB64=az0xLGs9Mg;exprB64=aypsZXZlbA"⟩ .custom fields := by
    have checked : checkKeys .custom "" fields = .ok () := rfl
    obtain ⟨known, complete⟩ := checkKeys_eq_ok.1 checked
    exact ⟨by decide +kernel, (writes_iff (by simp [fields])).2 (by decide +kernel), known, complete⟩
  have lists : Lists "az0xLGs9Mg" [("k", 1), ("k", 2)] := by
    have text : Base64.ofText "k=1,k=2" = "az0xLGs9Mg" := by decide +kernel
    have writes : Writes ',' [("k", "1"), ("k", "2")] "k=1,k=2".toList := (writes_iff (by simp)).2 (by decide +kernel)
    rw [← text]
    refine .some (Base64.toText?_ofText _) writes (by simp) (.cons ⟨rfl, ?_⟩ (.cons ⟨rfl, ?_⟩ .nil))
    · exact ⟨by decide +kernel, by decide +kernel⟩
    · exact ⟨by decide +kernel, by decide +kernel⟩
  have expression : Base64.toText? "aypsZXZlbA" = some "k*level" := by
    have text : Base64.ofText "k*level" = "aypsZXZlbA" := by decide +kernel
    rw [← text, Base64.toText?_ofText]
  have limit : TellsMaxLevel fields 100000 := rfl
  have tells : Tells fields .custom (.custom "k*level" (.ofList [("k", 1), ("k", 2)]) 100000) :=
    .custom limit expression lists
  have overridden : Entries.ofList [("k", (1 : Float)), ("k", 2)] = .ofList [("k", 2)] := by decide +kernel
  rw [overridden] at tells
  exact ⟨fields, spells, lists, decode_eq_ok_iff.2 ⟨_, _, spells, tells⟩⟩

end Descriptor

end Progression
