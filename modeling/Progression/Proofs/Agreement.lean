import Progression.Proofs.Comparison
import Progression.Proofs.Rebuild

/-!
Equality of formulas against equality of descriptors. Parameters are equal by their values, however they are given, and
constants by name; descriptors write the numbers that are denoted. The two agree but for the sign of a zero, which is
written and does not count.
-/

namespace Progression

open Number Text Expression

namespace Entries

section Related

variable {α β : Type} {entries : Entries String α} {others : Entries String β} {related : α → β → Prop}

/-- Two maps have the same keys, and values under them that are related. -/
def Related (related : α → β → Prop) (entries : Entries String α) (others : Entries String β) : Prop :=
  ∀ key, Option.Rel related (entries.get? key) (others.get? key)

theorem Related.mem_keys_iff (same : Related related entries others) {key : String} :
    key ∈ entries.keys ↔ key ∈ others.keys := by
  rw [← contains_eq_true_iff, ← contains_eq_true_iff, contains, contains]
  have found := same key
  revert found
  generalize entries.get? key = left
  generalize others.get? key = right
  rintro (_ | _) <;> simp

theorem Ordered.keys_eq (ordered : entries.Ordered) (otherOrdered : others.Ordered)
    (same : ∀ key, key ∈ entries.keys ↔ key ∈ others.keys) : entries.keys = others.keys := by
  have shuffled : entries.keys.Perm others.keys :=
    (List.perm_ext_iff_of_nodup entries.distinct others.distinct).2 same
  exact shuffled.eq_of_pairwise (fun _ _ _ _ => String.le_antisymm) (List.pairwise_map.2 ordered)
    (List.pairwise_map.2 otherOrdered)

theorem Ordered.related_iff (ordered : entries.Ordered) (otherOrdered : others.Ordered) :
    Related related entries others ↔
      List.Forall₂ (fun left right => left.1 = right.1 ∧ related left.2 right.2) entries.pairs others.pairs := by
  constructor
  · intro same
    have keys := ordered.keys_eq otherOrdered fun _ => same.mem_keys_iff
    have length : entries.pairs.length = others.pairs.length := by
      simpa [Entries.keys] using congrArg List.length keys
    refine List.forall₂_iff_get.2 ⟨length, fun index inside insideOther => ?_⟩
    rw [List.get_eq_getElem, List.get_eq_getElem]
    have key : entries.pairs[index].1 = others.pairs[index].1 := by
      simpa [Entries.keys] using List.getElem_of_eq keys (by simpa [Entries.keys] using inside)
    have found : entries.get? entries.pairs[index].1 = some entries.pairs[index].2 :=
      get?_eq_some_iff.2 (List.getElem_mem inside)
    have foundOther : others.get? others.pairs[index].1 = some others.pairs[index].2 :=
      get?_eq_some_iff.2 (List.getElem_mem insideOther)
    have held := same entries.pairs[index].1
    rw [found, key, foundOther] at held
    cases held with
    | some held => exact ⟨key, held⟩
  · intro pairs key
    rw [← lookup_pairs, ← lookup_pairs]
    generalize entries.pairs = written at pairs
    generalize others.pairs = otherWritten at pairs
    induction pairs with
    | nil => exact .none
    | @cons left right _ _ first rest ih =>
      obtain ⟨same, held⟩ := first
      rw [List.lookup_cons, List.lookup_cons, same]
      split
      · exact .some held
      · exact ih

theorem Ordered.ext {others : Entries String α} (ordered : entries.Ordered) (otherOrdered : others.Ordered)
    (same : ∀ key, entries.get? key = others.get? key) : entries = others := by
  refine ext_get? (ordered.keys_eq otherOrdered fun key => ?_) same
  rw [← contains_eq_true_iff, ← contains_eq_true_iff, contains, contains, same]

theorem sorted_eq_of_perm {others : Entries String α} (shuffled : entries.pairs.Perm others.pairs)
    (ordered : others.Ordered) : entries.sorted = others := by
  refine ordered_sorted.ext ordered fun key => Option.ext fun value => ?_
  rw [get?_sorted, get?_eq_some_iff, get?_eq_some_iff]
  exact shuffled.mem_iff

end Related

end Entries

namespace Value

variable {left right : Value} {x y : Float} {n : Int}

theorem toFloat_bool {value : Bool} (denotes : (bool value).toFloat = .ok x) :
    ofInt? (if value then 1 else 0) = some x := by
  have zero : ofInt? 0 = some 0 := by decide +kernel
  have one : ofInt? 1 = some 1 := by decide +kernel
  have same : (if value then 1 else 0) = x := Except.ok.inj denotes
  rw [← same]
  split
  · exact one
  · exact zero

theorem toFloat_of_integer? (integer : left.integer? = some n) (denotes : left.toFloat = .ok x) :
    ofInt? n = some x := by
  cases left with
  | bool value =>
    cases integer
    exact toFloat_bool denotes
  | int value =>
    cases integer
    rw [toFloat] at denotes
    exact elim_eq_ok.1 denotes
  | _ => cases integer

theorem agrees_text {given : String} (agree : (text given).agrees right = true) : right = text given := by
  cases right <;> simp [agrees, integer?] at agree
  rw [agree]

theorem agrees_float {given : Float} (agree : (float given).agrees right = true) :
    (∃ other, right = float other ∧ (given == other) = true) ∨
      ∃ n, right.integer? = some n ∧ eqInt given n = true := by
  cases right <;> simp_all [agrees, integer?]

theorem agrees_of_integer? (integer : left.integer? = some n) (agree : left.agrees right = true) :
    right.integer? = some n ∨ ∃ other, right = float other ∧ eqInt other n = true := by
  cases left <;> cases right <;> simp_all [agrees, integer?]

/-- Values that agree denote the same number, or two zeros. -/
theorem alikeNumbers_of_agrees (agree : left.agrees right = true) (denotes : left.toFloat = .ok x)
    (otherDenotes : right.toFloat = .ok y) (finite : x.isFinite = true) (otherFinite : y.isFinite = true) :
    AlikeNumbers x y := by
  have whole {n : Int} (integer : left.integer? = some n) : AlikeNumbers x y := by
    have means := toFloat_of_integer? integer denotes
    rcases agrees_of_integer? integer agree with same | ⟨other, rfl, equal⟩
    · exact .inl (Option.some.inj (means.symm.trans (toFloat_of_integer? same otherDenotes)))
    · cases otherDenotes
      exact (alikeNumbers_of_eqInt otherFinite equal means).symm
  cases left with
  | null | list | map => cases denotes
  | bool | int => exact whole rfl
  | text given =>
    cases agrees_text agree
    exact .inl (Except.ok.inj (denotes.symm.trans otherDenotes))
  | float given =>
    cases denotes
    rcases agrees_float agree with ⟨other, rfl, equal⟩ | ⟨n, integer, equal⟩
    · cases otherDenotes
      exact alikeNumbers_of_beq finite otherFinite equal
    · exact alikeNumbers_of_eqInt finite equal (toFloat_of_integer? integer otherDenotes)

theorem agreeEntries_iff {entries others : List (String × Value)} :
    agreeEntries entries others = true ↔
      List.Forall₂ (fun left right => left.1 = right.1 ∧ left.2.agrees right.2 = true) entries others := by
  induction entries generalizing others with
  | nil => cases others <;> simp [agreeEntries]
  | cons entry entries ih => cases others <;> simp [agreeEntries, ih]

end Value

namespace PositiveParameter

/-- Parameters that agree are the same number, since none of them is a zero. -/
theorem value_eq_of_agrees {left right : PositiveParameter} (agree : left.given.agrees right.given = true) :
    left.value = right.value := by
  have alike := Value.alikeNumbers_of_agrees agree left.denotes right.denotes left.finite right.finite
  rcases alike with same | ⟨zero, -⟩
  · exact same
  · exact absurd zero (not_isZero_of_pos left.positive)

end PositiveParameter

namespace Custom

variable {left right : Custom} {name : String}

theorem get?_entries {formula : Custom} {x : Float} (found : formula.entries.get? name = some x) :
    ∃ value, formula.constants.get? name = some value ∧ value.toFloat = .ok x ∧ x.isFinite = true := by
  obtain ⟨isConstant, value, present, denotes⟩ :=
    (checkConstants_ok formula.numbered).2 _ (Entries.get?_eq_some_iff.1 found)
  exact ⟨value, Entries.get?_eq_some_iff.2 present, denotes, isConstant.2⟩

theorem related_entries (related : Entries.Related (fun a b => a.agrees b = true) left.constants right.constants) :
    Entries.Related AlikeNumbers left.entries right.entries := by
  intro name
  have keys : name ∈ left.entries.keys ↔ name ∈ right.entries.keys := by
    rw [keys_entries, keys_entries]
    exact related.mem_keys_iff
  cases found : left.entries.get? name with
  | none =>
    have absent := Entries.get?_eq_none_iff.2 (keys.not.1 (Entries.get?_eq_none_iff.1 found))
    rw [absent]
    exact .none
  | some x =>
    have present : name ∈ right.entries.keys :=
      keys.1 (Entries.contains_eq_true_iff.1 (by rw [Entries.contains, found, Option.isSome_some]))
    obtain ⟨y, foundOther⟩ := Option.isSome_iff_exists.1 (Entries.contains_eq_true_iff.2 present)
    obtain ⟨value, given, denotes, finite⟩ := get?_entries found
    obtain ⟨other, otherGiven, otherDenotes, otherFinite⟩ := get?_entries foundOther
    have agree := related name
    rw [given, otherGiven] at agree
    cases agree with
    | some agree =>
      rw [foundOther]
      exact .some (Value.alikeNumbers_of_agrees agree denotes otherDenotes finite otherFinite)

/-- A constant is zero in both formulas, and has another sign in one than in the other. -/
def SignsDiffer (left right : Custom) : Prop :=
  ∃ name x y, left.entries.get? name = some x ∧ right.entries.get? name = some y ∧
    (x = 0.0 ∧ y = -0.0 ∨ x = -0.0 ∧ y = 0.0)

theorem entries_eq_iff (ordered : left.entries.Ordered) (otherOrdered : right.entries.Ordered)
    (related : Entries.Related AlikeNumbers left.entries right.entries) :
    left.entries = right.entries ↔ ¬ SignsDiffer left right := by
  constructor
  · rintro same ⟨name, x, y, found, foundOther, signs⟩
    rw [← same, found] at foundOther
    cases foundOther
    exact (AlikeNumbers.eq_iff (.inl rfl)).1 rfl signs
  · intro signs
    refine ordered.ext otherOrdered fun name => ?_
    have alike := related name
    generalize found : left.entries.get? name = one at alike ⊢
    generalize foundOther : right.entries.get? name = two at alike ⊢
    cases alike with
    | none => rfl
    | @some x y alike =>
      exact congrArg some (alike.eq_iff.2 fun differ => signs ⟨name, x, y, found, foundOther, differ⟩)

end Custom

namespace Formula

variable {left right : Formula}

/-- Formulas of one kind with equal parameters: numbers are compared by their values, and constants by name, in
whichever order they are given. -/
def Equal : Formula → Formula → Prop
  | exponential a, exponential b =>
    a.baseXp.given.agrees b.baseXp.given = true ∧ a.exponent.given.agrees b.exponent.given = true ∧
      a.maxLevel = b.maxLevel
  | linear a, linear b => a.xpPerLevel = b.xpPerLevel ∧ a.maxLevel = b.maxLevel
  | table a, table b => a.floors = b.floors ∧ a.source = b.source
  | custom a, custom b =>
    a.expression = b.expression ∧ a.maxLevel = b.maxLevel ∧
      Entries.Related (fun value other => value.agrees other = true) a.constants b.constants
  | _, _ => False

/-- The formulas have a constant that is zero in both of them, with different signs. -/
def SignsDiffer : Formula → Formula → Prop
  | custom a, custom b => a.SignsDiffer b
  | _, _ => False

theorem Made.ordered {formula : Custom} (made : Made (.custom formula)) : formula.constants.Ordered := by
  cases made with
  | custom made => exact (Custom.make?_given made).2.1 ▸ Entries.ordered_sorted

/-- Formulas that were made agree just if they are equal. -/
theorem agrees_iff_equal (made : left.Made) (otherMade : right.Made) : left.agrees right = true ↔ left.Equal right := by
  cases left <;> cases right <;> try exact iff_of_false Bool.false_ne_true id
  case exponential.exponential a b => simp [agrees, Exponential.agrees, Equal, and_assoc]
  case linear.linear a b =>
    obtain ⟨step, top, _, _⟩ := a
    obtain ⟨otherStep, otherTop, _, _⟩ := b
    simp [agrees, Equal]
  case table.table a b => simp [agrees, LevelTable.agrees, Equal]
  case custom.custom a b =>
    rw [Equal, made.ordered.related_iff otherMade.ordered, ← Value.agreeEntries_iff]
    simp only [agrees, Custom.agrees, Bool.and_eq_true, beq_iff_eq, and_assoc]
    rw [and_comm (a := a.maxLevel = b.maxLevel)]

/-- Equal formulas have the same parameters but for the signs of zeros. -/
theorem parameters_eq_iff_of_equal (made : left.Made) (otherMade : right.Made) (equal : left.Equal right) :
    left.parameters = right.parameters ↔ ¬ left.SignsDiffer right := by
  cases left <;> cases right <;> try cases equal
  case exponential.exponential.intro a b base rest =>
    obtain ⟨power, top⟩ := rest
    rw [parameters, parameters, PositiveParameter.value_eq_of_agrees base, PositiveParameter.value_eq_of_agrees power,
      top]
    exact iff_of_true rfl id
  case linear.linear.intro a b step top =>
    rw [parameters, parameters, step, top]
    exact iff_of_true rfl id
  case table.table.intro a b floors source =>
    rw [parameters, parameters, source]
    exact iff_of_true rfl id
  case custom.custom.intro a b expression rest =>
    obtain ⟨top, constants⟩ := rest
    rw [parameters, parameters, expression, top]
    simp only [DescribedFormula.custom.injEq, true_and, and_true]
    have ordered := made.ordered.of_keys Custom.keys_entries
    have otherOrdered := otherMade.ordered.of_keys Custom.keys_entries
    exact Custom.entries_eq_iff ordered otherOrdered (Custom.related_entries constants)

end Formula

/-- A migration that finds the descriptor of its formula in the store leaves the store as it is. -/
theorem Migration.Ended.untouched {migration : Migration} {mishaps : Mishaps} {store after : Store}
    {result : Except Fault Result} (ended : Ended migration mishaps store result after)
    (stored : store.readDescriptor = .ok (some migration.descriptor)) : after = store := by
  cases ended with
  | disabled | unchanged | unread | unadopted | refused => rfl
  | adopted absent => cases absent.symm.trans stored
  | unrecorded due | migrated due =>
    exact absurd (Option.some.inj (Except.ok.inj (due.stored.symm.trans stored))) due.differs

namespace Formula

variable {left right : Formula}

/-- Equal formulas have equal descriptors, unless a constant that is zero in both has another sign in one than in the
other. That formulas agree means that they are equal: of one kind, with numbers of the same values, and the same
constants in any order. If their descriptors are equal, then a migration to the one formula of a store whose XP was made
by the other leaves the store as it is. -/
theorem described_alike_iff (made : left.Made) (otherMade : right.Made) :
    (left.agrees right = true ↔ left.Equal right) ∧
    (left.Equal right → (Descriptor.describe left = .describe right ↔ ¬ left.SignsDiffer right)) ∧
    (left.Equal right → ¬ left.SignsDiffer right →
      ∀ (migration : Migration) (mishaps : Migration.Mishaps) (store : Store), migration.formula = right →
        store.readDescriptor = .ok (some (.describe left)) → (migration.run mishaps store).store = store) := by
  have described (equal : left.Equal right) := describe_eq_iff.trans (parameters_eq_iff_of_equal made otherMade equal)
  refine ⟨agrees_iff_equal made otherMade, described, fun equal signs migration mishaps store formula stored => ?_⟩
  have same : Descriptor.describe left = migration.descriptor := by
    rw [Migration.descriptor, formula]
    exact (described equal).2 signs
  exact (Migration.run_ended migration mishaps store).untouched (same ▸ stored)

theorem exists_custom {expression : String} {constants : Entries String Value} {all numbers : List (String × Float)}
    {floor : Int} (notEmpty : (checkNotEmpty expression).toOption = some ())
    (given : (checkConstants levelName constants.pairs).toOption = some all)
    (numbered : (checkConstants levelName constants.sorted.pairs).toOption = some numbers)
    (second : ((compileOver expression levelName numbers).toOption.bind fun term =>
      (expressionFloor expression term 2).toOption) = some floor) (positive : 0 < floor) :
    ∃ formula, Custom.make? expression constants (.int 2) = .ok formula ∧ formula.expression = expression ∧
      formula.constants = constants.sorted ∧ formula.numbers = numbers ∧ formula.maxLevel = 2 := by
  obtain ⟨term, compiled, computed⟩ := Option.bind_eq_some_iff.1 second
  have rises : Curve.check (expressionFloor expression term) 2 = .ok () := by
    rw [Curve.check, Curve.checkFrom, if_pos le_rfl, toOption_eq_some.1 computed]
    dsimp only
    rw [if_neg (by omega), Curve.checkFrom, if_neg (by decide)]
  exact ⟨_, Custom.make?_of_checked (by decide) (toOption_eq_some.1 notEmpty) (toOption_eq_some.1 given)
    (toOption_eq_some.1 numbered) (toOption_eq_some.1 compiled) rises, rfl, rfl, rfl, rfl⟩

theorem described_alike_iff_two_constants :
    ∃ left right, Custom.make? "a*level+b" (.ofList [("a", .int 100), ("b", .float 2)]) (.int 2) = .ok left ∧
      Custom.make? "a*level+b" (.ofList [("b", .int 2), ("a", .float 100)]) (.int 2) = .ok right ∧
      (custom left).agrees (.custom right) = true ∧
      Descriptor.describe (.custom left) = .describe (.custom right) := by
  let given : Entries String Value := .ofList [("a", .int 100), ("b", .float 2)]
  let other : Entries String Value := .ofList [("b", .int 2), ("a", .float 100)]
  let arranged : Entries String Value := .ofList [("a", .float 100), ("b", .int 2)]
  have ordered : given.Ordered := List.pairwise_pair.2 (by decide)
  have sorted : other.sorted = arranged :=
    Entries.sorted_eq_of_perm (.swap _ _ _) (List.pairwise_pair.2 (by decide))
  have notEmpty : (checkNotEmpty "a*level+b").toOption = some () := by decide +kernel
  have second : ((compileOver "a*level+b" levelName [("a", 100), ("b", 2)]).toOption.bind fun term =>
      (expressionFloor "a*level+b" term 2).toOption) = some 202 := by decide +kernel
  have checked : (checkConstants levelName given.pairs).toOption = some [("a", 100), ("b", 2)] := by decide +kernel
  have otherChecked : (checkConstants levelName other.pairs).toOption = some [("b", 2), ("a", 100)] := by decide +kernel
  have numbered : (checkConstants levelName arranged.pairs).toOption = some [("a", 100), ("b", 2)] := by decide +kernel
  obtain ⟨left, make, expression, constants, numbers, top⟩ :=
    exists_custom notEmpty checked (ordered.sorted_eq.symm ▸ checked) second (by decide)
  obtain ⟨right, otherMake, otherExpression, otherConstants, otherNumbers, otherTop⟩ :=
    exists_custom notEmpty otherChecked (sorted.symm ▸ numbered) second (by decide)
  have agree : (custom left).agrees (.custom right) = true := by
    rw [agrees, Custom.agrees, expression, otherExpression, constants, otherConstants, top, otherTop, sorted,
      ordered.sorted_eq]
    decide +kernel
  have signs : ¬ (custom left).SignsDiffer (.custom right) := by
    rintro ⟨name, x, y, found, -, zero⟩
    have member : (name, x) ∈ left.numbers := Entries.get?_eq_some_iff.1 found
    rw [numbers] at member
    have nonzero : ∀ constant ∈ [("a", (100 : Float)), ("b", 2)], ¬ (constant.2 = 0.0 ∨ constant.2 = -0.0) := by
      decide +kernel
    exact nonzero _ member (zero.imp And.left And.left)
  obtain ⟨equal, described, -⟩ := described_alike_iff (.custom make) (.custom otherMake)
  exact ⟨left, right, make, otherMake, agree, (described (equal.1 agree)).2 signs⟩

/-- Two formulas whose constant is zero are equal, and their descriptors are not. -/
theorem described_differently :
    ∃ left right, Custom.make? "k+100*level" (.ofList [("k", .float 0.0)]) (.int 2) = .ok left ∧
      Custom.make? "k+100*level" (.ofList [("k", .float (-0.0))]) (.int 2) = .ok right ∧
      (custom left).agrees (.custom right) = true ∧
      Descriptor.describe (.custom left) ≠ .describe (.custom right) := by
  let positive : Entries String Value := .ofList [("k", .float 0.0)]
  let negative : Entries String Value := .ofList [("k", .float (-0.0))]
  have ordered : positive.sorted = positive := Entries.Ordered.sorted_eq (List.pairwise_singleton _ _)
  have otherOrdered : negative.sorted = negative := Entries.Ordered.sorted_eq (List.pairwise_singleton _ _)
  have notEmpty : (checkNotEmpty "k+100*level").toOption = some () := by decide +kernel
  have checked : (checkConstants levelName positive.pairs).toOption = some [("k", 0.0)] := by decide +kernel
  have otherChecked : (checkConstants levelName negative.pairs).toOption = some [("k", -0.0)] := by decide +kernel
  have second : ((compileOver "k+100*level" levelName [("k", 0.0)]).toOption.bind fun term =>
      (expressionFloor "k+100*level" term 2).toOption) = some 200 := by decide +kernel
  have otherSecond : ((compileOver "k+100*level" levelName [("k", -0.0)]).toOption.bind fun term =>
      (expressionFloor "k+100*level" term 2).toOption) = some 200 := by decide +kernel
  obtain ⟨left, make, expression, constants, numbers, top⟩ :=
    exists_custom notEmpty checked (ordered.symm ▸ checked) second (by decide)
  obtain ⟨right, otherMake, otherExpression, otherConstants, otherNumbers, otherTop⟩ :=
    exists_custom notEmpty otherChecked (otherOrdered.symm ▸ otherChecked) otherSecond (by decide)
  have agree : (custom left).agrees (.custom right) = true := by
    rw [agrees, Custom.agrees, expression, otherExpression, constants, otherConstants, top, otherTop, ordered,
      otherOrdered]
    decide +kernel
  refine ⟨left, right, make, otherMake, agree, fun same => ?_⟩
  have entries := (DescribedFormula.custom.inj (parameters_of_describe same)).2.1
  have zeros : left.numbers = right.numbers := congrArg Entries.pairs entries
  rw [numbers, otherNumbers] at zeros
  exact absurd zeros (by decide +kernel)

end Formula

end Progression
