import Progression.Proofs.Arithmetic
import Progression.Proofs.Escapes

namespace Progression

open Number Text Expression

variable {writable : String → Bool}

namespace Expression

/-- A refusal that is told of a source text: a fault of configuration that shows no integer, and syntax of no other text. -/
structure Refusal.ToldOf (source : String) (refusal : Refusal) : Prop where
  configuration : refusal.kind = .configuration
  whole : refusal.integers = []
  piece : refusal.piece? = none ∨ refusal.piece? = some source

theorem Refusal.ToldOf.escapes_iff {source : String} {refusal : Refusal} (told : refusal.ToldOf source) :
    (FormulaFault.refused refusal).raised writable ≠ .configuration ↔
      refusal.piece? = some source ∧ writable source = false := by
  have shown : ∀ n ∈ (FormulaFault.refused refusal).integers, Displayable n := by
    rw [FormulaFault.integers, told.whole]
    exact List.forall_mem_nil _
  constructor
  · intro escapes
    rcases told.piece with none | piece
    · have whole : (FormulaFault.refused refusal).piece? = Option.none := none
      exact absurd ((FormulaFault.raised_of_displayable whole shown).trans told.configuration) escapes
    · refine ⟨piece, Bool.eq_false_of_not_eq_true fun written => ?_⟩
      have tellable : (FormulaFault.refused refusal).Tellable writable := by
        refine ⟨shown, ?_⟩
        rw [FormulaFault.piece?, piece]
        simpa using written
      exact escapes ((if_pos tellable).trans told.configuration)
  · rintro ⟨piece, unwritable⟩
    exact FormulaFault.raised_of_unwritable piece unwritable

section Refused

variable {scope : Scope} {refusal : Refusal}

mutual

theorem Tree.toldOf_of_error : (tree : Tree) → tree.term? scope = .error refusal → refusal.ToldOf scope.source
  | .literal value => by
    intro refused
    cases value with
    | int | float => simp [Tree.term?] at refused
    | _ =>
      rw [Tree.term?] at refused
      · cases refused
        exact ⟨rfl, rfl, .inl rfl⟩
      all_goals simp
  | .name text => by
    intro refused
    rw [Tree.term?] at refused
    split at refused
    · cases refused
    · split at refused
      · cases refused
      · cases refused
        exact ⟨rfl, rfl, .inl rfl⟩
  | .signed negative operand => by
    intro refused
    rw [Tree.term?] at refused
    rcases bind_eq_error.1 refused with refused | ⟨term, -, refused⟩
    · exact operand.toldOf_of_error refused
    · cases refused
  | .binary operator left right => by
    intro refused
    rw [Tree.term?] at refused
    rcases bind_eq_error.1 refused with refused | ⟨first, -, refused⟩
    · exact left.toldOf_of_error refused
    · rcases bind_eq_error.1 refused with refused | ⟨second, -, refused⟩
      · exact right.toldOf_of_error refused
      · cases refused
  | .call callee arguments keywords => by
    intro refused
    cases callee with
    | name callee =>
      rw [Tree.term?] at refused
      split at refused
      · cases refused
        exact ⟨rfl, rfl, .inl rfl⟩
      · split at refused
        · cases refused
          exact ⟨rfl, rfl, .inl rfl⟩
        · rcases bind_eq_error.1 refused with refused | ⟨terms, -, refused⟩
          · exact toldOf_of_terms?_error arguments refused
          · cases refused
    | _ =>
      rw [Tree.term?] at refused
      · cases refused
        exact ⟨rfl, rfl, .inr rfl⟩
      all_goals simp
  | .other assignable => by
    intro refused
    rw [Tree.term?] at refused
    cases refused
    exact ⟨rfl, rfl, .inr rfl⟩

theorem toldOf_of_terms?_error : (trees : List Tree) → terms? scope trees = .error refusal →
    refusal.ToldOf scope.source
  | [] => by
    intro refused
    rw [terms?] at refused
    cases refused
  | first :: rest => by
    intro refused
    rw [terms?] at refused
    rcases bind_eq_error.1 refused with refused | ⟨term, -, refused⟩
    · exact first.toldOf_of_error refused
    · rcases bind_eq_error.1 refused with refused | ⟨terms, -, refused⟩
      · exact toldOf_of_terms?_error rest refused
      · cases refused

end

end Refused

variable {source unknown : String} {numbers : List (String × Float)} {pairs : List (String × Value)}
  {constants : Entries String Value} {refusal : Refusal}

theorem toldOf_of_compileOver_error (refused : compileOver source unknown numbers = .error refusal) :
    refusal.ToldOf source := by
  rw [compileOver] at refused
  split at refused
  · cases refused
    exact ⟨rfl, rfl, .inl rfl⟩
  · split at refused
    · cases refused
      exact ⟨rfl, rfl, .inl rfl⟩
    · rename_i tree found
      exact tree.toldOf_of_error refused

/-- Constants are refused for the first of them that is not fit. -/
theorem checkConstants_eq_error_iff :
    checkConstants unknown pairs = .error refusal ↔ ∃ before name value after fault,
      pairs = before ++ (name, value) :: after ∧ (∀ earlier ∈ before, FitConstant unknown earlier) ∧
        checkConstant unknown name value = .error fault ∧ refusal = .constant name fault := by
  induction pairs with
  | nil => simp [checkConstants]
  | cons constant rest ih =>
    obtain ⟨name, value⟩ := constant
    rw [checkConstants]
    cases checked : checkConstant unknown name value with
    | error fault =>
      constructor
      · rintro ⟨⟩
        exact ⟨[], name, value, rest, fault, rfl, List.forall_mem_nil _, checked, rfl⟩
      · rintro ⟨before, other, given, after, cause, split, fit, failed, rfl⟩
        cases before with
        | nil =>
          cases split
          cases checked.symm.trans failed
          rfl
        | cons first before =>
          cases split
          obtain ⟨number, passed⟩ := fitConstant_iff.1 (List.forall_mem_cons.1 fit).1
          cases checked.symm.trans passed
    | ok number =>
      have fits : FitConstant unknown (name, value) := fitConstant_iff.2 ⟨number, checked⟩
      dsimp only
      rw [bind_eq_error, ih]
      constructor
      · rintro (⟨before, other, given, after, cause, rfl, fit, failed, rfl⟩ | ⟨numbers, -, failed⟩)
        · have all := List.forall_mem_cons.2 ⟨fits, fit⟩
          exact ⟨(name, value) :: before, other, given, after, cause, rfl, all, failed, rfl⟩
        · cases failed
      · rintro ⟨before, other, given, after, cause, split, fit, failed, rfl⟩
        cases before with
        | nil =>
          cases split
          cases checked.symm.trans failed
        | cons first before =>
          cases split
          exact .inl ⟨before, other, given, after, cause, rfl, (List.forall_mem_cons.1 fit).2, failed, rfl⟩

section Constant

variable {name : String} {value : Value} {fault : ConstantFault}

theorem checkConstant_of_tooLarge (free : FreeName unknown name) (large : value.toFloat = .error .tooLarge) :
    checkConstant unknown name value = .error .tooLarge := by
  obtain ⟨identifier, unreserved⟩ := freeName_iff.1 free
  rw [checkConstant, if_neg (by simp [identifier]), if_neg unreserved, large]

theorem raised_of_checkConstant_error (plain : value.IsPlain) (failed : checkConstant unknown name value = .error fault) :
    (FreeName unknown name ∧ value.toFloat = .error .tooLarge) ∨
      (FormulaFault.refused (.constant name fault)).raised writable = .configuration := by
  have silent (value : Value) (none : value.integers = []) : ∀ n ∈ value.integers, Displayable n := by
    rw [none]
    exact List.forall_mem_nil _
  rw [checkConstant] at failed
  split at failed
  · cases failed
    exact .inr (FormulaFault.raised_of_displayable rfl (List.forall_mem_nil _))
  · rename_i identifier
    split at failed
    · cases failed
      exact .inr (FormulaFault.raised_of_displayable rfl (List.forall_mem_nil _))
    · rename_i unreserved
      split at failed
      · rename_i large
        exact .inl ⟨freeName_iff.2 ⟨by simpa using identifier, unreserved⟩, large⟩
      · rename_i reason other refused
        cases failed
        rcases Value.toFloat_cases plain with ⟨x, denotes⟩ | large | ⟨-, none, -⟩
        · cases refused.symm.trans denotes
        · cases refused.symm.trans large
          exact absurd rfl other
        · exact .inr (FormulaFault.raised_of_displayable rfl (silent value none))
      · rename_i number denotes
        split at failed
        · cases failed
        · cases failed
          exact .inr (FormulaFault.raised_of_displayable rfl (Value.displayable_of_toFloat plain denotes))

end Constant

theorem lookup_of_checkConstants (checked : checkConstants unknown pairs = .ok numbers) (name : String) :
    numbers.lookup name = (pairs.lookup name).bind fun value => value.toFloat.toOption := by
  induction pairs generalizing numbers with
  | nil =>
    cases checked
    rfl
  | cons constant rest ih =>
    obtain ⟨written, value⟩ := constant
    rw [checkConstants] at checked
    split at checked
    · cases checked
    · rename_i number passed
      obtain ⟨others, checkedOthers, checked⟩ := bind_eq_ok.1 checked
      cases checked
      obtain ⟨-, -, denotes, -⟩ := checkConstant_eq_ok.1 passed
      rw [List.lookup_cons, List.lookup_cons, ih checkedOthers]
      cases name == written with
      | true => rw [Option.bind_some, denotes]; rfl
      | false => rfl

theorem exists_checkConstants_sorted (checked : ∃ numbers, checkConstants unknown constants.pairs = .ok numbers) :
    ∃ numbers, checkConstants unknown constants.sorted.pairs = .ok numbers := by
  rw [exists_checkConstants_iff] at checked ⊢
  intro constant member
  exact checked constant ((List.mergeSort_perm _ _).mem_iff.1 member)

/-- In whichever order constants come, the same is refused. -/
theorem compileOver_sorted {sorted : List (String × Float)} (checked : checkConstants unknown constants.pairs = .ok numbers)
    (ordered : checkConstants unknown constants.sorted.pairs = .ok sorted) :
    compileOver source unknown sorted = compileOver source unknown numbers := by
  refine compileOver_congr fun name => ?_
  rw [lookup_of_checkConstants checked, lookup_of_checkConstants ordered, Entries.lookup_pairs, Entries.lookup_pairs,
    Entries.get?_sorted]

/-- What refuses an expression is no fault of configuration if the first constant that is not fit is too large, or if a piece
of the source text is to be shown that cannot be written. -/
theorem compile_escapes_iff (plain : ∀ constant ∈ constants.pairs, constant.2.IsPlain) :
    (∃ refusal, compile source unknown constants = .error refusal ∧
      (FormulaFault.refused refusal).raised writable ≠ .configuration) ↔ checkNotEmpty source = .ok () ∧
      ((∃ before name value after, constants.pairs = before ++ (name, value) :: after ∧
        (∀ earlier ∈ before, FitConstant unknown earlier) ∧ FreeName unknown name ∧ value.toFloat = .error .tooLarge) ∨
      ∃ refusal, compile source unknown constants = .error refusal ∧ refusal.piece? = some source ∧
        writable source = false) := by
  constructor
  · rintro ⟨refusal, refused, escapes⟩
    rcases bind_eq_error.1 refused with empty | ⟨notEmpty, found, failed⟩
    · rw [checkNotEmpty] at empty
      split at empty
      · cases empty
        exact absurd (FormulaFault.raised_of_displayable rfl (List.forall_mem_nil _)) escapes
      · cases empty
    · refine ⟨found, ?_⟩
      rcases bind_eq_error.1 failed with failed | ⟨numbers, checked, failed⟩
      · obtain ⟨before, name, value, after, fault, split, fit, unfit, rfl⟩ := checkConstants_eq_error_iff.1 failed
        have member : (name, value) ∈ constants.pairs := split ▸ List.mem_append_right _ (List.mem_cons_self ..)
        obtain ⟨free, large⟩ := (raised_of_checkConstant_error (plain _ member) unfit).resolve_right escapes
        exact .inl ⟨before, name, value, after, split, fit, free, large⟩
      · obtain ⟨piece, unwritable⟩ := (toldOf_of_compileOver_error failed).escapes_iff.1 escapes
        exact .inr ⟨refusal, refused, piece, unwritable⟩
  · rintro ⟨found, ⟨before, name, value, after, split, fit, free, large⟩ | ⟨refusal, refused, piece, unwritable⟩⟩
    · have unfit := checkConstants_eq_error_iff.2
        ⟨before, name, value, after, .tooLarge, split, fit, checkConstant_of_tooLarge free large, rfl⟩
      have other : FaultKind.overflow ≠ .configuration := by decide
      refine ⟨.constant name .tooLarge, ?_, FormulaFault.raised_ne_configuration other⟩
      rw [compile, found, unfit]
      rfl
    · exact ⟨refusal, refused, FormulaFault.raised_of_unwritable piece unwritable⟩

end Expression

namespace Custom

variable {expression : String} {constants : Entries String Value} {top : Int}

theorem make?_staged {maxLevel : Value} : (make? expression constants maxLevel).map (fun _ => ()) = (do
    let limit ← checkMaxLevel maxLevel
    let term ← (compile expression levelName constants).mapError .refused
    (Curve.check (expressionFloor expression term) limit.1).mapError (.ofCurve (.custom expression))) := by
  -- The formula keeps proofs of its stages, so that the other side is named before they are split.
  obtain ⟨outcome, compiled⟩ : ∃ outcome, compile expression levelName constants = outcome := ⟨_, rfl⟩
  rw [compiled, make?]
  rw [compile] at compiled
  cases checkMaxLevel maxLevel with
  | error fault => rfl
  | ok limit =>
    simp only [bind, Except.bind] at compiled ⊢
    split
    · rename_i refusal empty
      rw [empty] at compiled
      cases compiled
      rfl
    · rename_i found
      rw [found] at compiled
      cases checked : checkConstants levelName constants.pairs with
      | error refusal =>
        rw [checked] at compiled
        cases compiled
        rfl
      | ok numbers =>
        rw [checked] at compiled
        dsimp only at compiled
        rw [mapError_ok]
        dsimp only
        split
        · rename_i refusal failed
          obtain ⟨sorted, passed⟩ := exists_checkConstants_sorted ⟨numbers, checked⟩
          cases failed.symm.trans passed
        · rename_i sorted ordered
          rw [← compileOver_sorted checked ordered] at compiled
          split
          · rename_i refusal failed
            cases compiled.symm.trans failed
            rfl
          · rename_i term passed
            cases compiled.symm.trans passed
            rw [mapError_ok]
            dsimp only
            split
            · rename_i fault failed
              rw [failed]
              rfl
            · rename_i passed
              change Except.ok () = _
              rw [passed, mapError_ok]

/-- A custom formula fails otherwise than by a fault of configuration if what refuses its expression is none. -/
theorem escapes_iff {top : Int} (shown : Displayable top) :
    Escapes writable (make? expression constants (.int top)) ↔ 1 ≤ top ∧ ∃ refusal,
      compile expression levelName constants = .error refusal ∧
        (FormulaFault.refused refusal).raised writable ≠ .configuration := by
  rw [← escapes_map fun _ => (), make?_staged, escapes_bind]
  constructor
  · rintro (escapes | ⟨⟨limit, positive⟩, accepted, escapes⟩)
    · exact absurd escapes (not_escapes_checkMaxLevel shown)
    · have same : top = limit := Value.int.inj (checkMaxLevel_ok accepted)
      refine ⟨by omega, ?_⟩
      rcases escapes_bind.1 escapes with ⟨fault, failed, escapes⟩ | ⟨term, -, fault, failed, escapes⟩
      · obtain ⟨refusal, refused, rfl⟩ := mapError_eq_error.1 failed
        exact ⟨refusal, refused, escapes⟩
      · obtain ⟨cause, found, rfl⟩ := mapError_eq_error.1 failed
        refine absurd ?_ escapes
        exact raised_ofCurve (List.forall_mem_nil _) (same ▸ shown) (fun _ _ => expressionFloor_inRange)
          (fun _ _ => expressionFloor_error) found
  · rintro ⟨positive, refusal, refused, escapes⟩
    obtain ⟨limit, accepted⟩ := checkMaxLevel_of_pos positive
    refine .inr ⟨limit, accepted, escapes_bind.2 (.inl ⟨.refused refusal, ?_, escapes⟩)⟩
    exact mapError_eq_error.2 ⟨refusal, refused, rfl⟩

end Custom

/-- The ways in which parameters lead to a fault that is none of configuration, whatever pieces of syntax can be written.
An exponential formula meets them if a number is too large and those before it are finite and above zero, a linear formula
never, and a table if the floors that its message shows have too many digits: the first, or those of the first level where
they do not rise. A custom formula that has a level and an expression meets them if the first constant that is not fit
has a free name and is too large, or if a part of its expression is no arithmetic and cannot be written in the message.
Whatever else is wrong is a fault of configuration, at any level of a curve. -/
theorem constructors_escape_iff (writable : String → Bool) :
    (∀ baseXp exponent top, baseXp.isNumber = true → exponent.isNumber = true → Displayable top →
      (Escapes writable (Exponential.make? baseXp exponent (.int top)) ↔ baseXp.toFloat = .error .tooLarge ∨
        (∃ x, baseXp.toFloat = .ok x ∧ x.isFinite = true ∧ 0 < x) ∧ exponent.toFloat = .error .tooLarge)) ∧
    (∀ xpPerLevel top, Displayable xpPerLevel → Displayable top →
      ¬ Escapes writable (Linear.make? (.int xpPerLevel) (.int top))) ∧
    (∀ floors source, Escapes writable (LevelTable.make? floors source) ↔ 1 ≤ floors.size ∧
      (¬ Displayable (listedFloor floors 1) ∨ listedFloor floors 1 = 0 ∧
        ∃ level, Curve.FirstFall (listedFloor floors) 2 floors.size level ∧ ¬ (Displayable level ∧
          Displayable (listedFloor floors level) ∧ Displayable (listedFloor floors (level - 1))))) ∧
    (∀ expression (constants : Entries String Value) top, (∀ constant ∈ constants.pairs, constant.2.IsPlain) →
      Displayable top → (Escapes writable (Custom.make? expression constants (.int top)) ↔
        1 ≤ top ∧ checkNotEmpty expression = .ok () ∧
          ((∃ before name value after, constants.pairs = before ++ (name, value) :: after ∧
            (∀ earlier ∈ before, FitConstant levelName earlier) ∧ FreeName levelName name ∧
              value.toFloat = .error .tooLarge) ∨
          ∃ refusal, compile expression levelName constants = .error refusal ∧ refusal.piece? = some expression ∧
            writable expression = false))) := by
  refine ⟨?_, ?_, ?_, ?_⟩
  · intro baseXp exponent top base power shown
    exact Exponential.escapes_iff base power shown
  · intro xpPerLevel top step shown
    exact Linear.not_escapes step shown
  · intro floors source
    exact LevelTable.escapes_iff
  · intro expression constants top plain shown
    rw [Custom.escapes_iff shown, compile_escapes_iff plain]

/-- An integer past the finite range. -/
def pastRange : Value := .int (.ofNat (Nat.pow 10 400))

theorem toFloat_pastRange : pastRange.toFloat = .error .tooLarge := by decide +kernel

/-- An exponent past the finite range, and such a constant, are no faults of configuration. -/
theorem constructors_escape_past_range :
    Escapes (fun _ => true) (Exponential.make? (.int 100) pastRange (.int 10)) ∧
      ¬ Escapes (fun _ => true) (Linear.make? (.int 100) (.int 10)) ∧
      Escapes (fun _ => true) (Custom.make? "k*level" ⟨[("k", pastRange)], by decide⟩ (.int 10)) := by
  obtain ⟨exponential, linear, -, custom⟩ := constructors_escape_iff fun _ => true
  have ten : Displayable 10 := by decide +kernel
  have hundred : Displayable 100 := by decide +kernel
  have plain : ∀ constant ∈ [("k", pastRange)], constant.2.IsPlain := by
    rw [List.forall_mem_singleton]
    exact .inl rfl
  have base : ∃ x, (Value.int 100).toFloat = .ok x ∧ x.isFinite = true ∧ 0 < x :=
    ⟨100, by decide +kernel, by decide +kernel, by decide +kernel⟩
  have free : FreeName levelName "k" := ⟨by decide +kernel, by decide, by decide⟩
  refine ⟨(exponential _ _ 10 rfl rfl ten).2 (.inr ⟨base, toFloat_pastRange⟩), linear 100 10 hundred ten, ?_⟩
  refine (custom _ _ 10 plain ten).2 ⟨by decide, if_neg (by decide +kernel), .inl ?_⟩
  exact ⟨[], "k", pastRange, [], rfl, List.forall_mem_nil _, free, toFloat_pastRange⟩

/-- A parameter that must be a finite number is not refused as one that is none if it is an integer past the finite range. -/
theorem Exponential.huge_base_escapes :
    Escapes (fun _ => true) (make? pastRange (.float 1.7) (.int 10)) := by
  have ten : Displayable 10 := by decide +kernel
  exact (escapes_iff rfl rfl ten).2 (.inl toFloat_pastRange)

end Progression
