import Progression.Proofs.Descriptor
import Progression.Proofs.Wholes

namespace Progression

namespace Expression

open Number Text

/-- A tree is arithmetic over an unknown and the names of constants. -/
inductive Arithmetic (unknown : String) (names : List String) : Tree → Prop
  | int (value : Nat) : Arithmetic unknown names (.literal (.int value))
  | float (value : Float) : Arithmetic unknown names (.literal (.float value))
  | unknown : Arithmetic unknown names (.name unknown)
  | constant {name : String} (declared : name ∈ names) : Arithmetic unknown names (.name name)
  | signed (negative : Bool) {operand : Tree} (inner : Arithmetic unknown names operand) :
    Arithmetic unknown names (.signed negative operand)
  | binary (operator : Operator) {left right : Tree} (first : Arithmetic unknown names left)
    (second : Arithmetic unknown names right) : Arithmetic unknown names (.binary operator left right)
  | call (function : Function) {arguments : List Tree} (some : arguments ≠ [])
    (each : ∀ argument ∈ arguments, Arithmetic unknown names argument) :
    Arithmetic unknown names (.call (.name function.name) arguments false)

theorem Function.ofName?_name (function : Function) : Function.ofName? function.name = some function := by
  cases function <;> decide

theorem Function.ofName?_eq_some {text : String} {function : Function} :
    Function.ofName? text = some function ↔ text = function.name := by
  constructor
  · intro found
    have named := List.find?_some found
    exact (of_decide_eq_true named).symm
  · rintro rfl
    exact function.ofName?_name

theorem exists_lookup_iff {name : String} {constants : List (String × Float)} :
    (∃ value, constants.lookup name = some value) ↔ name ∈ constants.map Prod.fst := by
  rw [← Option.isSome_iff_exists, List.lookup_isSome_iff]
  simp

/-- A relation of trees to terms holds of each form of arithmetic that is over a scope once it holds of its parts. -/
structure Scope.Hereditary (scope : Scope) (holds : Tree → Term → Prop) : Prop where
  int (value : Nat) : holds (.literal (.int value)) (.int value)
  float (value : Float) : holds (.literal (.float value)) (.float value)
  unknown : holds (.name scope.unknown) .unknown
  constant {name : String} {value : Float} (other : name ≠ scope.unknown)
    (found : scope.constants.lookup name = some value) : holds (.name name) (.constant name value)
  signed (negative : Bool) {operand : Tree} {term : Term} (inner : holds operand term) :
    holds (.signed negative operand) (.signed negative term)
  binary (operator : Operator) {left right : Tree} {first second : Term} (holdsLeft : holds left first)
    (holdsRight : holds right second) : holds (.binary operator left right) (.binary operator first second)
  call (function : Function) {arguments : List Tree} {terms : List Term} (some : arguments ≠ [])
    (each : List.Forall₂ holds arguments terms) :
    holds (.call (.name function.name) arguments false) (.call function terms)

section Acceptance

variable {scope : Scope}

section Induction

variable {holds : Tree → Term → Prop}

mutual

/-- Induction along an accepted tree: what is hereditary holds of it and its term. -/
theorem Scope.Hereditary.tree (forms : scope.Hereditary holds) :
    (tree : Tree) → (term : Term) → tree.term? scope = .ok term → holds tree term
  | .literal value => by
    intro term accepted
    cases value with
    | int value =>
      rw [Tree.term?] at accepted
      cases accepted
      exact forms.int value
    | float value =>
      rw [Tree.term?] at accepted
      cases accepted
      exact forms.float value
    | _ => simp [Tree.term?] at accepted
  | .name text => by
    intro term accepted
    rw [Tree.term?] at accepted
    split at accepted
    · rename_i same
      cases accepted
      exact same ▸ forms.unknown
    · rename_i other
      split at accepted
      · rename_i value found
        cases accepted
        exact forms.constant other found
      · cases accepted
  | .signed negative operand => by
    intro term accepted
    rw [Tree.term?] at accepted
    obtain ⟨inner, acceptedInner, accepted⟩ := bind_eq_ok.1 accepted
    cases accepted
    exact forms.signed negative (forms.tree operand inner acceptedInner)
  | .binary operator left right => by
    intro term accepted
    rw [Tree.term?] at accepted
    obtain ⟨first, acceptedFirst, accepted⟩ := bind_eq_ok.1 accepted
    obtain ⟨second, acceptedSecond, accepted⟩ := bind_eq_ok.1 accepted
    cases accepted
    exact forms.binary operator (forms.tree left first acceptedFirst) (forms.tree right second acceptedSecond)
  | .call callee arguments keywords => by
    intro term accepted
    cases callee with
    | name callee =>
      rw [Tree.term?] at accepted
      split at accepted
      · cases accepted
      · rename_i function found
        obtain rfl := Function.ofName?_eq_some.1 found
        split at accepted
        · cases accepted
        · rename_i positional
          rw [not_or, Bool.not_eq_true, List.isEmpty_iff] at positional
          obtain ⟨terms, acceptedAll, accepted⟩ := bind_eq_ok.1 accepted
          cases accepted
          rw [positional.1]
          exact forms.call function positional.2 (forms.trees arguments terms acceptedAll)
    | _ => simp [Tree.term?] at accepted
  | .other assignable => by
    intro term accepted
    simp [Tree.term?] at accepted

theorem Scope.Hereditary.trees (forms : scope.Hereditary holds) :
    (trees : List Tree) → (terms : List Term) → terms? scope trees = .ok terms → List.Forall₂ holds trees terms
  | [] => by
    intro terms accepted
    rw [terms?] at accepted
    cases accepted
    exact .nil
  | first :: rest => by
    intro terms accepted
    rw [terms?] at accepted
    obtain ⟨term, acceptedFirst, accepted⟩ := bind_eq_ok.1 accepted
    obtain ⟨others, acceptedRest, accepted⟩ := bind_eq_ok.1 accepted
    cases accepted
    exact .cons (forms.tree first term acceptedFirst) (forms.trees rest others acceptedRest)

end

end Induction

theorem exists_right_of_forall₂ {α β : Type} {related : α → β → Prop} {lefts : List α} {rights : List β}
    (each : List.Forall₂ related lefts rights) : ∀ left ∈ lefts, ∃ right ∈ rights, related left right := by
  induction each with
  | nil => exact List.forall_mem_nil _
  | @cons left right lefts rights first _ ih =>
    rw [List.forall_mem_cons]
    refine ⟨⟨right, List.mem_cons_self .., first⟩, fun other member => ?_⟩
    obtain ⟨found, present, together⟩ := ih other member
    exact ⟨found, List.mem_cons_of_mem _ present, together⟩

theorem hereditary_arithmetic :
    scope.Hereditary fun tree _ => Arithmetic scope.unknown (scope.constants.map Prod.fst) tree where
  int := .int
  float := .float
  unknown := .unknown
  constant _ found := .constant (exists_lookup_iff.1 ⟨_, found⟩)
  signed negative _ _ inner := .signed negative inner
  binary operator _ _ _ _ left right := .binary operator left right
  call function _ _ some each := by
    refine .call function some fun argument member => ?_
    obtain ⟨-, -, arithmetic⟩ := exists_right_of_forall₂ each argument member
    exact arithmetic

theorem exists_terms?_of_each {trees : List Tree} (each : ∀ tree ∈ trees, ∃ term, tree.term? scope = .ok term) :
    ∃ terms, terms? scope trees = .ok terms := by
  induction trees with
  | nil => exact ⟨[], by rw [terms?]⟩
  | cons first rest ih =>
    obtain ⟨⟨term, accepted⟩, acceptedRest⟩ := List.forall_mem_cons.1 each
    obtain ⟨terms, acceptedAll⟩ := ih acceptedRest
    refine ⟨term :: terms, ?_⟩
    rw [terms?, accepted, acceptedAll]
    rfl

theorem Arithmetic.exists_term? {tree : Tree}
    (arithmetic : Arithmetic scope.unknown (scope.constants.map Prod.fst) tree) :
    ∃ term, tree.term? scope = .ok term := by
  induction arithmetic with
  | int value => exact ⟨.int value, by rw [Tree.term?]⟩
  | float value => exact ⟨.float value, by rw [Tree.term?]⟩
  | unknown => exact ⟨.unknown, by rw [Tree.term?, if_pos rfl]⟩
  | @constant name declared =>
    obtain ⟨value, found⟩ := exists_lookup_iff.2 declared
    rw [Tree.term?]
    by_cases same : name = scope.unknown
    · exact ⟨.unknown, if_pos same⟩
    · refine ⟨.constant name value, ?_⟩
      rw [if_neg same, found]
  | signed negative _ ih =>
    obtain ⟨term, accepted⟩ := ih
    refine ⟨.signed negative term, ?_⟩
    rw [Tree.term?, accepted]
    rfl
  | binary operator _ _ firstIh secondIh =>
    obtain ⟨first, acceptedFirst⟩ := firstIh
    obtain ⟨second, acceptedSecond⟩ := secondIh
    refine ⟨.binary operator first second, ?_⟩
    rw [Tree.term?, acceptedFirst, acceptedSecond]
    rfl
  | call function some _ ih =>
    obtain ⟨terms, accepted⟩ := exists_terms?_of_each ih
    refine ⟨.call function terms, ?_⟩
    rw [Tree.term?, function.ofName?_name]
    simp only [Bool.false_eq_true, List.isEmpty_iff, some, or_self, if_false, accepted]
    rfl

/-- A tree is accepted just if it is arithmetic over the unknown and the constants in scope. -/
theorem exists_term?_iff {tree : Tree} :
    (∃ term, tree.term? scope = .ok term) ↔ Arithmetic scope.unknown (scope.constants.map Prod.fst) tree := by
  constructor
  · rintro ⟨term, accepted⟩
    exact hereditary_arithmetic.tree tree term accepted
  · exact Arithmetic.exists_term?

end Acceptance

/-! Trees worked out as they stand, whether they were accepted or not. -/

/-- What an operation or a function gives. -/
inductive Quantity where
  | real (value : Float)
  | whole (value : Int)
  /-- A power that is no real number. -/
  | complex

/-- Why a tree cannot be worked out. -/
inductive Trouble where
  | arithmetic (fault : ArithmeticFault)
  | unboundName (name : String)
  /-- A part is no arithmetic, or it gives no real number where one is needed. -/
  | unsupported

namespace Quantity

def operand? : Quantity → Except Trouble Float
  | real x => .ok x
  | _ => .error .unsupported

/-- A quantity as a number of the machine. -/
def toReal : Quantity → Except Trouble Quantity
  | real x => .ok (.real x)
  | whole n => (ofInt? n).elim (.error (.arithmetic .overflow)) fun x => .ok (.real x)
  | complex => .error .unsupported

/-- Refuse what a base and an exponent give if it is no real number. -/
def orNoRealValue (base exponent : Float) : Quantity → Except Trouble Quantity
  | complex => .error (.arithmetic (.noRealValue base exponent))
  | quantity => .ok quantity

end Quantity

/-- A power of real numbers, real or not. -/
def powerOf (base exponent : Float) : Except ArithmeticFault Quantity :=
  if base.isFinite && exponent.isFinite then
    if base == 0 && exponent < 0 then .error .zeroDivision
    else if base < 0 && !isWhole exponent then
      if ((-base).pow exponent).isInf then .error .overflow else .ok .complex
    else (finiteFrom true (base.pow exponent)).map .real
  else .ok (.real (base.pow exponent))

/-- What an operation gives. -/
def Operator.result : Operator → Float → Float → Except ArithmeticFault Quantity
  | power, a, b => powerOf a b
  | operator, a, b => (operator.apply a b).map .real

/-- What a function gives; rounding gives an integer. -/
def Function.result : Function → List Float → Except ArithmeticFault Quantity
  | floor, [x] => (wholeOf floorOf x).map .whole
  | ceil, [x] => (wholeOf ceilOf x).map .whole
  | function, values => (function.apply values).map .real

mutual

/-- Work out a tree where names stand for numbers, from left to right. -/
def Tree.workOut (names : String → Option Float) : Tree → Except Trouble Quantity
  | .literal (.int value) => (Quantity.whole value).toReal
  | .literal (.float value) => .ok (.real value)
  | .literal _ => .error .unsupported
  | .name text => (names text).elim (.error (.unboundName text)) fun x => .ok (.real x)
  | .signed negative operand => do
    let x ← (← operand.workOut names).operand?
    return .real (if negative then -x else x)
  | .binary operator left right => do
    let a ← (← left.workOut names).operand?
    let b ← (← right.workOut names).operand?
    (← (operator.result a b).mapError .arithmetic).orNoRealValue a b
  | .call (.name callee) arguments _ => do
    let values ← workOutAll names arguments
    match Function.ofName? callee with
    | none => .error (.unboundName callee)
    | some function => (← (function.result values).mapError .arithmetic).toReal
  | .call _ _ _ => .error .unsupported
  | .other _ => .error .unsupported

/-- Work out several trees, from left to right. -/
def workOutAll (names : String → Option Float) : List Tree → Except Trouble (List Float)
  | [] => .ok []
  | first :: rest => do
    let x ← (← first.workOut names).operand?
    return x :: (← workOutAll names rest)

end

/-- Work out a tree; a calculation that leaves the finite range counts as infinite. -/
def Tree.evaluate (names : String → Option Float) (tree : Tree) : Except Trouble Quantity :=
  match tree.workOut names with
  | .error (.arithmetic .overflow) => .ok (.real (1.0 / 0.0))
  | outcome => outcome

/-- What names stand for once the unknown does. -/
def Scope.names (scope : Scope) (x : Float) (name : String) : Option Float :=
  if name = scope.unknown then some x else scope.constants.lookup name

/-- The outcome of a calculation with real numbers. -/
def ofOutcome (outcome : Except ArithmeticFault Float) : Except Trouble Quantity :=
  (outcome.map .real).mapError .arithmetic

@[simp] theorem ofOutcome_ok {x : Float} : ofOutcome (.ok x) = .ok (.real x) := rfl

@[simp] theorem ofOutcome_error {fault : ArithmeticFault} : ofOutcome (.error fault) = .error (.arithmetic fault) := rfl

section WorkedOut

variable {scope : Scope} {x : Float}

theorem Operator.result_eq (operator : Operator) (a b : Float) :
    ((operator.result a b).mapError Trouble.arithmetic >>= fun quantity => quantity.orNoRealValue a b) =
      ofOutcome (operator.apply a b) := by
  cases operator with
  | power =>
    rw [result, apply, powerOf, Number.power]
    split_ifs
    · rfl
    · rfl
    · rfl
    · rw [finiteFrom]
      split_ifs <;> rfl
    · rfl
  | divide =>
    simp only [result, apply, Number.divide]
    split_ifs <;> rfl
  | _ => rfl

theorem toReal_whole {n : Int} : (Quantity.whole n).toReal = ofOutcome ((ofInt? n).elim (.error .overflow) .ok) := by
  rw [Quantity.toReal]
  cases ofInt? n <;> rfl

theorem toReal_wholeOf {rule : Bool → Nat → Nat → Int} (neighbour : RoundsToNeighbour rule) :
    (((wholeOf rule x).map .whole).mapError Trouble.arithmetic >>= Quantity.toReal) = ofOutcome (rounded rule x) := by
  rw [rounded_eq neighbour]
  cases wholeOf rule x with
  | error fault => rfl
  | ok n =>
    simp only [Except.map, mapError_ok, Except.bind, bind]
    exact toReal_whole

theorem Function.result_eq (function : Function) (values : List Float) :
    ((function.result values).mapError Trouble.arithmetic >>= Quantity.toReal) = ofOutcome (function.apply values) := by
  rw [Function.result.eq_def]
  split
  · exact toReal_wholeOf roundsToNeighbour_floorOf
  · exact toReal_wholeOf roundsToNeighbour_ceilOf
  · cases function.apply values <;> rfl

theorem bind_operand?_ofOutcome {β : Type} {outcome : Except ArithmeticFault Float} {next : Float → Except Trouble β} :
    (ofOutcome outcome >>= fun quantity => quantity.operand? >>= next) = outcome.mapError .arithmetic >>= next := by
  cases outcome <;> rfl

theorem workOutAll_eq {trees : List Tree} {terms : List Term}
    (each : List.Forall₂ (fun tree term => tree.workOut (scope.names x) = ofOutcome (term.valueAt x)) trees terms) :
    workOutAll (scope.names x) trees = (Term.valuesAt x terms).mapError .arithmetic := by
  induction each with
  | nil => rw [workOutAll, Term.valuesAt]; rfl
  | @cons tree term trees terms first _ ih =>
    rw [workOutAll, Term.valuesAt, first, bind_operand?_ofOutcome, ih]
    cases term.valueAt x with
    | error fault => rfl
    | ok value => cases Term.valuesAt x terms <;> rfl

/-- An accepted tree, worked out as it stands, gives what its term gives. -/
theorem hereditary_workOut :
    scope.Hereditary fun tree term => tree.workOut (scope.names x) = ofOutcome (term.valueAt x) where
  int value := by
    rw [Tree.workOut, Term.valueAt]
    exact toReal_whole
  float value := by rw [Tree.workOut, Term.valueAt]; rfl
  unknown := by
    rw [Tree.workOut, Term.valueAt, Scope.names, if_pos rfl]
    rfl
  constant other found := by
    rw [Tree.workOut, Term.valueAt, Scope.names, if_neg other, found]
    rfl
  signed negative operand term inner := by
    rw [Tree.workOut, Term.valueAt, inner, bind_operand?_ofOutcome]
    cases term.valueAt x <;> rfl
  binary operator left right first second holdsLeft holdsRight := by
    rw [Tree.workOut, Term.valueAt, holdsLeft, bind_operand?_ofOutcome, holdsRight]
    simp only [bind_operand?_ofOutcome]
    cases first.valueAt x with
    | error fault => rfl
    | ok a =>
      cases second.valueAt x with
      | error fault => rfl
      | ok b => exact operator.result_eq a b
  call function arguments terms _ each := by
    rw [Tree.workOut, Term.valueAt, workOutAll_eq each, function.ofName?_name]
    cases Term.valuesAt x terms with
    | error fault => rfl
    | ok values => exact function.result_eq values

theorem evaluate_eq {tree : Tree} {term : Term} (accepted : tree.term? scope = .ok term) :
    tree.evaluate (scope.names x) = ofOutcome (term.evaluate x) := by
  rw [Tree.evaluate, Term.evaluate, hereditary_workOut.tree tree term accepted]
  cases term.valueAt x with
  | ok value => rfl
  | error fault => cases fault <;> rfl

end WorkedOut

/-! Which calls fail for the number of their arguments. -/

/-- A function takes a number of arguments. -/
def Function.Takes : Function → Nat → Prop
  | log, count => count = 1 ∨ count = 2
  | min, count => 2 ≤ count
  | max, count => 2 ≤ count
  | _, count => count = 1

/-- Somewhere in a tree a function is called with a number of arguments that it does not take. -/
inductive Tree.Miscounts : Tree → Prop
  | here {function : Function} {arguments : List Tree} {keywords : Bool} (refused : ¬ function.Takes arguments.length) :
    Miscounts (.call (.name function.name) arguments keywords)
  | argument {callee : Tree} {arguments : List Tree} {keywords : Bool} {argument : Tree} (member : argument ∈ arguments)
    (inner : Miscounts argument) : Miscounts (.call callee arguments keywords)
  | signed {negative : Bool} {operand : Tree} (inner : Miscounts operand) : Miscounts (.signed negative operand)
  | left {operator : Operator} {left right : Tree} (inner : Miscounts left) : Miscounts (.binary operator left right)
  | right {operator : Operator} {left right : Tree} (inner : Miscounts right) : Miscounts (.binary operator left right)

theorem Operator.apply_ne_argumentCount {operator : Operator} {a b : Float} :
    operator.apply a b ≠ .error .argumentCount := by
  cases operator with
  | divide =>
    rw [apply, Number.divide]
    split_ifs <;> simp
  | power =>
    rw [apply, Number.power, finiteFrom]
    split_ifs <;> simp
  | _ => simp [apply]

theorem rounded_ne_argumentCount {rule : Bool → Nat → Nat → Int} {x : Float} :
    rounded rule x ≠ .error .argumentCount := by
  rw [rounded]
  split <;> simp

theorem logarithm_ne_argumentCount {x : Float} : logarithm x ≠ .error .argumentCount := by
  rw [logarithm]
  split_ifs <;> simp

theorem logarithmTo_ne_argumentCount {base x : Float} : logarithmTo base x ≠ .error .argumentCount := by
  intro failed
  rcases bind_eq_error.1 failed with refused | ⟨dividend, -, failed⟩
  · exact logarithm_ne_argumentCount refused
  · rcases bind_eq_error.1 failed with refused | ⟨divisor, -, failed⟩
    · exact logarithm_ne_argumentCount refused
    · exact absurd failed (@Operator.apply_ne_argumentCount .divide dividend divisor)

theorem exists_cons_cons {values : List Float} (two : 2 ≤ values.length) :
    ∃ first other others, values = first :: other :: others := by
  rcases values with _ | ⟨first, _ | ⟨other, others⟩⟩
  · simp at two
  · simp at two
  · exact ⟨first, other, others, rfl⟩

theorem Function.apply_ne_argumentCount {function : Function} {values : List Float}
    (takes : function.Takes values.length) : function.apply values ≠ .error .argumentCount := by
  cases function with
  | log =>
    rcases takes with one | two
    · obtain ⟨x, rfl⟩ := List.length_eq_one_iff.1 one
      exact logarithm_ne_argumentCount
    · obtain ⟨x, base, rfl⟩ := List.length_eq_two.1 two
      exact logarithmTo_ne_argumentCount
  | min =>
    obtain ⟨first, other, others, rfl⟩ := exists_cons_cons takes
    simp [apply]
  | max =>
    obtain ⟨first, other, others, rfl⟩ := exists_cons_cons takes
    simp [apply]
  | sqrt =>
    obtain ⟨x, rfl⟩ := List.length_eq_one_iff.1 takes
    rw [apply, squareRoot]
    split_ifs <;> simp
  | exp =>
    obtain ⟨x, rfl⟩ := List.length_eq_one_iff.1 takes
    rw [apply, exponential, finiteFrom]
    split_ifs <;> simp
  | floor =>
    obtain ⟨x, rfl⟩ := List.length_eq_one_iff.1 takes
    exact rounded_ne_argumentCount
  | ceil =>
    obtain ⟨x, rfl⟩ := List.length_eq_one_iff.1 takes
    exact rounded_ne_argumentCount
  | abs =>
    obtain ⟨x, rfl⟩ := List.length_eq_one_iff.1 takes
    simp [apply]

section Counted

variable {x : Float}

theorem exists_of_valuesAt_error {terms : List Term} {fault : ArithmeticFault}
    (failed : Term.valuesAt x terms = .error fault) : ∃ term ∈ terms, term.valueAt x = .error fault := by
  induction terms with
  | nil =>
    rw [Term.valuesAt] at failed
    cases failed
  | cons first rest ih =>
    rw [Term.valuesAt] at failed
    rcases bind_eq_error.1 failed with failedFirst | ⟨value, -, failed⟩
    · exact ⟨first, List.mem_cons_self .., failedFirst⟩
    · rcases bind_eq_error.1 failed with failedRest | ⟨values, -, failed⟩
      · obtain ⟨term, member, failedTerm⟩ := ih failedRest
        exact ⟨term, List.mem_cons_of_mem _ member, failedTerm⟩
      · cases failed

theorem length_valuesAt {terms : List Term} {values : List Float} (worked : Term.valuesAt x terms = .ok values) :
    values.length = terms.length := by
  induction terms generalizing values with
  | nil =>
    rw [Term.valuesAt] at worked
    cases worked
    rfl
  | cons first rest ih =>
    rw [Term.valuesAt] at worked
    obtain ⟨value, -, worked⟩ := bind_eq_ok.1 worked
    obtain ⟨others, workedRest, worked⟩ := bind_eq_ok.1 worked
    cases worked
    exact congrArg (· + 1) (ih workedRest)

/-- If the number of arguments is the fault, the tree has a call with a number of them that the function does not take. -/
theorem hereditary_miscounts {scope : Scope} :
    scope.Hereditary fun tree term => term.valueAt x = .error .argumentCount → tree.Miscounts where
  int value := by
    intro failed
    rw [Term.valueAt] at failed
    cases found : ofInt? value <;> simp [found] at failed
  float value := by simp [Term.valueAt]
  unknown := by simp [Term.valueAt]
  constant _ _ := by simp [Term.valueAt]
  signed negative operand term inner := by
    intro failed
    rw [Term.valueAt] at failed
    rcases bind_eq_error.1 failed with failed | ⟨value, -, failed⟩
    · exact .signed (inner failed)
    · cases failed
  binary operator left right first second holdsLeft holdsRight := by
    intro failed
    rw [Term.valueAt] at failed
    rcases bind_eq_error.1 failed with failed | ⟨a, -, failed⟩
    · exact .left (holdsLeft failed)
    · rcases bind_eq_error.1 failed with failed | ⟨b, -, failed⟩
      · exact .right (holdsRight failed)
      · exact absurd failed Operator.apply_ne_argumentCount
  call function arguments terms _ each := by
    intro failed
    rw [Term.valueAt] at failed
    rcases bind_eq_error.1 failed with failed | ⟨values, worked, failed⟩
    · obtain ⟨term, member, failedTerm⟩ := exists_of_valuesAt_error failed
      obtain ⟨argument, present, inner⟩ := exists_right_of_forall₂ each.flip term member
      exact .argument present (inner failedTerm)
    · refine .here fun takes => ?_
      rw [each.length_eq, ← length_valuesAt worked] at takes
      exact Function.apply_ne_argumentCount takes failed

end Counted

/-- A name that constants can have: it is an identifier that means nothing else in expressions. -/
structure FreeName (unknown name : String) : Prop where
  identifier : isIdentifier name.toList = true
  notUnknown : name ≠ unknown
  noFunction : Function.ofName? name = none

theorem freeName_iff {unknown name : String} : FreeName unknown name ↔
    isIdentifier name.toList = true ∧ ¬ (name = unknown ∨ (Function.ofName? name).isSome) := by
  constructor
  · intro free
    exact ⟨free.identifier, by simp [free.notUnknown, free.noFunction]⟩
  · rintro ⟨identifier, free⟩
    rw [not_or, Bool.not_eq_true, Option.isSome_eq_false_iff, Option.isNone_iff_eq_none] at free
    exact ⟨identifier, free.1, free.2⟩

/-- A constant that expressions can use: its name is free, and its value denotes a finite number. -/
structure FitConstant (unknown : String) (constant : String × Value) : Prop extends FreeName unknown constant.1 where
  finite : ∃ number, constant.2.toFloat = .ok number ∧ number.isFinite = true

theorem fitConstant_iff {unknown name : String} {value : Value} :
    FitConstant unknown (name, value) ↔ ∃ number, checkConstant unknown name value = .ok number := by
  constructor
  · intro fit
    obtain ⟨number, denotes, finite⟩ := fit.finite
    have free := freeName_iff.1 fit.toFreeName
    exact ⟨number, checkConstant_eq_ok.2 ⟨free.1, free.2, denotes, finite⟩⟩
  · rintro ⟨number, checked⟩
    obtain ⟨identifier, free, denotes, finite⟩ := checkConstant_eq_ok.1 checked
    exact ⟨freeName_iff.2 ⟨identifier, free⟩, number, denotes, finite⟩

theorem exists_checkConstants_iff {unknown : String} {pairs : List (String × Value)} :
    (∃ numbers, checkConstants unknown pairs = .ok numbers) ↔ ∀ constant ∈ pairs, FitConstant unknown constant := by
  induction pairs with
  | nil => simp [checkConstants]
  | cons constant rest ih =>
    obtain ⟨name, value⟩ := constant
    rw [List.forall_mem_cons, ← ih, fitConstant_iff, checkConstants]
    cases checkConstant unknown name value with
    | error fault => simp
    | ok number =>
      cases checkConstants unknown rest with
      | error refusal => simp
      | ok numbers => simp

/-- Fit constants pass their checks. Over them a tree is accepted just if it is arithmetic, and an accepted tree, worked
out as it stands at any number, meets no name without a number, no part that it does not know and nothing but real
numbers: it gives a real number, a division by zero, a value outside of a domain, or a wrong number of arguments, and the
last only if it has such a call. Its term gives the same. -/
theorem arithmetic_accepted_and_safe (source unknown : String) (constants : Entries String Value)
    (fit : ∀ constant ∈ constants.pairs, FitConstant unknown constant) :
    ∃ numbers, checkConstants unknown constants.pairs = .ok numbers ∧ ∀ tree : Tree,
      ((∃ term, tree.term? ⟨source, unknown, numbers⟩ = .ok term) ↔ Arithmetic unknown constants.keys tree) ∧
        ∀ term, tree.term? ⟨source, unknown, numbers⟩ = .ok term → ∀ x,
          (∃ value, term.evaluate x = .ok value ∧
            tree.evaluate (Scope.names ⟨source, unknown, numbers⟩ x) = .ok (.real value)) ∨
          ∃ fault, term.evaluate x = .error fault ∧
            tree.evaluate (Scope.names ⟨source, unknown, numbers⟩ x) = .error (.arithmetic fault) ∧
            (fault.kind = .zeroDivision ∨ fault.kind = .value ∨ fault.kind = .type ∧ tree.Miscounts) := by
  obtain ⟨numbers, checked⟩ := exists_checkConstants_iff.2 fit
  have names : numbers.map Prod.fst = constants.keys := (checkConstants_ok checked).1
  refine ⟨numbers, checked, fun tree => ⟨?_, fun term accepted x => ?_⟩⟩
  · rw [← names]
    exact exists_term?_iff
  · have same := evaluate_eq (x := x) accepted
    cases evaluated : term.evaluate x with
    | ok value => exact .inl ⟨value, rfl, by rw [same, evaluated, ofOutcome_ok]⟩
    | error fault =>
      refine .inr ⟨fault, rfl, by rw [same, evaluated, ofOutcome_error], ?_⟩
      have failed : term.valueAt x = .error fault ∧ fault ≠ .overflow := by
        rw [Term.evaluate] at evaluated
        split at evaluated
        · cases evaluated
        · rename_i finite
          exact ⟨evaluated, fun overflow => finite (overflow ▸ evaluated)⟩
      cases fault with
      | overflow => exact absurd rfl failed.2
      | zeroDivision => exact .inl rfl
      | domain => exact .inr (.inl rfl)
      | noRealValue base exponent => exact .inr (.inl rfl)
      | argumentCount => exact .inr (.inr ⟨rfl, hereditary_miscounts.tree tree term accepted failed.1⟩)

/-- Over one constant a product with a root is accepted. -/
theorem product_accepted :
    (∀ constant ∈ [("growth", Value.int 2)], FitConstant "level" constant) ∧
      ∃ numbers, checkConstants "level" [("growth", .int 2)] = .ok numbers ∧ ∃ term,
        Tree.term? ⟨"growth * sqrt(level)", "level", numbers⟩
          (.binary .multiply (.name "growth") (.call (.name "sqrt") [.name "level"] false)) = .ok term := by
  have fit : ∀ constant ∈ [("growth", Value.int 2)], FitConstant "level" constant := by
    rw [List.forall_mem_singleton]
    exact ⟨⟨by decide +kernel, by decide, by decide⟩, 2, by decide +kernel, by decide +kernel⟩
  obtain ⟨numbers, checked, each⟩ :=
    arithmetic_accepted_and_safe "growth * sqrt(level)" "level" ⟨[("growth", .int 2)], by decide⟩ fit
  refine ⟨fit, numbers, checked, (each _).1.2 ?_⟩
  refine .binary .multiply (.constant (List.mem_singleton_self _)) (.call .sqrt (List.cons_ne_nil _ _) ?_)
  rw [List.forall_mem_singleton]
  exact .unknown

end Expression

end Progression
