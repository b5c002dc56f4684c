namespace Progression

variable {ε φ α β : Type}

theorem bind_eq_ok {outcome : Except ε α} {next : α → Except ε β} {result : β} :
    outcome >>= next = .ok result ↔ ∃ value, outcome = .ok value ∧ next value = .ok result := by
  cases outcome with
  | error fault => simp [bind, Except.bind]
  | ok value => simp [bind, Except.bind]

theorem exists_bind_ok {outcome : Except ε α} {next : α → Except ε β} :
    (∃ result, outcome >>= next = .ok result) ↔ ∃ value, outcome = .ok value ∧ ∃ result, next value = .ok result := by
  simp only [bind_eq_ok]
  constructor
  · rintro ⟨result, value, first, rest⟩
    exact ⟨value, first, result, rest⟩
  · rintro ⟨value, first, result, rest⟩
    exact ⟨result, value, first, rest⟩

theorem bind_eq_error {outcome : Except ε α} {next : α → Except ε β} {fault : ε} :
    outcome >>= next = .error fault ↔
      outcome = .error fault ∨ ∃ value, outcome = .ok value ∧ next value = .error fault := by
  cases outcome with
  | error other => simp [bind, Except.bind]
  | ok value => simp [bind, Except.bind]

@[simp] theorem mapError_ok {change : ε → φ} {value : α} : (Except.ok value).mapError change = .ok value := rfl

@[simp] theorem mapError_error {change : ε → φ} {fault : ε} :
    (Except.error fault : Except ε α).mapError change = .error (change fault) := rfl

theorem mapError_eq_error {outcome : Except ε α} {change : ε → φ} {result : φ} :
    outcome.mapError change = .error result ↔ ∃ fault, outcome = .error fault ∧ change fault = result := by
  cases outcome with
  | error fault => simp
  | ok value => simp

theorem mapError_eq_ok {outcome : Except ε α} {change : ε → φ} {result : α} :
    outcome.mapError change = .ok result ↔ outcome = .ok result := by
  constructor
  · intro success
    cases outcome with
    | error fault => cases success
    | ok value =>
      cases success
      rfl
  · rintro rfl
    rfl

theorem map_eq_ok {outcome : Except ε α} {change : α → β} {result : β} :
    outcome.map change = .ok result ↔ ∃ value, outcome = .ok value ∧ change value = result := by
  cases outcome with
  | error fault => simp [Except.map]
  | ok value => simp [Except.map]

theorem exists_map_ok {outcome : Except ε α} {change : α → β} :
    (∃ result, outcome.map change = .ok result) ↔ ∃ value, outcome = .ok value := by
  cases outcome <;> simp [Except.map]

theorem elim_eq_ok {found : Option α} {fault : ε} {result : α} :
    found.elim (.error fault) Except.ok = .ok result ↔ found = some result := by
  cases found with
  | none => simp
  | some value => simp

theorem elim_eq_error {found : Option α} {fault cause : ε} (failed : found.elim (.error fault) Except.ok = .error cause) :
    cause = fault := by
  cases found with
  | none => exact (Except.error.inj failed).symm
  | some value => cases failed

theorem toOption_eq_some {outcome : Except ε α} {result : α} :
    outcome.toOption = some result ↔ outcome = .ok result := by
  cases outcome with
  | error fault => simp [Except.toOption]
  | ok value => simp [Except.toOption]

theorem getElem?_set_of_some {members : List α} {index : Nat} {member next : α}
    (present : members[index]? = some member) (other : Nat) :
    (members.set index next)[other]? = if other = index then some next else members[other]? := by
  obtain ⟨inside, -⟩ := List.getElem?_eq_some_iff.1 present
  rw [List.getElem?_set]
  by_cases same : index = other
  · subst same
    simp [inside]
  · simp [same, Ne.symm same]

section Replaced

variable {members : List α} {index : Nat} {next : α}

theorem forall_mem_set {holds : α → Prop} (all : ∀ member ∈ members, holds member) (new : holds next) :
    ∀ member ∈ members.set index next, holds member := by
  intro member inside
  rcases List.mem_or_eq_of_mem_set inside with before | rfl
  · exact all member before
  · exact new

theorem getElem?_set_cases {other : Nat} {found : α} (stands : (members.set index next)[other]? = some found) :
    other = index ∧ found = next ∨ other ≠ index ∧ members[other]? = some found := by
  rw [List.getElem?_set] at stands
  split at stands
  · rename_i same
    split at stands
    · exact .inl ⟨same.symm, (Option.some.inj stands).symm⟩
    · cases stands
  · rename_i different
    exact .inr ⟨Ne.symm different, stands⟩

/-- If no two members of a list rule each other out, and the new one is ruled out by none of the others, no two do
after it has replaced a member. -/
theorem alone_set (clash : α → α → Prop) (symm : ∀ {left right : α}, clash left right → clash right left)
    (alone : ∀ {one other : Nat} {left right : α}, members[one]? = some left → members[other]? = some right →
      clash left right → one = other)
    (spared : ∀ {other : Nat} {found : α}, other ≠ index → members[other]? = some found → ¬ clash found next)
    {one other : Nat} {left right : α} (left_stands : (members.set index next)[one]? = some left)
    (right_stands : (members.set index next)[other]? = some right) (clashes : clash left right) : one = other := by
  rcases getElem?_set_cases left_stands with ⟨rfl, rfl⟩ | ⟨left_different, left_stood⟩ <;>
    rcases getElem?_set_cases right_stands with ⟨rfl, rfl⟩ | ⟨right_different, right_stood⟩
  · rfl
  · exact absurd (symm clashes) (spared right_different right_stood)
  · exact absurd clashes (spared left_different left_stood)
  · exact alone left_stood right_stood clashes

end Replaced

end Progression
