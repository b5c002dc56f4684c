import Progression.Number.Numeral
import Progression.Proofs.Rounding

namespace Progression.Number

open Progression.Text

/-- The characters that written numbers consist of. -/
def IsNumeral (c : Char) : Prop := c.isDigit = true ∨ c ∈ ['.', 'e', '+', '-']

instance : DecidablePred IsNumeral := fun c => inferInstanceAs (Decidable (c.isDigit = true ∨ c ∈ ['.', 'e', '+', '-']))

theorem digit_mem {c : Char} (digit : c.isDigit = true) :
    c ∈ ['0', '1', '2', '3', '4', '5', '6', '7', '8', '9'] := by
  obtain ⟨low, high⟩ := Char.isDigit_iff_toNat.1 digit
  have same : c = Char.ofNat c.toNat := (Char.ofNat_toNat c).symm
  have low : 48 ≤ c.toNat := low
  have high : c.toNat ≤ 57 := high
  rw [same]
  interval_cases c.toNat <;> decide

theorem of_digit (test : Char → Bool) (all : ['0', '1', '2', '3', '4', '5', '6', '7', '8', '9'].all test = true)
    {c : Char} (digit : c.isDigit = true) : test c = true :=
  List.all_eq_true.1 all c (digit_mem digit)

theorem digitValue?_digit {c : Char} (digit : c.isDigit = true) : digitValue? c = some (c.toNat - '0'.toNat) :=
  of_decide_eq_true
    (of_digit (fun c => digitValue? c = some (c.toNat - '0'.toNat)) (by decide) digit)

theorem IsNumeral.not_space {c : Char} (numeral : IsNumeral c) : isSpace c = false := by
  rcases numeral with digit | sign
  · simpa using of_digit (fun c => !isSpace c) (by decide) digit
  · have : ['.', 'e', '+', '-'].all (fun c => !isSpace c) = true := by decide
    simpa using List.all_eq_true.1 this c sign

theorem trimBy_of_none {drop : Char → Bool} {text : List Char} (none : ∀ c ∈ text, drop c = false) :
    trimBy drop text = text := by
  have kept {text : List Char} (none : ∀ c ∈ text, drop c = false) : text.dropWhile drop = text := by
    cases text with
    | nil => rfl
    | cons c rest => exact List.dropWhile_cons_of_neg (by simp [none c (List.mem_cons_self ..)])
  rw [trimBy, kept none, kept (fun c member => none c (List.mem_reverse.1 member)), List.reverse_reverse]

/-- The values of digits. -/
def digitsOf (digits : List Char) : List Nat := digits.map fun c => c.toNat - '0'.toNat

theorem ofDigits_digitsOf {digits : List Char} : ofDigits 10 (digitsOf digits) = Nat.ofDigitChars 10 digits 0 := by
  rw [ofDigits, digitsOf, List.foldl_map, Nat.ofDigitChars_eq_foldl]
  congr 1
  funext value c
  rw [Nat.mul_comm]

/-- Digits are taken up to a character that is none and joins none. -/
theorem takeDigits_append {digits : List Char} (rest : List Char) (all : ∀ c ∈ digits, c.isDigit = true)
    (stops : ∀ c ∈ rest.head?, digitValue? c = none ∧ c ≠ '_') :
    takeDigits digitValue? (digits ++ rest) = (digitsOf digits, rest) := by
  have taken (after : Bool) : digitsFrom digitValue? after (digits ++ rest) = (digitsOf digits, rest) := by
    induction digits generalizing after with
    | nil =>
      cases rest with
      | nil => rfl
      | cons c rest =>
        obtain ⟨other, different⟩ := stops c rfl
        simp [digitsFrom, other, different, digitsOf]
    | cons c digits ih =>
      have value := digitValue?_digit (all c (List.mem_cons_self ..))
      rw [List.cons_append, digitsFrom, value]
      dsimp only
      rw [ih (fun c member => all c (List.mem_cons_of_mem _ member))]
      rfl
  exact taken false

theorem isDigit_toDigits {n : Nat} : ∀ c ∈ Nat.toDigits 10 n, c.isDigit = true :=
  fun _ member => Nat.isDigit_of_mem_toDigits (by decide) (Nat.le_refl 10) member

theorem exists_toDigits_eq_cons (n : Nat) :
    ∃ first others, Nat.toDigits 10 n = first :: others ∧ first.isDigit = true := by
  obtain ⟨first, others, split⟩ := List.exists_cons_of_ne_nil (Nat.toDigits_ne_nil (b := 10) (n := n))
  exact ⟨first, others, split, isDigit_toDigits first (split ▸ List.mem_cons_self ..)⟩

theorem numeralBody_eq {text : List Char} (numeral : ∀ c ∈ text, IsNumeral c) : numeralBody text = text :=
  trimBy_of_none fun c member => (numeral c member).not_space

theorem takeSign_digit {c : Char} {rest : List Char} (digit : c.isDigit = true) :
    takeSign (c :: rest) = (false, c :: rest) := by
  have different : c ≠ '-' ∧ c ≠ '+' :=
    of_decide_eq_true (of_digit (fun c => c ≠ '-' ∧ c ≠ '+') (by decide) digit)
  rw [takeSign]
  · exact fun _ same => different.1 (List.cons.inj same).1
  · exact fun _ same => different.2 (List.cons.inj same).1

theorem readInt?_toString_eq {n : Nat} :
    readInt? (toString n).toList = if maxIntegerDigits < (toString n).length then none else some (n : Int) := by
  obtain ⟨first, rest, digits, digit⟩ := exists_toDigits_eq_cons n
  have sign : takeSign (Nat.toDigits 10 n) = (false, Nat.toDigits 10 n) := by
    rw [digits]
    exact takeSign_digit digit
  have taken := takeDigits_append [] (isDigit_toDigits (n := n)) (fun _ member => nomatch member)
  rw [List.append_nil] at taken
  have value : ofDigits 10 (digitsOf (Nat.toDigits 10 n)) = n := by
    rw [ofDigits_digitsOf, Nat.ofDigitChars_ten_toDigits]
  have length : (digitsOf (Nat.toDigits 10 n)).length = (toString n).length := by
    rw [Nat.toString_eq_ofList_toDigits, String.length_ofList, digitsOf, List.length_map]
  rw [Nat.toString_eq_ofList_toDigits, String.toList_ofList, readInt?,
    numeralBody_eq fun c member => .inl (isDigit_toDigits c member), sign, ← Nat.toString_eq_ofList_toDigits, ← length]
  dsimp only
  rw [taken]
  split
  · rename_i equal
    rw [digits] at equal
    cases equal
  · rename_i equal
    cases equal
    rw [value]
    rfl
  · rename_i other
    exact absurd rfl (other _)

theorem readInt?_toString {n : Nat} {read : Int} (success : readInt? (toString n).toList = some read) : read = n := by
  rw [readInt?_toString_eq] at success
  split at success
  · cases success
  · exact (Option.some.inj success).symm

theorem digitValue?_lt {c : Char} {digit : Nat} (value : digitValue? c = some digit) : digit < 10 := by
  rw [digitValue?] at value
  obtain ⟨first, found, rfl⟩ := Option.map_eq_some_iff.1 value
  have inside := List.find?_some found
  simp only [decide_eq_true_eq] at inside
  omega

theorem lt_of_mem_digitsFrom {text : List Char} {after : Bool} :
    ∀ digit ∈ (digitsFrom digitValue? after text).1, digit < 10 := by
  fun_induction digitsFrom digitValue? after text with
  | case1 => simp
  | case2 after c rest digit value digits remaining taken ih =>
    rw [taken] at ih
    exact List.forall_mem_cons.2 ⟨digitValue?_lt value, ih⟩
  | case3 after c rest none joins ih => exact ih
  | case4 => simp

theorem ofDigits_lt {base : Nat} {digits : List Nat} (bounded : ∀ digit ∈ digits, digit < base) :
    ofDigits base digits < base ^ digits.length := by
  have all (value : Nat) : digits.foldl (fun value digit => value * base + digit) value
      < (value + 1) * base ^ digits.length := by
    induction digits generalizing value with
    | nil => simp
    | cons digit digits ih =>
      obtain ⟨first, others⟩ := List.forall_mem_cons.1 bounded
      have next : value * base + digit + 1 ≤ (value + 1) * base := by
        rw [Nat.succ_mul]
        omega
      calc digits.foldl (fun value digit => value * base + digit) (value * base + digit)
          < (value * base + digit + 1) * base ^ digits.length := ih others _
        _ ≤ (value + 1) * base * base ^ digits.length := Nat.mul_le_mul_right _ next
        _ = (value + 1) * base ^ (digit :: digits).length := by
          rw [List.length_cons, Nat.pow_succ', Nat.mul_assoc]
  simpa [ofDigits] using all 0

/-- What is read as an integer has no more digits than may be read. -/
theorem natAbs_lt_of_readInt? {text : List Char} {n : Int} (read : readInt? text = some n) :
    n.natAbs < 10 ^ maxIntegerDigits := by
  rw [readInt?] at read
  dsimp only at read
  split at read
  · cases read
  · rename_i digits nonempty taken
    split at read
    · cases read
    · rename_i short
      have bound : ofDigits 10 digits < 10 ^ digits.length := by
        refine ofDigits_lt fun digit member => ?_
        rw [takeDigits] at taken
        exact lt_of_mem_digitsFrom digit (by rw [taken]; exact member)
      have magnitude : n.natAbs = ofDigits 10 digits := by
        rw [← Option.some.inj read]
        split <;> simp
      rw [magnitude]
      exact bound.trans_le (Nat.pow_le_pow_right (by decide) (Nat.not_lt.1 short))
  · cases read

theorem length_toString_le_iff {n : Nat} :
    (toString n).length ≤ maxIntegerDigits ↔ n < 10 ^ maxIntegerDigits := by
  rw [Nat.toString_eq_ofList_toDigits, String.length_ofList]
  exact Nat.length_toDigits_le_iff (by decide) (by decide)

section Decimal

variable {whole fraction tail : List Char} {exponent : Int}

/-- What may follow the digits of a decimal: nothing, or an exponent. -/
structure IsTail (tail : List Char) (exponent : Int) : Prop where
  head : ∀ c ∈ tail.head?, c = 'e'
  taken : takeExponent digitValue? tail = (exponent, [])
  numeral : ∀ c ∈ tail, IsNumeral c

theorem IsTail.stops (isTail : IsTail tail exponent) : ∀ c ∈ tail.head?, digitValue? c = none ∧ c ≠ '_' := by
  intro c member
  rw [isTail.head c member]
  decide

theorem isTail_nil : IsTail [] 0 := ⟨fun _ member => (nomatch member), rfl, fun _ member => (nomatch member)⟩

theorem isTail_exponentText (exponent : Int) : IsTail (exponentText exponent).toList exponent := by
  obtain ⟨digits, all, value, nonempty, written⟩ : ∃ digits : List Char, (∀ c ∈ digits, c.isDigit = true) ∧
      Nat.ofDigitChars 10 digits 0 = exponent.natAbs ∧ digits ≠ [] ∧
      (exponentText exponent).toList = 'e' :: (if exponent < 0 then '-' else '+') :: digits := by
    by_cases short : (toString exponent.natAbs).length < 2
    · refine ⟨'0' :: Nat.toDigits 10 exponent.natAbs, ?_, ?_, List.cons_ne_nil _ _, ?_⟩
      · intro c member
        rcases List.mem_cons.1 member with rfl | member
        · decide
        · exact isDigit_toDigits c member
      · rw [Nat.ofDigitChars_cons]
        exact Nat.ofDigitChars_ten_toDigits
      · rw [exponentText, if_pos short]
        split <;> simp
    · refine ⟨Nat.toDigits 10 exponent.natAbs, isDigit_toDigits, Nat.ofDigitChars_ten_toDigits,
        Nat.toDigits_ne_nil, ?_⟩
      rw [exponentText, if_neg short]
      split <;> simp
  have taken := takeDigits_append [] all (fun _ member => nomatch member)
  rw [List.append_nil] at taken
  obtain ⟨first, rest, split⟩ := List.exists_cons_of_ne_nil (show digitsOf digits ≠ [] by simp [digitsOf, nonempty])
  have magnitude : ofDigits 10 (first :: rest) = exponent.natAbs := by
    rw [← split, ofDigits_digitsOf, value]
  rw [split] at taken
  rw [written]
  refine ⟨fun c member => (Option.some.inj member).symm, ?_, ?_⟩
  · by_cases negative : exponent < 0
    · simp [takeExponent, negative, takeSign, taken, magnitude, abs_of_neg negative]
    · simp [takeExponent, negative, takeSign, taken, magnitude]
      omega
  · intro c member
    simp only [List.mem_cons] at member
    rcases member with rfl | rfl | member
    · exact .inr (by decide)
    · refine .inr ?_
      split <;> decide
    · exact .inl (all c member)

theorem takeDecimal?_point (wholes : ∀ c ∈ whole, c.isDigit = true) (fractions : ∀ c ∈ fraction, c.isDigit = true)
    (nonempty : whole ≠ []) (isTail : IsTail tail exponent) :
    takeDecimal? digitValue? (whole ++ '.' :: (fraction ++ tail))
      = some (Nat.ofDigitChars 10 (whole ++ fraction) 0, exponent - fraction.length, []) := by
  have point : ∀ c ∈ ('.' :: (fraction ++ tail)).head?, digitValue? c = none ∧ c ≠ '_' := by
    intro c member
    cases member
    decide
  rw [takeDecimal?, takeDigits_append _ wholes point]
  simp only [takeDigits_append _ fractions isTail.stops]
  rw [if_neg (by simp [digitsOf, nonempty]), isTail.taken, ← ofDigits_digitsOf]
  simp [digitsOf]

theorem takeDecimal?_whole (wholes : ∀ c ∈ whole, c.isDigit = true) (nonempty : whole ≠ [])
    (isTail : IsTail tail exponent) :
    takeDecimal? digitValue? (whole ++ tail) = some (Nat.ofDigitChars 10 whole 0, exponent, []) := by
  have taken := takeDigits_append _ wholes isTail.stops
  have exponentTaken := isTail.taken
  have value : (digitsOf whole).isEmpty = false := by simp [digitsOf, nonempty]
  cases tail with
  | nil =>
    rw [List.append_nil] at taken ⊢
    simp [takeDecimal?, taken, value, exponentTaken, ofDigits_digitsOf]
  | cons c rest =>
    obtain rfl : c = 'e' := isTail.head c rfl
    simp [takeDecimal?, taken, value, exponentTaken, ofDigits_digitsOf]

/-- A text that writes a decimal, with its point at its place or somewhere behind it. -/
structure IsDecimal (text : List Char) (digits : Nat) (exponent : Int) : Prop where
  read : ∃ shift : Nat, takeDecimal? digitValue? text = some (digits * 10 ^ shift, exponent - shift, [])
  numeral : ∀ c ∈ text, IsNumeral c
  head : ∃ first rest, text = first :: rest ∧ first.isDigit = true

theorem exists_head_digit {text : List Char} (nonempty : whole ≠ []) (wholes : ∀ c ∈ whole, c.isDigit = true) :
    ∃ first rest, whole ++ text = first :: rest ∧ first.isDigit = true := by
  obtain ⟨first, rest, rfl⟩ := List.exists_cons_of_ne_nil nonempty
  exact ⟨first, rest ++ text, rfl, wholes first (List.mem_cons_self ..)⟩

theorem isDecimal_point {digits : Nat} (shift : Nat) {scientific : Int} (wholes : ∀ c ∈ whole, c.isDigit = true)
    (fractions : ∀ c ∈ fraction, c.isDigit = true) (nonempty : whole ≠ []) (isTail : IsTail tail scientific)
    (value : Nat.ofDigitChars 10 (whole ++ fraction) 0 = digits * 10 ^ shift)
    (place : scientific - fraction.length = exponent - shift) :
    IsDecimal (whole ++ '.' :: (fraction ++ tail)) digits exponent := by
  refine ⟨⟨shift, ?_⟩, fun c member => ?_, exists_head_digit nonempty wholes⟩
  · rw [takeDecimal?_point wholes fractions nonempty isTail, value, place]
  · simp only [List.mem_append, List.mem_cons] at member
    rcases member with inside | rfl | inside | inside
    · exact .inl (wholes c inside)
    · exact .inr (by decide)
    · exact .inl (fractions c inside)
    · exact isTail.numeral c inside

theorem isDecimal_whole {digits : Nat} (wholes : ∀ c ∈ whole, c.isDigit = true) (nonempty : whole ≠ [])
    (isTail : IsTail tail exponent) (value : Nat.ofDigitChars 10 whole 0 = digits) :
    IsDecimal (whole ++ tail) digits exponent := by
  refine ⟨⟨0, ?_⟩, fun c member => ?_, exists_head_digit nonempty wholes⟩
  · rw [takeDecimal?_whole wholes nonempty isTail, value]
    simp
  · rcases List.mem_append.1 member with inside | inside
    · exact .inl (wholes c inside)
    · exact isTail.numeral c inside

theorem toList_zeros {count : Nat} : (zeros count).toList = List.replicate count '0' := by
  rw [zeros, String.pushn_eq_repeat_push]
  induction count with
  | zero => rfl
  | succ count ih => rw [Nat.repeat, String.toList_push, ih, List.replicate_succ']

theorem isDigit_replicate_zero (count : Nat) : ∀ c ∈ List.replicate count '0', c.isDigit = true := by
  intro c member
  rw [List.eq_of_mem_replicate member]
  decide

theorem isEmpty_drop {text : String} {count : Nat} :
    (text.drop count).isEmpty = true ↔ text.toList.drop count = [] := by
  rw [← String.Slice.isEmpty_copy, String.isEmpty_iff, ← String.toList_eq_nil_iff, String.toList_copy_drop]

section LayOut

variable {digits count : Nat}

theorem isDecimal_split {scientific : Int} (some : 0 < count) (isTail : IsTail tail scientific)
    (place : scientific - ((Nat.toDigits 10 digits).length - count : Nat) = exponent) :
    IsDecimal ((Nat.toDigits 10 digits).take count ++ '.' :: ((Nat.toDigits 10 digits).drop count ++ tail)) digits
      exponent := by
  have nonempty : (Nat.toDigits 10 digits).take count ≠ [] := by
    simp [List.take_eq_nil_iff, Nat.toDigits_ne_nil, Nat.ne_of_gt some]
  refine isDecimal_point 0 (fun c member => isDigit_toDigits c (List.mem_of_mem_take member))
    (fun c member => isDigit_toDigits c (List.mem_of_mem_drop member)) nonempty isTail ?_ ?_
  · rw [List.take_append_drop, Nat.ofDigitChars_ten_toDigits, Nat.pow_zero, Nat.mul_one]
  · rw [List.length_drop, ← place]
    omega

theorem isDecimal_zeros_point :
    IsDecimal (Nat.toDigits 10 digits ++ List.replicate count '0' ++ ['.', '0']) digits count := by
  have value : Nat.ofDigitChars 10 (Nat.toDigits 10 digits ++ List.replicate count '0' ++ ['0']) 0
      = digits * 10 ^ (count + 1) := by
    rw [Nat.ofDigitChars_append, Nat.ofDigitChars_append, Nat.ofDigitChars_ten_toDigits,
      Nat.ofDigitChars_replicate_zero, Nat.pow_succ]
    simp [Nat.ofDigitChars_cons, Nat.ofDigitChars_nil]
    ring
  refine isDecimal_point (count + 1)
    (fun c member => (List.mem_append.1 member).elim (isDigit_toDigits c) (isDigit_replicate_zero _ c))
    (isDigit_replicate_zero 1) (by simp [Nat.toDigits_ne_nil]) isTail_nil value ?_
  simp

theorem isDecimal_point_zeros (place : -(count + (Nat.toDigits 10 digits).length : Int) = exponent) :
    IsDecimal ('0' :: '.' :: (List.replicate count '0' ++ Nat.toDigits 10 digits)) digits exponent := by
  have value : Nat.ofDigitChars 10 (['0'] ++ (List.replicate count '0' ++ Nat.toDigits 10 digits)) 0
      = digits * 10 ^ 0 := by
    simp [Nat.ofDigitChars_cons, Nat.ofDigitChars_append, Nat.ofDigitChars_replicate_zero]
  have point : IsDecimal (['0'] ++ '.' :: (List.replicate count '0' ++ Nat.toDigits 10 digits ++ [])) digits
      exponent := by
    refine isDecimal_point 0 (isDigit_replicate_zero 1)
      (fun c member => (List.mem_append.1 member).elim (isDigit_replicate_zero _ c) (isDigit_toDigits c))
      (List.cons_ne_nil _ _) isTail_nil value ?_
    rw [List.length_append, List.length_replicate, ← place]
    omega
  simpa using point

/-- However a decimal is laid out, it is read back. -/
theorem isDecimal_layOut : IsDecimal (DecimalStyle.standard.layOut digits exponent).toList digits exponent := by
  have text : (toString digits).toList = Nat.toDigits 10 digits := by
    rw [Nat.toString_eq_ofList_toDigits, String.toList_ofList]
  have length : (toString digits).length = (Nat.toDigits 10 digits).length := by
    rw [← text, String.length_toList]
  have positive : 0 < (Nat.toDigits 10 digits).length := List.length_pos_of_ne_nil Nat.toDigits_ne_nil
  have standard : DecimalStyle.standard.wholeMark.toList = ['.', '0'] := rfl
  rw [DecimalStyle.layOut, length]
  split
  · -- One digit before the point, the others behind it, and the exponent.
    dsimp only
    by_cases more : (Nat.toDigits 10 digits).drop 1 = []
    · have single : (Nat.toDigits 10 digits).take 1 = Nat.toDigits 10 digits := by
        simpa [more] using List.take_append_drop 1 (Nat.toDigits 10 digits)
      have one : (Nat.toDigits 10 digits).length = 1 := by
        have none := congrArg List.length more
        rw [List.length_drop, List.length_nil] at none
        omega
      rw [if_pos (isEmpty_drop.2 (text ▸ more))]
      simp only [String.toList_append, String.Slice.toString_eq, String.toList_copy_take, text, single]
      rw [one, show exponent + (1 : Nat) - 1 = exponent by omega, String.toList_empty, List.append_nil]
      exact isDecimal_whole isDigit_toDigits Nat.toDigits_ne_nil (isTail_exponentText _)
        Nat.ofDigitChars_ten_toDigits
    · rw [if_neg fun empty => more (text ▸ isEmpty_drop.1 empty)]
      simp only [String.toList_append, String.Slice.toString_eq, String.toList_copy_take, String.toList_copy_drop,
        text]
      have point : IsDecimal _ digits exponent := isDecimal_split Nat.one_pos
        (isTail_exponentText (exponent + (Nat.toDigits 10 digits).length - 1)) (by omega)
      simpa using point
  · split
    · rename_i whole
      simp only [String.toList_append, toList_zeros, standard, text]
      have point : IsDecimal _ digits exponent.toNat := isDecimal_zeros_point
      rwa [Int.toNat_of_nonneg whole] at point
    · split
      · simp only [String.toList_append, toList_zeros, text]
        exact isDecimal_point_zeros (by omega)
      · simp only [String.toList_append, String.Slice.toString_eq, String.toList_copy_take, String.toList_copy_drop,
          text]
        have behind : 0 < (exponent + (Nat.toDigits 10 digits).length - 1 + 1).toNat := by omega
        have point : IsDecimal _ digits exponent := isDecimal_split behind isTail_nil (by omega)
        simpa using point

end LayOut

end Decimal

theorem shortest_eq {x : Float} (finite : x.isFinite = true) :
    ∃ (negative : Bool) (body : List Char) (digits : Nat) (exponent : Int),
      (shortest x).toList = (if negative then ['-'] else []) ++ body ∧ IsDecimal body digits exponent ∧
        ∀ shift : Nat, ofDecimal negative (digits * 10 ^ shift) (exponent - shift) = x := by
  obtain ⟨negative, mantissa, scale, parts⟩ := ofFloat_of_isFinite finite
  have sign : (if negative then "-" else "").toList = if negative then ['-'] else [] := by
    split <;> rfl
  rw [shortest, DecimalStyle.render, parts]
  by_cases zero : mantissa = 0
  · subst zero
    have digit := isDigit_replicate_zero 1
    have written : IsDecimal ['0', '.', '0'] 0 0 :=
      isDecimal_point 1 digit digit (List.cons_ne_nil _ _) isTail_nil (by decide) rfl
    refine ⟨negative, _, 0, 0, ?_, written, fun shift => ?_⟩
    · simp [sign, DecimalStyle.standard]
    · rw [Nat.zero_mul]
      exact ofDecimal_zero parts _
  · refine ⟨negative, _, _, _, ?_, isDecimal_layOut, ofDecimal_of_parts parts zero⟩
    simp [zero, sign]

theorem IsDecimal.not_word {text : List Char} {digits : Nat} {exponent : Int} (decimal : IsDecimal text digits exponent)
    {word : String} {letter : Char} {rest : List Char} (begins : word.toList = letter :: rest)
    (other : letter.isDigit = false) : String.ofList (text.map Char.toLower) ≠ word := by
  obtain ⟨first, rest, rfl, digit⟩ := decimal.head
  rintro rfl
  have lower : first.toLower.isDigit = true := of_digit (fun c => c.toLower.isDigit) (by decide) digit
  rw [String.toList_ofList] at begins
  rw [(List.cons.inj begins).1, other] at lower
  cases lower

theorem isNumeral_sign {negative : Bool} : ∀ c ∈ if negative then ['-'] else [], IsNumeral c := by
  intro c member
  cases negative with
  | false => cases member
  | true =>
    obtain rfl : c = '-' := List.mem_singleton.1 member
    exact .inr (by decide)

/-- A finite number is read back from its text. -/
theorem readFloat?_shortest {x : Float} (finite : x.isFinite = true) : readFloat? (shortest x).toList = some x := by
  obtain ⟨negative, body, digits, exponent, text, decimal, value⟩ := shortest_eq finite
  obtain ⟨shift, read⟩ := decimal.read
  have sign : takeSign ((if negative then ['-'] else []) ++ body) = (negative, body) := by
    cases negative with
    | true => rfl
    | false =>
      obtain ⟨first, rest, rfl, digit⟩ := decimal.head
      exact takeSign_digit digit
  have numeral : ∀ c ∈ (if negative then ['-'] else []) ++ body, IsNumeral c := fun c member =>
    (List.mem_append.1 member).elim (isNumeral_sign c) (decimal.numeral c)
  rw [readFloat?, text, numeralBody_eq numeral, sign]
  dsimp only
  rw [if_neg (not_or.2 ⟨decimal.not_word rfl (by decide), decimal.not_word rfl (by decide)⟩),
    if_neg (decimal.not_word rfl (by decide)), read]
  dsimp only
  rw [value]

theorem isNumeral_shortest {x : Float} (finite : x.isFinite = true) : ∀ c ∈ (shortest x).toList, IsNumeral c := by
  obtain ⟨negative, body, digits, exponent, text, decimal, -⟩ := shortest_eq finite
  rw [text]
  exact fun c member => (List.mem_append.1 member).elim (isNumeral_sign c) (decimal.numeral c)

theorem isNumeral_toString {n : Nat} : ∀ c ∈ (toString n).toList, IsNumeral c := by
  rw [Nat.toString_eq_ofList_toDigits, String.toList_ofList]
  exact fun c member => .inl (isDigit_toDigits c member)

end Progression.Number
