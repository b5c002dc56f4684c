import Progression.Broadcast
import Progression.Json
import Progression.Proofs.Numeral

namespace Progression

open Number Text

namespace Json

section Parts

variable {rest : List Char} {fuel : Nat}

/-- Whether all characters of a text stand for themselves between quotes. -/
def Plain (text : List Char) : Prop := ∀ c ∈ text, ' ' ≤ c ∧ c ≠ '"' ∧ c ≠ '\\'

theorem textFrom?_plain {body : List Char} (plain : Plain body) (enough : body.length < fuel) :
    textFrom? fuel (body ++ '"' :: rest) = some (body, rest) := by
  induction body generalizing fuel with
  | nil =>
    obtain ⟨fuel, rfl⟩ := Nat.exists_eq_add_one.2 enough
    rfl
  | cons c body ih =>
    obtain ⟨fuel, rfl⟩ := Nat.exists_eq_add_one.2 (Nat.zero_lt_of_lt enough)
    obtain ⟨printed, unquoted, unescaped⟩ := plain c (List.mem_cons_self ..)
    have others := ih (fun c member => plain c (List.mem_cons_of_mem _ member)) (Nat.lt_of_succ_lt_succ enough)
    rw [List.cons_append, textFrom?, if_neg unquoted, if_neg unescaped, others]
    simp [guard, printed]

theorem takeText?_plain {text : String} (plain : Plain text.toList) :
    takeText? (text.toList ++ '"' :: rest) = some (text, rest) := by
  have enough : text.toList.length < (text.toList ++ '"' :: rest).length + 1 := by
    rw [List.length_append]
    omega
  rw [takeText?, textFrom?_plain plain enough]
  exact congrArg (fun text => some (text, rest)) String.ofList_toList

theorem valueFrom?_text {text : String} (plain : Plain text.toList) :
    valueFrom? (fuel + 1) ('"' :: (text.toList ++ '"' :: rest)) = some (.text text, rest) := by
  rw [valueFrom?, if_pos rfl, takeText?_plain plain]
  rfl

/-- The text of a number other than zero begins with another digit. -/
theorem head?_toDigits_ne_zero {n : Nat} (positive : 0 < n) : (Nat.toDigits 10 n).head? ≠ some '0' := by
  induction n using Nat.strong_induction_on with
  | _ n ih =>
    by_cases small : n < 10
    · rw [Nat.toDigits_of_lt_base small]
      interval_cases n <;> decide
    · rw [Nat.toDigits_of_base_le (by decide) (Nat.le_of_not_lt small),
        List.head?_append_of_ne_nil _ Nat.toDigits_ne_nil]
      exact ih (n / 10) (by omega) (by omega)

theorem digitsOf_append {digits : List Char} (all : ∀ c ∈ digits, c.isDigit = true)
    (stops : ∀ c ∈ rest.head?, c.isDigit = false) : digitsOf (digits ++ rest) = (digits, rest) := by
  rw [digitsOf, List.takeWhile_append_of_pos all, List.dropWhile_append_of_pos all]
  cases rest with
  | nil => simp
  | cons c rest => simp [stops c rfl]

/-- What may follow an integer: nothing, or a character that is no part of a number. -/
def Ends (rest : List Char) : Prop := ∀ c ∈ rest.head?, c.isDigit = false ∧ c ∉ ['.', 'e', 'E']

theorem Ends.takeFraction (ends : Ends rest) : takeFraction rest = ([], rest) := by
  cases rest with
  | nil => rfl
  | cons c rest =>
    have different : c ≠ '.' := fun same => (ends c rfl).2 (by simp [same])
    rw [Json.takeFraction]
    exact fun _ same => different (List.cons.inj same).1

theorem Ends.takeExponent (ends : Ends rest) : takeExponent rest = ([], rest) := by
  cases rest with
  | nil => rfl
  | cons c rest =>
    have different : ¬ (c = 'e' ∨ c = 'E') := fun same => (ends c rfl).2 (by rcases same with rfl | rfl <;> decide)
    simp only [Json.takeExponent, if_neg different]

theorem takeNumber?_toDigits {n : Nat} (short : (toString n).length ≤ maxIntegerDigits) (ends : Ends rest) :
    takeNumber? (Nat.toDigits 10 n ++ rest) = some (.int n, rest) := by
  have reads : readInt? (Nat.toDigits 10 n) = some (n : Int) := by
    have reads := readInt?_toString_eq (n := n)
    rwa [if_neg (Nat.not_lt.2 short), Nat.toString_eq_ofList_toDigits, String.toList_ofList] at reads
  rcases Nat.eq_zero_or_pos n with rfl | positive
  · have zero : Nat.toDigits 10 0 = ['0'] := rfl
    rw [zero] at reads ⊢
    simp [takeNumber?, ends.takeFraction, ends.takeExponent, reads]
  · obtain ⟨first, others, split, digit⟩ := exists_toDigits_eq_cons n
    have taken := digitsOf_append (isDigit_toDigits (n := n)) fun c head => (ends c head).1
    have unsigned : first ≠ '-' := by rintro rfl; cases digit
    have other : first ≠ '0' := fun same => head?_toDigits_ne_zero positive (by rw [split, same]; rfl)
    rw [split] at taken reads ⊢
    rw [List.cons_append] at taken ⊢
    simp [takeNumber?, unsigned, other, taken, ends.takeFraction, ends.takeExponent, reads]

theorem takeWord?_digit {c : Char} (digit : c.isDigit = true) : takeWord? (c :: rest) = none := by
  have member := digit_mem digit
  simp only [List.mem_cons, List.not_mem_nil, or_false] at member
  rcases member with rfl | rfl | rfl | rfl | rfl | rfl | rfl | rfl | rfl | rfl <;> simp [takeWord?, words]

theorem valueFrom?_toString {n : Nat} (short : (toString n).length ≤ maxIntegerDigits) (ends : Ends rest) :
    valueFrom? (fuel + 1) ((toString n).toList ++ rest) = some (.int n, rest) := by
  have number := takeNumber?_toDigits short ends
  obtain ⟨first, others, split, digit⟩ := exists_toDigits_eq_cons n
  have other : first ≠ '"' ∧ first ≠ '[' ∧ first ≠ '\x7b' :=
    of_decide_eq_true (of_digit (fun c => c ≠ '"' ∧ c ≠ '[' ∧ c ≠ '\x7b') (by decide) digit)
  rw [Nat.toString_eq_ofList_toDigits, String.toList_ofList]
  rw [split, List.cons_append] at number ⊢
  rw [valueFrom?, if_neg other.1, if_neg other.2.1, if_neg other.2.2, takeWord?_digit digit]
  exact number

theorem skipSpace_toString {n : Nat} :
    skipSpace (' ' :: ((toString n).toList ++ rest)) = (toString n).toList ++ rest := by
  obtain ⟨first, others, split, digit⟩ := exists_toDigits_eq_cons n
  have stays : isSpace first = false := by
    simpa using of_digit (fun c => !isSpace c) (by decide) digit
  rw [Nat.toString_eq_ofList_toDigits, String.toList_ofList, split, skipSpace, List.dropWhile_cons_of_pos rfl,
    List.cons_append, List.dropWhile_cons_of_neg (by simp [stays])]

theorem entriesFrom?_more {given text : List Char} {key : String} {value : Value} (plain : Plain key.toList)
    (begins : skipSpace given = '"' :: (key.toList ++ '"' :: ':' :: text))
    (read : valueFrom? fuel (skipSpace text) = some (value, ',' :: rest)) {others : List (String × Value)}
    {remaining : List Char} (more : entriesFrom? fuel rest = some (others, remaining)) :
    entriesFrom? (fuel + 1) given = some ((key, value) :: others, remaining) := by
  have colon : skipSpace (':' :: text) = ':' :: text := rfl
  have comma : skipSpace (',' :: rest) = ',' :: rest := rfl
  simp [entriesFrom?, begins, takeText?_plain plain, colon, read, comma, more]

theorem entriesFrom?_last {given text : List Char} {key : String} {value : Value} (plain : Plain key.toList)
    (begins : skipSpace given = '"' :: (key.toList ++ '"' :: ':' :: text))
    (read : valueFrom? fuel (skipSpace text) = some (value, '\x7d' :: rest)) :
    entriesFrom? (fuel + 1) given = some ([(key, value)], rest) := by
  have colon : skipSpace (':' :: text) = ':' :: text := rfl
  have brace : skipSpace ('\x7d' :: rest) = '\x7d' :: rest := rfl
  simp [entriesFrom?, begins, takeText?_plain plain, colon, read, brace]

theorem valueFrom?_object {text : List Char} {entries : List (String × Value)}
    (read : entriesFrom? fuel ('"' :: text) = some (entries, rest)) :
    valueFrom? (fuel + 1) ('\x7b' :: '"' :: text) = some (.map (Entries.ofList entries).pairs, rest) := by
  have quote : skipSpace ('"' :: text) = '"' :: text := rfl
  simp [valueFrom?, quote, read]

end Parts

end Json

namespace LevelChange

/-- What is to be published of a change of level: an object of the identity and of the levels before and after. -/
def message (change : LevelChange) : String :=
  String.join ["\x7b\"identity\": \"", change.identity, "\", \"old_level\": ", toString change.old,
    ", \"new_level\": ", toString change.new, "\x7d"]

/-- Whether the identity of a change stands between quotes as it is, and no level has more digits than are read. -/
structure Legible (change : LevelChange) : Prop where
  plain : Json.Plain change.identity.toList
  old : (toString change.old).length ≤ maxIntegerDigits
  new : (toString change.new).length ≤ maxIntegerDigits

open Json in
theorem read?_message {change : LevelChange} (legible : change.Legible) :
    Json.read? change.message.toList = some (.map
      [("identity", .text change.identity), ("old_level", .int change.old), ("new_level", .int change.new)]) := by
  let last := ' ' :: '"' :: ("new_level".toList ++ '"' :: ':' :: ' ' :: ((toString change.new).toList ++ ['\x7d']))
  let later :=
    ' ' :: '"' :: ("old_level".toList ++ '"' :: ':' :: ' ' :: ((toString change.old).toList ++ ',' :: last))
  let first := '"' :: ("identity".toList ++ '"' :: ':' :: ' ' :: '"' :: (change.identity.toList ++ '"' :: ',' :: later))
  have written : change.message.toList = '\x7b' :: first := by
    simp [message, String.join, first, later, last]
  have plain : ∀ key ∈ ["identity", "old_level", "new_level"], Plain key.toList := by simp [Plain]
  have comma (rest : List Char) : Ends (',' :: rest) := fun c head => Option.some.inj head ▸ by decide
  have brace : Ends ['\x7d'] := fun c head => Option.some.inj head ▸ by decide
  have news (fuel : Nat) : entriesFrom? (fuel + 2) last = some ([("new_level", .int change.new)], []) := by
    refine entriesFrom?_last (plain _ (by simp)) rfl ?_
    rw [skipSpace_toString, valueFrom?_toString legible.new brace]
  have olds (fuel : Nat) : entriesFrom? (fuel + 3) later
      = some ([("old_level", .int change.old), ("new_level", .int change.new)], []) := by
    refine entriesFrom?_more (plain _ (by simp)) rfl ?_ (news fuel)
    rw [skipSpace_toString, valueFrom?_toString legible.old (comma last)]
  have all (fuel : Nat) : entriesFrom? (fuel + 4) first = some (_, []) :=
    entriesFrom?_more (plain _ (by simp)) rfl (valueFrom?_text legible.plain) (olds fuel)
  -- The reader goes down once for the object, once for each entry and once for the last value.
  have enough : 5 ≤ 2 * change.message.toList.length + 2 := by
    simp [written, first]
    omega
  obtain ⟨fuel, room⟩ := Nat.exists_eq_add_of_le' enough
  have begins : skipSpace change.message.toList = '\x7b' :: first := by
    rw [written]
    rfl
  rw [read?, room, begins, valueFrom?_object (all fuel)]
  rfl

end LevelChange

theorem Publication.payloadOf_eq {change : LevelChange} : payloadOf change = change.message := by
  have joined (first second third fourth fifth sixth seventh : String) :
      String.join [first, second, third, fourth, fifth, sixth, seventh]
        = first ++ second ++ third ++ fourth ++ fifth ++ sixth ++ seventh := by
    rw [String.join, List.foldl_cons, String.empty_append]
    rfl
  exact (joined ..).symm

end Progression
