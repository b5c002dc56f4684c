import Mathlib.Data.List.Dedup
import Progression.Entries

namespace Progression.Entries

variable {κ α β : Type}

theorem ext_pairs {entries others : Entries κ α} (same : entries.pairs = others.pairs) : entries = others := by
  cases entries
  cases others
  cases same
  rfl

@[simp] theorem keys_map {change : κ → α → β} {entries : Entries κ α} :
    (entries.map change).keys = entries.keys := by
  simp [keys, map]

theorem map_map {γ : Type} {first : κ → α → β} {second : κ → β → γ} {entries : Entries κ α} :
    (entries.map first).map second = entries.map fun key value => second key (first key value) :=
  ext_pairs (by simp [map])

variable [DecidableEq κ]

theorem mem_of_get? {entries : Entries κ α} {key : κ} {value : α} (found : entries.get? key = some value) :
    (key, value) ∈ entries.pairs := by
  obtain ⟨pair, present, same⟩ := Option.map_eq_some_iff.1 found
  have equal : pair.1 = key := by simpa using List.find?_some present
  subst equal
  subst same
  exact List.mem_of_find?_eq_some present

theorem get?_eq_none_iff {entries : Entries κ α} {key : κ} : entries.get? key = none ↔ key ∉ entries.keys := by
  simp only [get?, keys, Option.map_eq_none_iff, List.find?_eq_none, decide_eq_true_eq, List.mem_map,
    not_exists, not_and]

theorem contains_eq_true_iff {entries : Entries κ α} {key : κ} :
    entries.contains key = true ↔ key ∈ entries.keys := by
  rw [contains, Option.isSome_iff_ne_none, ne_eq, get?_eq_none_iff, not_not]

theorem get?_eq_some_iff {entries : Entries κ α} {key : κ} {value : α} :
    entries.get? key = some value ↔ (key, value) ∈ entries.pairs := by
  refine ⟨mem_of_get?, fun member => ?_⟩
  have present : key ∈ entries.keys := List.mem_map.2 ⟨_, member, rfl⟩
  cases found : entries.get? key with
  | none => exact absurd present (get?_eq_none_iff.1 found)
  | some other =>
    have same := List.inj_on_of_nodup_map entries.distinct (mem_of_get? found) member rfl
    rw [(Prod.mk.inj same).2]

theorem get?_map {change : κ → α → β} {entries : Entries κ α} {key : κ} :
    (entries.map change).get? key = (entries.get? key).map (change key) := by
  cases found : entries.get? key with
  | none =>
    rw [Option.map_none, get?_eq_none_iff, keys_map]
    exact get?_eq_none_iff.1 found
  | some value =>
    exact get?_eq_some_iff.2 (List.mem_map.2 ⟨_, mem_of_get? found, rfl⟩)

theorem putPair_of_notMem {key : κ} {value : α} {pairs : List (κ × α)}
    (absent : key ∉ pairs.map Prod.fst) : putPair key value pairs = pairs ++ [(key, value)] := by
  induction pairs with
  | nil => rfl
  | cons pair rest ih =>
    rw [List.map_cons, List.mem_cons, not_or] at absent
    rw [putPair, if_neg (Ne.symm absent.1), ih absent.2, List.cons_append]

theorem pairs_put_of_absent {entries : Entries κ α} {key : κ} {value : α}
    (absent : entries.contains key = false) : (entries.put key value).pairs = entries.pairs ++ [(key, value)] := by
  refine putPair_of_notMem fun present => ?_
  rw [contains_eq_true_iff.2 present] at absent
  cases absent

theorem pairs_putAll_of_nodup {entries : Entries κ α} {pairs : List (κ × α)}
    (distinct : (entries.keys ++ pairs.map Prod.fst).Nodup) :
    (entries.putAll pairs).pairs = entries.pairs ++ pairs := by
  induction pairs generalizing entries with
  | nil => exact (List.append_nil _).symm
  | cons pair rest ih =>
    have absent : entries.contains pair.1 = false := by
      refine Bool.eq_false_iff.2 fun present => ?_
      exact (List.nodup_append.1 distinct).2.2 _ (contains_eq_true_iff.1 present) _ (List.mem_cons_self ..) rfl
    have written : (entries.put pair.1 pair.2).pairs = entries.pairs ++ [pair] := pairs_put_of_absent absent
    have later : ((entries.put pair.1 pair.2).keys ++ rest.map Prod.fst).Nodup := by
      rw [keys, written, List.map_append, List.append_assoc]
      exact distinct
    exact (ih later).trans (by rw [written, List.append_assoc, List.singleton_append])

theorem pairs_ofList_iff {pairs : List (κ × α)} : (ofList pairs).pairs = pairs ↔ (pairs.map Prod.fst).Nodup := by
  constructor
  · intro same
    rw [← same]
    exact (ofList pairs).distinct
  · intro distinct
    have fresh : ((empty : Entries κ α).keys ++ pairs.map Prod.fst).Nodup := distinct
    exact pairs_putAll_of_nodup fresh

theorem ofList_pairs {entries : Entries κ α} : ofList entries.pairs = entries :=
  ext_pairs (pairs_ofList_iff.2 entries.distinct)

theorem keys_putPair_of_mem {key : κ} {value : α} {pairs : List (κ × α)}
    (present : key ∈ pairs.map Prod.fst) : (putPair key value pairs).map Prod.fst = pairs.map Prod.fst := by
  induction pairs with
  | nil => cases present
  | cons pair rest ih =>
    by_cases same : pair.1 = key
    · simp [putPair, same]
    · have later : key ∈ rest.map Prod.fst := by
        rcases List.mem_cons.1 present with equal | later
        · exact absurd equal.symm same
        · exact later
      simp [putPair, same, ih later]

theorem putPair_putPair {key : κ} {first second : α} {pairs : List (κ × α)} :
    putPair key second (putPair key first pairs) = putPair key second pairs := by
  induction pairs with
  | nil => simp [putPair]
  | cons pair rest ih => by_cases same : pair.1 = key <;> simp [putPair, same, ih]

theorem put_put {entries : Entries κ α} {key : κ} {first second : α} :
    (entries.put key first).put key second = entries.put key second := ext_pairs putPair_putPair

theorem mem_keys_put {entries : Entries κ α} {key present : κ} {value : α} :
    present ∈ (entries.put key value).keys ↔ present = key ∨ present ∈ entries.keys :=
  mem_keys_putPair

theorem mem_keys_putAll {entries : Entries κ α} {key : κ} {pairs : List (κ × α)} :
    key ∈ (entries.putAll pairs).keys ↔ key ∈ pairs.map Prod.fst ∨ key ∈ entries.keys := by
  induction pairs generalizing entries with
  | nil => simp [putAll]
  | cons pair rest ih =>
    have later : key ∈ ((entries.put pair.1 pair.2).putAll rest).keys ↔ _ := ih
    refine later.trans ?_
    rw [mem_keys_put, List.map_cons, List.mem_cons, or_left_comm, or_assoc]

theorem keys_putAll_of_subset {entries : Entries κ α} {pairs : List (κ × α)}
    (present : ∀ pair ∈ pairs, pair.1 ∈ entries.keys) : (entries.putAll pairs).keys = entries.keys := by
  induction pairs generalizing entries with
  | nil => rfl
  | cons pair rest ih =>
    have first : (entries.put pair.1 pair.2).keys = entries.keys :=
      keys_putPair_of_mem (present pair (List.mem_cons_self ..))
    have later : ∀ other ∈ rest, other.1 ∈ (entries.put pair.1 pair.2).keys := by
      intro other member
      rw [first]
      exact present other (List.mem_cons_of_mem _ member)
    exact (ih later).trans first

theorem get?_putAll_reverse {entries : Entries κ α} {pairs : List (κ × α)} {key : κ} :
    (entries.putAll pairs).get? key = (pairs.reverse.lookup key).or (entries.get? key) := by
  induction pairs generalizing entries with
  | nil => rfl
  | cons pair rest ih =>
    rw [List.reverse_cons, List.lookup_append, Option.or_assoc]
    refine ih.trans (congrArg _ ?_)
    obtain ⟨written, value⟩ := pair
    rw [get?_put]
    by_cases same : written = key
    · subst same
      simp
    · have other : (key == written) = false := by simpa using Ne.symm same
      simp [List.lookup_cons, same, other]

theorem get?_ofList {pairs : List (κ × α)} {key : κ} : (ofList pairs).get? key = pairs.reverse.lookup key := by
  rw [ofList, get?_putAll_reverse]
  exact Option.or_none

theorem get?_putAll {entries written : Entries κ α} {key : κ} :
    (entries.putAll written.pairs).get? key = (written.get? key).or (entries.get? key) := by
  rw [get?_putAll_reverse, ← get?_ofList, ofList_pairs]

theorem ext_get? {entries others : Entries κ α} (keys : entries.keys = others.keys)
    (values : ∀ key, entries.get? key = others.get? key) : entries = others := by
  have length : entries.pairs.length = others.pairs.length := by
    simpa [Entries.keys] using congrArg List.length keys
  refine ext_pairs (List.ext_getElem length fun index inside insideOther => ?_)
  have key : entries.pairs[index].1 = others.pairs[index].1 := by
    simpa [Entries.keys] using List.getElem_of_eq keys (by simpa [Entries.keys] using inside)
  have found : entries.get? entries.pairs[index].1 = some entries.pairs[index].2 :=
    get?_eq_some_iff.2 (List.getElem_mem inside)
  have foundOther : others.get? others.pairs[index].1 = some others.pairs[index].2 :=
    get?_eq_some_iff.2 (List.getElem_mem insideOther)
  rw [values, key, foundOther] at found
  exact Prod.ext key (Option.some.inj found).symm

/-- A map has as many entries as there are different keys. -/
theorem size_eq_length_dedup {entries : Entries κ α} {keys : List κ}
    (same : ∀ key, key ∈ entries.keys ↔ key ∈ keys) : entries.size = keys.dedup.length := by
  have shuffled : entries.keys.Perm keys.dedup :=
    (List.perm_ext_iff_of_nodup entries.distinct keys.nodup_dedup).2 fun key =>
      (same key).trans List.mem_dedup.symm
  simpa [Entries.keys, size] using shuffled.length_eq

theorem putAll_map {change : κ → α → α} {entries : Entries κ α} :
    entries.putAll (entries.map change).pairs = entries.map change := by
  have present : ∀ pair ∈ (entries.map change).pairs, pair.1 ∈ entries.keys := by
    intro pair member
    rw [← keys_map]
    exact List.mem_map.2 ⟨pair, member, rfl⟩
  refine ext_get? ((keys_putAll_of_subset present).trans keys_map.symm) fun key => ?_
  rw [get?_putAll, get?_map]
  cases entries.get? key <;> rfl

section Sorted

variable {entries : Entries String α}

theorem get?_sorted {key : String} : entries.sorted.get? key = entries.get? key := by
  refine Option.ext fun value => ?_
  rw [get?_eq_some_iff, get?_eq_some_iff]
  exact (List.mergeSort_perm _ _).mem_iff

theorem sorted_map {change : String → α → β} : (entries.map change).sorted = entries.sorted.map change := by
  refine ext_pairs ?_
  exact (List.map_mergeSort (f := fun pair : String × α => (pair.1, change pair.1 pair.2)) fun _ _ _ _ => rfl).symm

end Sorted

end Progression.Entries
