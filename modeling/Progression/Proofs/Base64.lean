import Mathlib.Data.List.Basic
import Mathlib.Data.List.TakeWhile
import Mathlib.Tactic.IntervalCases
import Progression.Text.Base64

namespace Progression.Text.Base64

/-- The sextets of bytes, in the groups in which they are written. -/
def sextets : List UInt8 → List Nat
  | [] => []
  | [a] => [a.toNat / 4, a.toNat % 4 * 16]
  | [a, b] => [a.toNat / 4, a.toNat % 4 * 16 + b.toNat / 16, b.toNat % 16 * 4]
  | a :: b :: c :: rest =>
    a.toNat / 4 :: (a.toNat % 4 * 16 + b.toNat / 16) :: (b.toNat % 16 * 4 + c.toNat / 64) :: c.toNat % 64
      :: sextets rest

theorem encode_eq {bytes : List UInt8} : encode bytes = (sextets bytes).map letter := by
  fun_induction sextets bytes with
  | case4 a b c rest ih => rw [encode, ih]; rfl
  | _ => rfl

theorem sextets_lt {bytes : List UInt8} : ∀ sextet ∈ sextets bytes, sextet < 64 := by
  fun_induction sextets bytes with
  | case1 => simp
  | case2 a => have := a.toNat_lt; simp; omega
  | case3 a b => have := a.toNat_lt; have := b.toNat_lt; simp; omega
  | case4 a b c rest ih =>
    have := a.toNat_lt
    have := b.toNat_lt
    have := c.toNat_lt
    simp only [List.forall_mem_cons]
    exact ⟨by omega, by omega, by omega, by omega, ih⟩

theorem paddingFits_sextets {bytes : List UInt8} : paddingFits (sextets bytes).length 0 = true := by
  have rest : (sextets bytes).length % 4 ≠ 1 := by
    fun_induction sextets bytes with
    | case4 a b c rest ih => simp only [List.length_cons]; omega
    | _ => simp
  have bound := Nat.mod_lt (sextets bytes).length (show 0 < 4 by decide)
  rw [paddingFits]
  interval_cases (sextets bytes).length % 4 <;> simp_all

theorem bytesOf_sextets {bytes : List UInt8} : bytesOf (sextets bytes) = bytes := by
  have byte {n : Nat} {a : UInt8} (same : n = a.toNat) : UInt8.ofNat n = a := by rw [same, UInt8.ofNat_toNat]
  fun_induction sextets bytes with
  | case1 => rfl
  | case2 a =>
    rw [bytesOf, byte (a := a) (by omega)]
  | case3 a b =>
    have := b.toNat_lt
    rw [bytesOf, byte (a := a) (by omega), byte (a := b) (by omega)]
  | case4 a b c rest ih =>
    have := b.toNat_lt
    have := c.toNat_lt
    rw [bytesOf, byte (a := a) (by omega), byte (a := b) (by omega), byte (a := c) (by omega), ih]

theorem sextet?_letter {sextet : Nat} (bound : sextet < 64) : sextet? (letter sextet) = some sextet := by
  have all : (List.range 64).all (fun sextet => sextet? (letter sextet) = some sextet) = true := by decide
  simpa using List.all_eq_true.1 all sextet (List.mem_range.2 bound)

/-- Bytes are read back from the letters that are written for them. -/
theorem decode?_encode {bytes : List UInt8} : decode? (encode bytes) = some bytes := by
  have read : ∀ c ∈ (sextets bytes).map letter, (sextet? c).isSome = true := by
    intro c member
    obtain ⟨sextet, inside, rfl⟩ := List.mem_map.1 member
    rw [sextet?_letter (sextets_lt sextet inside), Option.isSome_some]
  have back : ((sextets bytes).map letter).filterMap sextet? = sextets bytes := by
    rw [List.filterMap_map]
    exact (List.filterMap_congr (g := some) fun sextet inside => sextet?_letter (sextets_lt sextet inside)).trans
      List.filterMap_some
  rw [encode_eq, decode?, List.takeWhile_eq_self_iff.2 read, List.dropWhile_eq_nil_iff.2 read, back,
    bytesOf_sextets]
  simp [paddingFits_sextets]

theorem toList_eq {bytes : ByteArray} : bytes.toList = bytes.data.toList := by
  have rest (i : Nat) (read : List UInt8) :
      ByteArray.toList.loop bytes i read = read.reverse ++ bytes.data.toList.drop i := by
    fun_induction ByteArray.toList.loop bytes i read with
    | case1 i read inside ih =>
      have inside : i < bytes.data.size := inside
      have next : bytes.data.toList.drop i = bytes.data[i] :: bytes.data.toList.drop (i + 1) :=
        List.drop_eq_getElem_cons (by simpa using inside)
      rw [ih, next, ByteArray.get!, getElem!_pos bytes.data i inside]
      simp
    | case2 i read past =>
      have past : ¬ i < bytes.data.size := past
      rw [List.drop_eq_nil_of_le (by simpa using past), List.append_nil]
  rw [ByteArray.toList, rest, List.reverse_nil, List.nil_append, List.drop_zero]

theorem toText?_ofText (text : String) : toText? (ofText text) = some text := by
  have bytes : (⟨text.toUTF8.toList.toArray⟩ : ByteArray) = text.toUTF8 := by
    rw [toList_eq, Array.toArray_toList]
  rw [toText?, ofText, String.toList_ofList, decode?_encode, Option.bind_some, bytes]
  exact dif_pos text.isValidUTF8

theorem isSome_sextet?_ofText {text : String} : ∀ c ∈ (ofText text).toList, (sextet? c).isSome = true := by
  rw [ofText, String.toList_ofList, encode_eq]
  intro c member
  obtain ⟨sextet, inside, rfl⟩ := List.mem_map.1 member
  rw [sextet?_letter (sextets_lt sextet inside), Option.isSome_some]

end Progression.Text.Base64
