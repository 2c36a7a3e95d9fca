import Mathlib.Data.List.Nodup
import Mathlib.Tactic.Common
import WasmCall.Exports

/-!
# Names in the order of their bytes

A listing shows names in ascending order.  Names are compared character by character
(`Exports.sortedNames`), and this is the order of the bytes in which they are encoded
(`bytes_lt_of_lt`): of two characters, the one with the larger number has the larger bytes, whatever
follows (`encode_lt`).  So names of which no two are the same come strictly one behind the other
(`ascending_sortedNames`).
-/

namespace WasmCall.Exports

/-- The bytes in which a name is encoded. -/
def bytes (name : String) : List UInt8 :=
  name.toUTF8.data.toList

theorem bytes_eq_flatMap (name : String) :
    bytes name = name.toList.flatMap String.utf8EncodeChar := by
  rw [bytes, String.toUTF8_eq_toByteArray, ← String.utf8Encode_toList, List.utf8Encode,
    List.toList_data_toByteArray]

/-- Characters are numbered up to a bound. -/
theorem toNat_val_lt (c : Char) : c.val.toNat < 0x110000 := by
  rcases c.valid with h | ⟨-, h⟩
  · exact Nat.lt_trans h (by decide)
  · exact h

/-- A character comes before another one if its bytes do, whatever follows either of them. -/
theorem encode_lt {c d : Char} (h : c < d) (s t : List UInt8) :
    String.utf8EncodeChar c ++ s < String.utf8EncodeChar d ++ t := by
  have hlt : c.val.toNat < d.val.toNat := h
  have hc := toNat_val_lt c
  have hd := toNat_val_lt d
  unfold String.utf8EncodeChar
  generalize c.val.toNat = m at *
  generalize d.val.toNat = n at *
  have hdigits : ∀ k : Nat, k / 64 / 64 = k / 4096 ∧ k / 4096 / 64 = k / 262144 :=
    fun k => by omega
  have hm := hdigits m
  have hn := hdigits n
  -- The first byte tells how many there are, and more of them stand for a larger number.  The others
  -- are digits.
  simp only
  split_ifs <;>
    simp (disch := omega) only [List.cons_append, List.nil_append, List.cons_lt_cons_iff,
      UInt8.lt_iff_toNat_lt, ← UInt8.toNat_inj, UInt8.toNat_ofNat', Nat.mod_eq_of_lt] <;>
    omega

/-- Names are in the order of their bytes. -/
theorem bytes_lt_of_lt {a b : String} (h : a < b) : bytes a < bytes b := by
  rw [bytes_eq_flatMap, bytes_eq_flatMap]
  have hlists : List.Lex (· < ·) a.toList b.toList := h
  generalize a.toList = cs at hlists
  generalize b.toList = ds at hlists
  induction hlists with
  | @nil d ds =>
      rw [List.flatMap_nil, List.flatMap_cons]
      cases hd : String.utf8EncodeChar d with
      | nil => exact absurd hd String.utf8EncodeChar_ne_nil
      | cons byte rest => exact List.nil_lt_cons _ _
  | rel hcd =>
      rw [List.flatMap_cons, List.flatMap_cons]
      exact encode_lt hcd _ _
  | cons hrest ih =>
      rw [List.flatMap_cons, List.flatMap_cons]
      exact List.append_left_lt ih

/-- Names are sorted, whatever they are. -/
theorem perm_sortedNames (names : List String) : (sortedNames names).Perm names :=
  List.mergeSort_perm names _

/-- Sorted names are in their order. -/
theorem pairwise_sortedNames (names : List String) : (sortedNames names).Pairwise (· ≤ ·) := by
  have hsorted : (sortedNames names).Pairwise fun a b => decide (a ≤ b) = true := by
    apply List.pairwise_mergeSort
    · intro a b c hab hbc
      simp only [decide_eq_true_eq] at hab hbc ⊢
      exact String.le_trans hab hbc
    · intro a b
      simpa using String.le_total a b
  exact hsorted.imp of_decide_eq_true

/-- There is one order in which names are sorted. -/
theorem sortedNames_eq_of_perm {names sorted : List String} (hperm : names.Perm sorted)
    (hsorted : sorted.Pairwise (· ≤ ·)) : sortedNames names = sorted :=
  List.Perm.eq_of_pairwise (fun _ _ _ _ hab hba => String.le_antisymm hab hba)
    (pairwise_sortedNames names) hsorted ((perm_sortedNames names).trans hperm)

/-- Names of which no two are the same are strictly ascending. -/
theorem ascending_sortedNames {names : List String} (h : names.Nodup) :
    (sortedNames names).Pairwise fun a b => bytes a < bytes b := by
  have hdistinct : (sortedNames names).Nodup := (perm_sortedNames names).nodup_iff.2 h
  refine ((pairwise_sortedNames names).and hdistinct).imp ?_
  rintro a b ⟨hle, hne⟩
  by_contra hnot
  exact hne (String.le_antisymm hle fun hba => hnot (bytes_lt_of_lt hba))

end WasmCall.Exports
