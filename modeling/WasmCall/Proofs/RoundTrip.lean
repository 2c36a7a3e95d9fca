import WasmCall.Proofs.Alike
import WasmCall.Proofs.Callable.Phases
import WasmCall.Proofs.Coercion.Numbers

/-!
# There and back

A value which leaves a machine becomes an operand, and the operand a value of the host.  All of this
is undone on the way back: what the host has is coerced to the kind which it had (`coerce_toValue`)
and lowered to the value which it was (`lower_of_raise`), with every bit of a number, and with the
function behind a handle.  The same holds of all values of a call together (`operands_toValue`,
`lowerAll_of_raiseAll`).
-/

namespace WasmCall

open Wasm

section Coercion

/-- An operand which became a value of the host is coerced to what it was. -/
theorem coerce_toValue (policy : OverflowPolicy) (index : Nat) (r : Operand) :
    coerce policy index r.kind r.toValue = .ok r := by
  cases r with
  | i32 n => exact coerce_of_stands rfl rfl ⟨n.le_toInt, n.toInt_lt⟩ ⟨rfl, rfl⟩ policy index
  | i64 n => exact coerce_of_stands rfl rfl ⟨n.le_toInt, n.toInt_lt⟩ ⟨rfl, rfl⟩ policy index
  | f32 bits => rfl
  | f64 bits => rfl
  | ref g => rfl

/-- Operands which became values of the host are accepted where their kinds are declared. -/
theorem Callable.operands_toValue {ι : Type} {c : Callable ι} {rs : List Operand}
    (hkinds : rs.map Operand.kind = c.signature.params) :
    c.operands (rs.map Operand.toValue) = .ok rs := by
  rw [operands_eq_ok_iff]
  constructor
  · rw [← hkinds, List.length_map, List.length_map]
  · intro i
    unfold coercion?
    rw [← hkinds, List.getElem?_map, List.getElem?_map]
    cases rs[i]? with
    | none => rfl
    | some r => exact congrArg some (coerce_toValue c.policy i r)

end Coercion

namespace Boundary

variable {owner : InstanceId} {supply : HandleSupply}

/-- A value which has left a machine comes back as it was. -/
theorem lower_of_raise {v : Val} {r : Operand} (h : (raise owner supply v).1 = .ok r)
    (index : Nat) : lower owner index r = .ok v := by
  cases v with
  | i32 n => cases h; rfl
  | i64 n => cases h; rfl
  | f32 bits => cases h; rfl
  | f64 bits => cases h; rfl
  | v128 low high => cases h
  | external => cases h
  | func f =>
      cases f with
      | none => cases h; rfl
      | some f =>
          -- The handle names the machine which it came from.
          cases h
          exact if_pos rfl

theorem kind_of_raise {v : Val} {r : Operand} (h : (raise owner supply v).1 = .ok r) :
    v.type = typeOf r.kind :=
  type_of_lower (lower_of_raise h 0)

theorem lowerFrom_of_raiseAll {vs : List Val} {rs : List Operand}
    (h : (raiseAll owner supply vs).1 = .ok rs) (index : Nat) :
    lowerFrom owner index rs = .ok vs := by
  induction vs generalizing supply rs index with
  | nil => cases h; rfl
  | cons v vs ih =>
      rw [raiseAll_cons] at h
      cases hfirst : (raise owner supply v).1 with
      | error e => rw [hfirst] at h; cases h
      | ok r =>
          rw [hfirst] at h
          cases hrest : (raiseAll owner (raise owner supply v).2 vs).1 with
          | error e => rw [hrest] at h; cases h
          | ok rs' =>
              rw [hrest] at h
              cases h
              simp only [lowerFrom, lower_of_raise hfirst index, ih hrest (index + 1)]
              rfl

/-- Values which have left a machine together come back as they were. -/
theorem lowerAll_of_raiseAll {vs : List Val} {rs : List Operand}
    (h : (raiseAll owner supply vs).1 = .ok rs) : lowerAll owner rs = .ok vs :=
  lowerFrom_of_raiseAll h 0

end Boundary

end WasmCall
