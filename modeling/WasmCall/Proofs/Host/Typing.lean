import Mathlib.Data.List.Forall2
import WasmCall.Proofs.Host.Run

/-!
# Types at the boundary

The type of an exported function, the kinds in the signature of its callable, the operands and the
values on both sides of the boundary all agree.  So whatever arguments a program gives, the
machine is entered with values of the parameter types, and what comes back from a typed machine has
the result types.

* `Carries`: which values of the host stand for which type of the machine.
* `Typed`: what a call has to do with the type of its function, and `Run.call_typed`: every call
  of every callable which was obtained does so.
-/

namespace WasmCall.Host

variable {M : Machine} {h : Host M} {i : Instance M} {past : List (Step M)}
  {c : Callable FunctionRef} {elapsed : Nat}

/-- The values of the host which stand for values of a type. -/
inductive Carries : Wasm.ValType → Value → Prop
  | i32 (n : Int32) : Carries .i32 (.i32 n)
  | i64 (n : Int64) : Carries .i64 (.i64 n)
  | f32 (bits : UInt32) : Carries .f32 (.f32 bits)
  | f64 (bits : UInt64) : Carries .f64 (.f64 bits)
  | funcref (g : Handle) : Carries .funcref (.ref g)

theorem carries_toValue (r : Operand) : Carries (Boundary.typeOf r.kind) r.toValue := by
  cases r with
  | i32 n => exact .i32 n
  | i64 n => exact .i64 n
  | f32 bits => exact .f32 bits
  | f64 bits => exact .f64 bits
  | ref g => exact .funcref g

/-- Operands of the kinds of a signature are values of the types which these kinds have. -/
theorem forall₂_carries {rs : List Operand} {kinds : List Kind}
    (hkinds : rs.map Operand.kind = kinds) :
    List.Forall₂ Carries (kinds.map Boundary.typeOf) (rs.map Operand.toValue) := by
  rw [← hkinds, List.map_map, List.forall₂_map_left_iff, List.forall₂_map_right_iff,
    List.forall₂_same]
  intro r _
  exact carries_toValue r

/-- A call which keeps to a type of functions.

* `passed`: a machine is entered with values of the parameter types.
* `roomy`: there is room for just the results.
* `answered`: the arguments are to blame, or the machine trapped, or there is a result which
  consists of values for the result types, in the shape for their number.
* `matched`: what comes back is never other than declared. -/
structure Typed (h : Host M) (elapsed : Nat) (c : Callable FunctionRef) (args : List Value)
    (type : Wasm.FuncType) : Prop where
  passed : ∀ entered ∈ h.entries elapsed c args, Wasm.typesOf entered.args = type.params
  roomy : ∀ entered ∈ h.entries elapsed c args, entered.function.slots = type.results.length
  answered : (∃ e, (h.call elapsed c args).result = .error e ∧
      (e.isArgumentError = true ∨ e.isTrap = true)) ∨
    ∃ r, (h.call elapsed c args).result = .ok r ∧ r.Shaped type.results.length ∧
      List.Forall₂ Carries type.results r.toList
  matched : ∀ reason, (h.call elapsed c args).result ≠ .error (.resultMismatch reason)

/-- The machine is entered with values of the parameter types. -/
theorem typesOf_entries (hi : h.find? c.target.owner = some i) (hc : i.Exported c)
    {args : List Value} {entered : Instance.Entered}
    (hentered : entered ∈ h.entries elapsed c args) :
    Wasm.typesOf entered.args = (M.typeOf i.linked c.target.index).params := by
  obtain ⟨s, hcalled, -⟩ := called_call hi elapsed args
  obtain ⟨-, -, operands, haccepted, hlowered⟩ := hcalled.lowered hentered
  calc
    Wasm.typesOf entered.args = (operands.map Operand.kind).map Boundary.typeOf :=
      Boundary.typesOf_of_lowerAll hlowered
    _ = c.signature.params.map Boundary.typeOf := by rw [haccepted.kinds]
    _ = (M.typeOf i.linked c.target.index).params := hc.params.symm

/-- The room for the results, which the signature has set aside, is that of the function type. -/
theorem slots_entries (hi : h.find? c.target.owner = some i) (hc : i.Exported c)
    {args : List Value} {entered : Instance.Entered}
    (hentered : entered ∈ h.entries elapsed c args) :
    entered.function.slots = (M.typeOf i.linked c.target.index).results.length := by
  obtain ⟨s, hcalled, -⟩ := called_call hi elapsed args
  obtain ⟨-, htarget, -⟩ := hcalled.lowered hentered
  rw [htarget, hc.room, hc.results, List.length_map]

/-- A call has one of three answers on a typed machine. -/
theorem WellFormed.call_answered (hh : h.WellFormed) (hi : h.find? c.target.owner = some i)
    (hc : i.Exported c) (htyped : M.Typed) (elapsed : Nat) (args : List Value) :
    (∃ e, (h.call elapsed c args).result = .error e ∧
        (e.isArgumentError = true ∨ e.isTrap = true)) ∨
      ∃ r, (h.call elapsed c args).result = .ok r ∧
        r.Shaped (M.typeOf i.linked c.target.index).results.length ∧
        List.Forall₂ Carries (M.typeOf i.linked c.target.index).results r.toList := by
  obtain ⟨s, hcalled, -⟩ := called_call hi elapsed args
  cases hresult : (h.call elapsed c args).result with
  | error e =>
      rw [hresult] at hcalled
      refine .inl ⟨e, rfl, ?_⟩
      rcases hcalled.error_cases with ⟨hblame, -⟩ | ⟨-, hrefuel, -⟩ | ⟨-, -, htrap | hmismatch⟩
      · exact .inl hblame
      · exact .inr (Instance.refuel_eq_error hrefuel).1
      · exact .inr htrap
      · obtain ⟨full, values, results, reason, hrefuel, henter, hmistyped, -⟩ := hmismatch
        have hwell := hh.wellMade i (mem_of_find? hi).1
        exact absurd (hwell.typesOf_of_enter htyped hc hrefuel henter) hmistyped
  | ok r =>
      rw [hresult] at hcalled
      obtain ⟨values, results, raised, -, -, hkinds, hshape, hvalues⟩ := hcalled.eq_ok
      refine .inr ⟨r, rfl, ?_, ?_⟩
      · rw [hc.results, List.length_map]
        exact hshape
      · rw [hc.results, hvalues]
        exact forall₂_carries hkinds

theorem WellFormed.typed (hh : h.WellFormed) (hi : h.find? c.target.owner = some i)
    (hc : i.Exported c) (htyped : M.Typed) (elapsed : Nat) (args : List Value) :
    Typed h elapsed c args (M.typeOf i.linked c.target.index) where
  passed := fun _ hentered => typesOf_entries hi hc hentered
  roomy := fun _ hentered => slots_entries hi hc hentered
  answered := hh.call_answered hi hc htyped elapsed args
  matched := by
    rintro reason hmismatch
    rcases hh.call_answered hi hc htyped elapsed args with ⟨e, he, hblame⟩ | ⟨r, hr, -, -⟩
    · rw [hmismatch] at he
      cases he
      simp [CallError.isArgumentError, CallError.isTrap] at hblame
    · rw [hmismatch] at hr
      cases hr

/-- In every run on a typed machine, a call of a callable which was obtained keeps to the type of the
function which its instance exports under the name. -/
theorem Run.call_typed {e : Engine M} (hrun : Run e past h)
    (hobtained : ∃ step ∈ past, step.Obtains c) (hi : h.find? c.target.owner = some i)
    (htyped : M.Typed) :
    i.Exported c ∧
      ∀ elapsed args, Typed h elapsed c args (M.typeOf i.linked c.target.index) := by
  have hc := (hrun.sound.offers hobtained hi).exported
  exact ⟨hc, fun elapsed args => hrun.sound.wellFormed.typed hi hc htyped elapsed args⟩

/-- The function `take` of the second instance of `relay`, with any arguments. -/
theorem typed_relay : ∃ i, (relayState 5).2.find? ⟨1⟩ = some i ∧ i.Exported relayTake ∧
    ∀ elapsed args, Typed (relayState 5).2 elapsed relayTake args ⟨[.funcref], []⟩ := by
  obtain ⟨hexported, htyped⟩ :=
    run_relay.call_typed obtains_relayTake rfl Wasm.Interpreter.typed
  exact ⟨_, rfl, hexported, htyped⟩

end WasmCall.Host
