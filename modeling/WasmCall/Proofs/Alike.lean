import Mathlib.Data.List.Forall2
import WasmCall.Proofs.Boundary
import WasmCall.Proofs.Callable.Phases

/-!
# Values which differ in their handles only

A handle which comes out of a machine has a number which no other handle has.  So what two programs
see of the same function may differ, but only in the numbers of handles: references are *alike* if
they stand for the same function.

Nothing that happens in a call depends on more than that.  Each phase takes arguments which are alike
to the same error, or to results which are alike: the coercion (`agrees_operands`), the way into the
machine (`lowerAll_alike`), which forgets all differences, the way out of it (`agrees_raiseAll`), and
the last phase (`agrees_decode`).
-/

namespace WasmCall

/-- The function which a handle stands for, with its instance. -/
def Handle.function? : Handle → Option (InstanceId × Nat)
  | .held _ (.function owner f) => some (owner, f)
  | _ => none

/-- Both references are null, or they stand for the same function, or neither of them stands for a
function. -/
structure Handle.Alike (g g' : Handle) : Prop where
  null : g.isNull = g'.isNull
  function : g.function? = g'.function?

/-- Values are alike if they are the same or references which are alike. -/
inductive Value.Alike : Value → Value → Prop
  | same (v : Value) : Alike v v
  | ref (g g' : Handle) (hg : g.Alike g') : Alike (.ref g) (.ref g')

/-- Operands are alike if they are the same or references which are alike. -/
inductive Operand.Alike : Operand → Operand → Prop
  | same (r : Operand) : Alike r r
  | ref (g g' : Handle) (hg : g.Alike g') : Alike (.ref g) (.ref g')

/-- Results of the same shape with values which are alike. -/
inductive CallResult.Alike : CallResult → CallResult → Prop
  | none : Alike .none .none
  | single (v v' : Value) (hv : v.Alike v') : Alike (.single v) (.single v')
  | multiple (vs vs' : List Value) (hvs : List.Forall₂ Value.Alike vs vs') :
      Alike (.multiple vs) (.multiple vs')

/-- The same error twice, or results which are related. -/
inductive Agrees {α β : Type} (R : α → β → Prop) : Except CallError α → Except CallError β → Prop
  | error (e : CallError) : Agrees R (.error e) (.error e)
  | ok (a : α) (b : β) (hab : R a b) : Agrees R (.ok a) (.ok b)

section Agrees

variable {α β γ δ : Type} {R : α → β → Prop} {S : γ → δ → Prop} {x : Except CallError α}
  {y : Except CallError β}

theorem Agrees.cases (h : Agrees R x y) :
    (∃ e, x = .error e ∧ y = .error e) ∨ ∃ a b, x = .ok a ∧ y = .ok b ∧ R a b := by
  cases h with
  | error e => exact .inl ⟨e, rfl, rfl⟩
  | ok a b hab => exact .inr ⟨a, b, rfl, rfl, hab⟩

/-- What goes on alike from related results agrees in the end. -/
theorem Agrees.bind {f : α → Except CallError γ} {g : β → Except CallError δ} (h : Agrees R x y)
    (hfg : ∀ a b, R a b → Agrees S (f a) (g b)) : Agrees S (x >>= f) (y >>= g) := by
  cases h with
  | error e => exact .error e
  | ok a b hab => exact hfg a b hab

theorem Agrees.refl {R : α → α → Prop} (hR : ∀ a, R a a) (x : Except CallError α) :
    Agrees R x x := by
  cases x with
  | error e => exact .error e
  | ok a => exact .ok a a (hR a)

end Agrees

theorem Operand.Alike.kind {r r' : Operand} (h : r.Alike r') : r.kind = r'.kind := by
  cases h <;> rfl

theorem Operand.Alike.toValue {r r' : Operand} (h : r.Alike r') : r.toValue.Alike r'.toValue := by
  cases h with
  | same r => exact .same _
  | ref g g' hg => exact .ref g g' hg

section Arguments

variable {policy : OverflowPolicy} {index : Nat} {kind : Kind} {kinds : List Kind}
  {vs vs' : List Value}

/-- References are coerced alike, and to whatever kind they are not coerced, the error does not say
more than that they are references. -/
theorem agrees_coerce {v v' : Value} (h : v.Alike v') :
    Agrees Operand.Alike (coerce policy index kind v) (coerce policy index kind v') := by
  cases h with
  | same v => exact .refl Operand.Alike.same _
  | ref g g' hg =>
      cases kind with
      | ref => exact .ok _ _ (.ref g g' hg)
      | i32 => exact .error _
      | i64 => exact .error _
      | f32 => exact .error _
      | f64 => exact .error _

theorem agrees_coerceFrom (h : List.Forall₂ Value.Alike vs vs') :
    Agrees (List.Forall₂ Operand.Alike) (coerceFrom policy index kinds vs)
      (coerceFrom policy index kinds vs') := by
  induction h generalizing index kinds with
  | nil => cases kinds <;> exact .ok _ _ .nil
  | cons hv hvs ih =>
      cases kinds with
      | nil => exact .ok _ _ .nil
      | cons kind kinds =>
          apply (agrees_coerce hv).bind
          intro r r' hr
          apply ih.bind
          intro rs rs' hrs
          exact .ok _ _ (.cons hr hrs)

/-- Arguments which are alike are refused for the same reason or give operands which are alike. -/
theorem agrees_operands {ι : Type} (c : Callable ι) (h : List.Forall₂ Value.Alike vs vs') :
    Agrees (List.Forall₂ Operand.Alike) (c.operands vs) (c.operands vs') := by
  unfold Callable.operands
  rw [h.length_eq]
  split
  · exact agrees_coerceFrom h
  · exact .error _

end Arguments

namespace Boundary

open Wasm

variable {owner : InstanceId}

/-- A machine cannot tell references apart which are alike. -/
theorem lower_alike {index : Nat} {r r' : Operand} (h : r.Alike r') :
    lower owner index r = lower owner index r' := by
  cases h with
  | same r => rfl
  | ref g g' hg =>
      obtain ⟨hnull, hfunction⟩ := hg
      cases g with
      | null =>
          cases g' with
          | null => rfl
          | held number' payload' => cases hnull
      | held number payload =>
          cases g' with
          | null => cases hnull
          | held number' payload' =>
              cases payload <;> cases payload' <;>
                simp_all [Handle.function?, lower]

theorem lowerFrom_alike {index : Nat} {rs rs' : List Operand}
    (h : List.Forall₂ Operand.Alike rs rs') :
    lowerFrom owner index rs = lowerFrom owner index rs' := by
  induction h generalizing index with
  | nil => rfl
  | cons hr hrs ih => simp only [lowerFrom, lower_alike hr, ih]

/-- The values which enter a machine are the same for operands which are alike. -/
theorem lowerAll_alike {rs rs' : List Operand} (h : List.Forall₂ Operand.Alike rs rs') :
    lowerAll owner rs = lowerAll owner rs' :=
  lowerFrom_alike h

/-- Handles for the same function are alike, whatever their numbers are. -/
theorem agrees_raise (supply supply' : HandleSupply) (v : Val) :
    Agrees Operand.Alike (raise owner supply v).1 (raise owner supply' v).1 := by
  cases v with
  | i32 n => exact .ok _ _ (.same _)
  | i64 n => exact .ok _ _ (.same _)
  | f32 bits => exact .ok _ _ (.same _)
  | f64 bits => exact .ok _ _ (.same _)
  | v128 low high => exact .error _
  | external => exact .error _
  | func f =>
      cases f with
      | none => exact .ok _ _ (.same _)
      | some f => exact .ok _ _ (.ref _ _ ⟨rfl, rfl⟩)

/-- Values leave the machine one after another, each with what is left of the supply. -/
theorem raiseAll_cons (supply : HandleSupply) (v : Val) (vs : List Val) :
    (raiseAll owner supply (v :: vs)).1 = (do
      let r ← (raise owner supply v).1
      let rs ← (raiseAll owner (raise owner supply v).2 vs).1
      return r :: rs) := by
  rw [raiseAll]
  cases raise owner supply v with
  | mk first between =>
      cases first with
      | error e => rfl
      | ok r =>
          simp only
          cases raiseAll owner between vs with
          | mk rest behind => cases rest <;> rfl

/-- The operands for values are alike, whatever handles are free. -/
theorem agrees_raiseAll (supply supply' : HandleSupply) (vs : List Val) :
    Agrees (List.Forall₂ Operand.Alike) (raiseAll owner supply vs).1
      (raiseAll owner supply' vs).1 := by
  induction vs generalizing supply supply' with
  | nil => exact .ok _ _ .nil
  | cons v vs ih =>
      rw [raiseAll_cons, raiseAll_cons]
      apply (agrees_raise supply supply' v).bind
      intro r r' hr
      apply (ih _ _).bind
      intro rs rs' hrs
      exact .ok _ _ (.cons hr hrs)

end Boundary

section Results

variable {rs rs' : List Operand}

/-- A difference from what was declared is one of kinds, so it is the same for operands which are
alike. -/
theorem ResultFault.firstKind?_alike (index : Nat) (declared : List Kind)
    (h : List.Forall₂ Operand.Alike rs rs') :
    firstKind? index declared rs = firstKind? index declared rs' := by
  induction h generalizing index declared with
  | nil => rfl
  | cons hr hrs ih =>
      cases declared with
      | nil => rfl
      | cons kind declared => simp only [firstKind?, hr.kind, ih]

theorem ResultFault.find?_alike (declared : List Kind) (h : List.Forall₂ Operand.Alike rs rs') :
    find? declared rs = find? declared rs' := by
  simp only [find?, h.length_eq, firstKind?_alike 0 declared h]

theorem alike_ofShape (shape : ResultShape) {vs vs' : List Value}
    (h : List.Forall₂ Value.Alike vs vs') :
    (CallResult.ofShape shape vs).Alike (.ofShape shape vs') := by
  cases shape with
  | none => exact .none
  | multiple => exact .multiple _ _ h
  | single =>
      cases h with
      | nil => exact .none
      | cons hv hvs => exact .single _ _ hv

/-- Operands which are alike give the same error or results which are alike. -/
theorem agrees_decode {ι : Type} (c : Callable ι) (h : List.Forall₂ Operand.Alike rs rs') :
    Agrees CallResult.Alike (c.decode rs) (c.decode rs') := by
  have hvalues : List.Forall₂ Value.Alike (rs.map Operand.toValue) (rs'.map Operand.toValue) := by
    rw [List.forall₂_map_left_iff, List.forall₂_map_right_iff]
    exact h.imp fun _ _ hr => hr.toValue
  unfold Callable.decode
  rw [ResultFault.find?_alike _ h]
  cases ResultFault.find? c.signature.results rs' with
  | some fault => exact .error _
  | none => exact .ok _ _ (alike_ofShape _ hvalues)

end Results

end WasmCall
