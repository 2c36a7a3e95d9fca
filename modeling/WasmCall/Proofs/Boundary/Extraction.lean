import WasmCall.Proofs.Outline
import WasmCall.Proofs.Wasm.Interpreter

/-!
# Signatures of types

A type of functions has a signature if all its parameters and results are of types which have kinds.
Vectors and references of the host have none.

* `Extracts`: the signature of a type, or the error which names the first type without a kind.
  Parameters come before results.
* `signatureOf_eq_iff`: the signature is computed as `Extracts` says, and in no other way.
* `exporting`: a valid module with a function of any name and type.

A list of types consists of the types of kinds, or it does up to a type without a kind
(`exists_kinds_or_first`), so one of the cases of `Extracts` always applies and none of them overlap.
-/

namespace WasmCall

/-- A module exports a function under a name, and its type is the given one. -/
def Wasm.Module.ExportsType (m : Wasm.Module) (name : String) (type : Wasm.FuncType) : Prop :=
  ∃ x ∈ m.exports, x.name = name ∧ x.kind = .func ∧ m.funcTypes[x.index]? = some type

namespace Boundary

open Wasm

/-- What becomes of a type of functions under a name.

* `signature`: all parameters and results are of the types of kinds.
* `parameter`: a parameter is of a type which has no kind, and those in front of it are not.
* `result`: all parameters are of the types of kinds, a result is not, and those in front of it are. -/
inductive Extracts (name : String) : FuncType → Except CallError Signature → Prop
  | signature (params results : List Kind) :
      Extracts name ⟨params.map typeOf, results.map typeOf⟩ (.ok ⟨params, results⟩)
  | parameter (before : List Kind) (t : ValType) (ht : t = .v128 ∨ t = .externref)
      (after results : List ValType) :
      Extracts name ⟨before.map typeOf ++ t :: after, results⟩ (.error
        (.unsupportedSignature name ("value type " ++ t.text ++ " has no supported kind")))
  | result (params before : List Kind) (t : ValType) (ht : t = .v128 ∨ t = .externref)
      (after : List ValType) :
      Extracts name ⟨params.map typeOf, before.map typeOf ++ t :: after⟩ (.error
        (.unsupportedSignature name ("value type " ++ t.text ++ " has no supported kind")))

variable {name : String} {t : FuncType} {s : Signature} {answer : Except CallError Signature}

theorem kindOf_eq_none_iff (t : ValType) : kindOf t = none ↔ t = .v128 ∨ t = .externref := by
  cases t <;> simp [kindOf]

theorem map_kindOf_typeOf (ks : List Kind) : (ks.map typeOf).map kindOf = ks.map some := by
  rw [List.map_map]
  exact List.map_congr_left fun k _ => (kindOf_eq_some_iff (typeOf k) k).2 rfl

theorem kindOf_ne_none_of_mem {ks : List Kind} {t : ValType} (ht : t ∈ ks.map typeOf) :
    kindOf t ≠ none := by
  obtain ⟨k, -, rfl⟩ := List.mem_map.1 ht
  rw [(kindOf_eq_some_iff (typeOf k) k).2 rfl]
  exact Option.some_ne_none k

/-- Types are those of kinds, all of them or those in front of the first type which has no kind. -/
theorem exists_kinds_or_first (ts : List ValType) :
    (∃ ks : List Kind, ts = ks.map typeOf) ∨
      ∃ (before : List Kind) (t : ValType) (after : List ValType),
        (t = .v128 ∨ t = .externref) ∧ ts = before.map typeOf ++ t :: after := by
  induction ts with
  | nil => exact .inl ⟨[], rfl⟩
  | cons t ts ih =>
      cases hkind : kindOf t with
      | none => exact .inr ⟨[], t, ts, (kindOf_eq_none_iff t).1 hkind, rfl⟩
      | some k =>
          obtain rfl := (kindOf_eq_some_iff t k).1 hkind
          rcases ih with ⟨ks, rfl⟩ | ⟨before, u, after, hu, rfl⟩
          · exact .inl ⟨k :: ks, rfl⟩
          · exact .inr ⟨k :: before, u, after, hu, rfl⟩

/-- Something becomes of every type. -/
theorem exists_extracts (name : String) (t : FuncType) : ∃ answer, Extracts name t answer := by
  obtain ⟨params, results⟩ := t
  rcases exists_kinds_or_first params with ⟨ks, rfl⟩ | ⟨before, u, after, hu, rfl⟩
  · rcases exists_kinds_or_first results with ⟨ls, rfl⟩ | ⟨before, u, after, hu, rfl⟩
    · exact ⟨_, .signature ks ls⟩
    · exact ⟨_, .result ks before u hu after⟩
  · exact ⟨_, .parameter before u hu after results⟩

theorem Extracts.signatureOf_eq (h : Extracts name t answer) : signatureOf name t = answer := by
  cases h with
  | signature params results =>
      rw [signatureOf, kindsOf_of_map (map_kindOf_typeOf params),
        kindsOf_of_map (map_kindOf_typeOf results)]
      rfl
  | parameter before u hu after results =>
      rw [signatureOf, kindsOf_append_cons (fun _ => kindOf_ne_none_of_mem)
        ((kindOf_eq_none_iff u).2 hu)]
      rfl
  | result params before u hu after =>
      rw [signatureOf, kindsOf_of_map (map_kindOf_typeOf params),
        kindsOf_append_cons (fun _ => kindOf_ne_none_of_mem) ((kindOf_eq_none_iff u).2 hu)]
      rfl

/-- What is computed is what becomes of the type. -/
theorem signatureOf_eq_iff : signatureOf name t = answer ↔ Extracts name t answer := by
  constructor
  · rintro rfl
    obtain ⟨answer, h⟩ := exists_extracts name t
    rw [h.signatureOf_eq]
    exact h
  · exact Extracts.signatureOf_eq

/-- The type is determined by its signature. -/
theorem eq_of_signatureOf (h : signatureOf name t = .ok s) :
    t = ⟨s.params.map typeOf, s.results.map typeOf⟩ := by
  cases signatureOf_eq_iff.1 h with
  | signature params results => rfl

/-- There is a signature unless a type has no kind. -/
theorem exists_signature_iff (name : String) (t : FuncType) :
    (∃ s, signatureOf name t = .ok s) ↔
      ∀ u ∈ t.params ++ t.results, u ≠ .v128 ∧ u ≠ .externref := by
  rw [signatureOf_eq_ok_iff, FuncType.Supported]
  refine forall₂_congr fun u _ => ?_
  rw [← not_or, ← kindOf_eq_none_iff, ← Option.ne_none_iff_exists']

section Exporting

/-- A module which exports one function of a given type, which does nothing but trap. -/
def exporting (name : String) (t : FuncType) : Module :=
  { Module.empty with
    types := [t]
    functions := [⟨t, [], [.unreachable]⟩]
    exports := [⟨name, .func, 0⟩] }

/-- Behind an instruction which does not let control pass there may be anything. -/
theorem popAll_unknown (ts : List ValType) : Operands.unknown.popAll ts = some .unknown := by
  unfold Operands.popAll
  induction ts.reverse with
  | nil => rfl
  | cons u us ih => exact ih

theorem isValid_exporting (name : String) (t : FuncType) : (exporting name t).isValid = true := by
  have hbody : (exporting name t).checkFunction ⟨t, [], [.unreachable]⟩ = true := by
    have hexactly : Operands.unknown.isExactly t.results = true := by
      rw [Operands.isExactly, popAll_unknown]
      rfl
    simpa [Module.checkFunction, Context.checkAll, Context.check, Context.checkPlain] using hexactly
  have hfunctions : (exporting name t).functions.all (exporting name t).checkFunction = true := by
    simpa [exporting] using hbody
  rw [Module.isValid, hfunctions]
  simp [exporting, Module.empty, Module.checkExport, Module.exportsDistinct, Module.checkStart,
    Module.count, Module.funcTypes]

theorem exportsType_exporting (name : String) (t : FuncType) :
    (exporting name t).ExportsType name t :=
  ⟨⟨name, .func, 0⟩, List.mem_singleton_self _, rfl, rfl, rfl⟩

/-- The interpreter finds the function, and it is of the type. -/
theorem func?_exporting (name : String) (t : FuncType) :
    interpreter.func? (exporting name t) name = some 0 := by
  change Interpreter.func? (exporting name t) name = some 0
  simp [Interpreter.func?, exporting]

end Exporting

/-- The signature of a type tells the type, and a type has one unless a kind is missing.

* What is computed is what becomes of the type, and nothing else.
* There is a signature exactly if no parameter and no result is a vector or a reference of the host.
* Types with the same signature are the same, whatever the names are.
* Every type occurs under every name in some valid module, where the interpreter finds it.
* On any machine, an instance resolves a name by the type of the function which is found under it. -/
theorem signature_extracted (name : String) (t : FuncType) :
    (∀ answer, signatureOf name t = answer ↔ Extracts name t answer) ∧
      ((∃ s, signatureOf name t = .ok s) ↔
        ∀ u ∈ t.params ++ t.results, u ≠ .v128 ∧ u ≠ .externref) ∧
      (∀ name' t' s, signatureOf name t = .ok s → signatureOf name' t' = .ok s → t = t') ∧
      (∃ m : Module, m.isValid = true ∧ m.ExportsType name t ∧
        ∃ index, interpreter.func? m name = some index ∧ interpreter.typeOf m index = t) ∧
      ∀ (M : Machine) (i : Instance M) (index : Nat), M.func? i.linked name = some index →
        M.typeOf i.linked index = t →
        (Instance.resolve name i).result.map Resolved.signature = signatureOf name t := by
  refine ⟨fun _ => signatureOf_eq_iff, exists_signature_iff name t, ?_,
    ⟨_, isValid_exporting name t, exportsType_exporting name t, 0, func?_exporting name t, rfl⟩, ?_⟩
  · intro name' t' s h h'
    rw [eq_of_signatureOf h, eq_of_signatureOf h']
  · intro M i index hindex htype
    have hresult : (Instance.resolve name i).result = i.resolved name := rfl
    rw [hresult, Instance.resolved_eq_map hindex, htype]
    cases signatureOf name t <;> rfl

section Examples

/-- A type of functions with two results which have no kind. -/
def opaqueResults : FuncType := ⟨[.i32, .funcref], [.f64, .externref, .v128]⟩

/-- An instance with a function of this type. -/
def opaqueInstance : Instance interpreter :=
  (Host.ofEngine .interpreting).newInstance .default (exporting "f" opaqueResults)
    (⟨EngineSettings.default.config, some 0, .empty⟩ : Interpreter.Store)

/-- The first of the results without a kind is the reason why there is no signature. -/
theorem extracted_opaque :
    interpreter.func? opaqueInstance.linked "f" = some 0 ∧
      interpreter.typeOf opaqueInstance.linked 0 = opaqueResults ∧
      (Instance.resolve "f" opaqueInstance).result.map Resolved.signature = .error
        (.unsupportedSignature "f" "value type (ref null extern) has no supported kind") ∧
      signatureOf "f" ⟨[.i32, .funcref], [.f64]⟩ = .ok ⟨[.i32, .ref], [.f64]⟩ ∧
      signatureOf "g" ⟨[.i32, .funcref], [.f64]⟩ = .ok ⟨[.i32, .ref], [.f64]⟩ ∧
      (⟨[.i32, .funcref], [.f64]⟩ : FuncType) = ⟨[.i32, .funcref], [.f64]⟩ := by
  have hfound := func?_exporting "f" opaqueResults
  have hresolved :=
    (signature_extracted "f" opaqueResults).2.2.2.2 interpreter opaqueInstance 0 hfound rfl
  exact ⟨hfound, rfl, hresolved.trans rfl, rfl, rfl,
    (signature_extracted "f" ⟨[.i32, .funcref], [.f64]⟩).2.2.1 "g" _ ⟨[.i32, .ref], [.f64]⟩ rfl rfl⟩

end Examples

end Boundary

end WasmCall
