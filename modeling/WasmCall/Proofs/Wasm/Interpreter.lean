import Mathlib.Data.List.Nodup
import WasmCall.Engine
import WasmCall.Wasm.Interpreter

/-!
# What is known of the interpreter

The interpreter has everything which results about a machine may ask for: it `refuels`, `gauges` and
`overwrites` its fuel, it is `typed` and `determined`, and it is right about what a module exports
(`exporting`).  A linked module has no imports and keeps a store with fuel if fuel is metered
(`of_running`), and this is enough.

`Engine.interpreting` is an engine of the interpreter.
-/

namespace WasmCall

namespace Wasm

/-- A function which returns gives values of its result types. -/
theorem Program.typesOf_of_invoke {p : Program} {limit : Option Nat} {index : Nat}
    {args vs : List Val} {s : State} {f : Function} (hf : p.functions[index]? = some f)
    (h : (p.invoke limit index args s).result = .ok vs) : typesOf vs = f.type.results := by
  -- Whichever way a function ends, its results are compared with its type.
  have htyped : ∀ results, typed f.type.results results = .ok vs → typesOf vs = f.type.results := by
    intro results hresults
    unfold typed at hresults
    split at hresults
    · rename_i htypes
      cases hresults
      exact htypes
    · cases hresults
  unfold invoke at h
  rw [hf] at h
  cases hstart : (start f args s).metered limit with
  | running c =>
      simp only [hstart] at h
      cases hrun : (c.run p limit maxSteps).2 with
      | error halt => simp [hrun, Except.bind] at h
      | ok results => exact htyped results (by simpa [hrun, Except.bind] using h)
  | finished c results =>
      simp only [hstart] at h
      exact htyped results h
  | halted c halt => simp [hstart] at h

/-- A call which returns was a call of some function. -/
theorem Program.exists_function_of_call {p : Program} {limit : Option Nat} {index slots : Nat}
    {args vs : List Val} {s : State} (h : (p.call limit index slots args s).result = .ok vs) :
    ∃ f, p.functions[index]? = some f ∧ typesOf vs = f.type.results := by
  unfold call at h
  cases hf : p.functions[index]? with
  | none => simp [hf] at h
  | some f =>
      simp only [hf] at h
      by_cases hfits : typesOf args = f.type.params ∧ f.type.results.length = slots
      · rw [if_pos hfits] at h
        exact ⟨f, rfl, typesOf_of_invoke hf h⟩
      · rw [if_neg hfits] at h
        cases h

namespace Module

variable {m : Module}

/-- No two exports of a valid module have the same name. -/
theorem nodup_exports (h : m.isValid = true) : (m.exports.map Export.name).Nodup := by
  simp only [isValid, exportsDistinct, Bool.and_eq_true, decide_eq_true_eq] at h
  tauto

/-- The functions of a module which imports none are those which it defines. -/
theorem funcTypes_of_function (himports : m.imports = []) {index : Nat} {f : Function}
    (h : m.program.functions[index]? = some f) : m.funcTypes[index]? = some f.type := by
  have hf : m.functions[index]? = some f := by simpa [program] using h
  simp [funcTypes, himports, hf]

end Module

namespace Interpreter

variable {m : Module} {s : Store} {metered : Bool}

theorem isValid_of_compile {c : Machine.Config} {source : List UInt8}
    (h : compile c source = .ok m) : m.isValid = true := by
  unfold compile at h
  split at h
  · rename_i found hfound
    cases h
    have hchecked := (Option.filter_eq_some_iff.1 hfound).2
    rw [Bool.and_eq_true] at hchecked
    exact hchecked.1
  · cases h

/-- A source is compiled if it is that of a valid module which fits into the pool. -/
theorem compile_of_valid {c : Machine.Config} {source : List UInt8} (hread : read? source = some m)
    (hvalid : m.isValid = true) (hadmits : admits c m = true) : compile c source = .ok m := by
  simp only [compile, hread, Option.filter, hvalid, hadmits, Bool.and_self, if_true]

/-- An instance is a module without imports, with the fuel which was there, less what was used. -/
theorem instantiate_eq_ok {live : Nat} {l : Module} {s' : Store}
    (h : s.instantiate live m = .ok (l, s')) :
    l = m ∧ m.imports = [] ∧ s'.fuel.isSome = s.fuel.isSome := by
  unfold Store.instantiate at h
  split at h
  · cases h
  · cases h
  · rename_i himport hlimit
    split at h
    · cases h
    · cases h
      refine ⟨rfl, ?_, by simp [Store.after]⟩
      cases hlist : m.imports with
      | nil => rfl
      | cons first rest => simp [Module.unknownImport?, hlist] at himport

theorem setFuel_eq_ok {n : UInt64} {s' : Store} (h : s.setFuel n = .ok s') :
    s.fuel.isSome = true ∧ s' = { s with fuel := some n } := by
  unfold Store.setFuel at h
  split at h
  · rename_i left hleft
    cases h
    exact ⟨by rw [hleft]; rfl, rfl⟩
  · cases h

theorem of_fresh {s : interpreter.Store} (h : interpreter.Fresh metered s) :
    (Store.fuel s).isSome = metered := by
  induction h with
  | @made c e hmade =>
      have hsame : e = c := by
        change newEngine c = .ok e at hmade
        unfold newEngine at hmade
        split at hmade
        · cases hmade
          rfl
        · cases hmade
      rw [hsame]
      change (if c.consumeFuel then some (0 : UInt64) else none).isSome = c.consumeFuel
      cases c.consumeFuel <;> rfl
  | fuelled hs hset ih =>
      obtain ⟨hsome, rfl⟩ := setFuel_eq_ok hset
      rw [← ih, hsome]
      rfl

/-- What holds of a linked module and its store at any time. -/
theorem of_running {m : interpreter.Linked} {s : interpreter.Store}
    (h : interpreter.Running metered m s) :
    (Store.fuel s).isSome = metered ∧ Module.imports m = [] := by
  induction h with
  | linked hs hlinked =>
      obtain ⟨rfl, himports, hfuel⟩ := instantiate_eq_ok hlinked
      exact ⟨hfuel.trans (of_fresh hs), himports⟩
  | fuelled hs hset ih =>
      obtain ⟨hsome, rfl⟩ := setFuel_eq_ok hset
      refine ⟨?_, ih.2⟩
      rw [← ih.1, hsome]
      rfl
  | called hs f args slots ih =>
      refine ⟨?_, ih.2⟩
      rw [← ih.1]
      exact Option.isSome_map

theorem refuels : interpreter.Refuels := by
  intro l s h n
  obtain ⟨left, hleft⟩ := Option.isSome_iff_exists.1 (of_running h).1
  exact ⟨{ s with fuel := some n }, by simp [interpreter, Store.setFuel, hleft]⟩

theorem gauges : interpreter.Gauges := by
  intro l s h
  obtain ⟨left, hleft⟩ := Option.isSome_iff_exists.1 (of_running h).1
  exact ⟨left, by simp [interpreter, Store.getFuel, hleft]⟩

theorem overwrites : interpreter.Overwrites where
  fuel := by
    intro l s s' n h hset
    obtain ⟨-, rfl⟩ := setFuel_eq_ok hset
    rfl
  state := by
    intro l s s' n h hset
    obtain ⟨-, rfl⟩ := setFuel_eq_ok hset
    rfl

theorem typed : interpreter.Typed := by
  intro metered l s name f slots args results h hfound hcall
  change ((l.program.call s.limit f slots args s.state).result.mapError (haltFault f)) =
    .ok results at hcall
  cases hresult : (l.program.call s.limit f slots args s.state).result with
  | error halt =>
      rw [hresult] at hcall
      cases hcall
  | ok vs =>
      rw [hresult] at hcall
      cases hcall
      obtain ⟨function, hfunction, htypes⟩ := Program.exists_function_of_call hresult
      have htype := Module.funcTypes_of_function (of_running h).2 hfunction
      change typesOf results = (l.funcTypes[f]?.getD ⟨[], []⟩).results
      rw [htypes, htype]
      rfl

/-- Fuel which looks alike is the same. -/
theorem fuel_of_alike {s t : Store} (hs : s.fuel.isSome = metered) (ht : t.fuel.isSome = metered)
    (h : interpreter.Alike metered s t) : s.fuel = t.fuel := by
  have hleft : ∀ u : Store, interpreter.fuelLeft u = u.fuel := by
    intro u
    change (Store.getFuel u).toOption = u.fuel
    unfold Store.getFuel
    cases u.fuel <;> rfl
  cases metered with
  | true => simpa only [hleft] using h.2 rfl
  | false =>
      rw [Option.isSome_eq_false_iff, Option.isNone_iff_eq_none] at hs ht
      rw [hs, ht]

theorem determined : interpreter.Determined where
  result := by
    intro metered l s t hs ht halike f args slots
    have hfuel := fuel_of_alike (of_running hs).1 (of_running ht).1 halike
    have hstate : s.state = t.state := halike.1
    simp only [interpreter, Store.call, Store.limit, hfuel, hstate]
  store := by
    intro metered l s t hs ht halike f args slots
    have hfuel := fuel_of_alike (of_running hs).1 (of_running ht).1 halike
    have hstate : s.state = t.state := halike.1
    simp only [Machine.Alike, Machine.fuelLeft, interpreter, Store.call, Store.limit, Store.after,
      Store.getFuel, hfuel, hstate]
    exact ⟨trivial, fun _ => trivial⟩

/-- The function of a name is an exported one of that name, if no two exports have the same name. -/
theorem isSome_func?_iff (h : (m.exports.map Export.name).Nodup) (name : String) :
    (func? m name).isSome = true ↔ ⟨name, .func⟩ ∈ exports m := by
  unfold func? exports
  rw [List.mem_map]
  constructor
  · intro hsome
    split at hsome
    · rename_i x hx
      split at hsome
      · rename_i hkind
        refine ⟨x, List.mem_of_find?_eq_some hx, ?_⟩
        rw [← hkind, ← (by simpa using List.find?_some hx : x.name = name)]
      · cases hsome
    · cases hsome
  · rintro ⟨x, hx, heq⟩
    obtain ⟨rfl, hkind⟩ := Machine.Extern.mk.inj heq
    have hfind : m.exports.find? (·.name == x.name) = some x := by
      cases hfound : m.exports.find? (·.name == x.name) with
      | none => simpa using List.find?_eq_none.1 hfound x hx
      | some y =>
          have hname : y.name = x.name := by simpa using List.find?_some hfound
          exact congrArg some (List.inj_on_of_nodup_map h (List.mem_of_find?_eq_some hfound) hx hname)
    simp [hfind, hkind]

theorem exporting : interpreter.Exporting where
  unique := by
    intro e source m hcompile
    change ((m.exports.map fun x : Export => (⟨x.name, x.kind⟩ : Machine.Extern)).map
      Machine.Extern.name).Nodup
    rw [List.map_map]
    exact Module.nodup_exports (isValid_of_compile hcompile)
  linked := by
    intro e source m live s s' l hcompile hlinked
    obtain ⟨rfl, -⟩ := instantiate_eq_ok hlinked
    exact .refl _
  found := by
    intro e source m live s s' l hcompile hlinked name
    obtain ⟨rfl, -⟩ := instantiate_eq_ok hlinked
    exact isSome_func?_iff (Module.nodup_exports (isValid_of_compile hcompile)) name

end Interpreter

end Wasm

/-- An engine of the interpreter, as it is if nothing is set. -/
def Engine.interpreting : Engine Wasm.interpreter :=
  ⟨.default, EngineSettings.default.config, rfl⟩

end WasmCall
