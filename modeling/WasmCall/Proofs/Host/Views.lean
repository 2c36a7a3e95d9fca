import Mathlib.Data.List.Forall2
import WasmCall.Proofs.Compilation
import WasmCall.Proofs.Exports.Names
import WasmCall.Proofs.Host.Origin

/-!
# Views of the exports of a module

What functions a module exports can be seen in four ways: the module declares them, an instance has
the names of them in order, a lookup finds them by name, and a listing shows a line for each of them.
On a machine which is `Exporting`, no two exports of a module which was compiled share a name, and a
linked module exports what it declares (`Instance.Linking`).  An instance stays linked to its module
for good (`Run.founded`), and what a lookup gives depends on nothing that changes
(`WellFormed.result_getFunction`), whatever was looked up before.

* `Entry`: the line of a listing for what a lookup gave.
* `Views`: the four views agree, and `Run.views` says that they do in every run.
-/

namespace WasmCall

/-- All types of a function have kinds. -/
def Wasm.FuncType.Supported (t : Wasm.FuncType) : Prop :=
  ∀ v ∈ t.params ++ t.results, ∃ k, Boundary.kindOf v = some k

namespace Boundary

theorem kindsOf_eq_ok_iff (name : String) {ts : List Wasm.ValType} :
    (∃ ks, kindsOf name ts = .ok ks) ↔ ∀ t ∈ ts, ∃ k, kindOf t = some k := by
  induction ts with
  | nil => exact ⟨by simp, fun _ => ⟨[], rfl⟩⟩
  | cons t ts ih =>
      rw [List.forall_mem_cons, ← ih]
      cases hkind : kindOf t with
      | none => simp [kindsOf, hkind]
      | some k =>
          cases hks : kindsOf name ts with
          | error e => simp [kindsOf, hkind, hks, bind, Except.bind]
          | ok ks => simp [kindsOf, hkind, hks, bind, Except.bind, pure, Except.pure]

/-- A function has a signature exactly if all its types have kinds. -/
theorem signatureOf_eq_ok_iff (name : String) (t : Wasm.FuncType) :
    (∃ s, signatureOf name t = .ok s) ↔ t.Supported := by
  rw [Wasm.FuncType.Supported, List.forall_mem_append, ← kindsOf_eq_ok_iff name,
    ← kindsOf_eq_ok_iff name, signatureOf]
  cases hparams : kindsOf name t.params with
  | error e => simp [bind, Except.bind]
  | ok params =>
      cases hresults : kindsOf name t.results with
      | error e => simp [bind, Except.bind]
      | ok results => simp [bind, Except.bind, pure, Except.pure]

end Boundary

namespace CompiledModule

variable {M : Machine} {m : CompiledModule M} {name : String}

theorem mem_functionExports_iff :
    name ∈ m.functionExports ↔ ⟨name, .func⟩ ∈ M.moduleExports m.inner := by
  unfold functionExports
  constructor
  · intro hname
    obtain ⟨⟨n, k⟩, hx, rfl⟩ := List.mem_map.1 hname
    obtain ⟨hmem, hkind⟩ := List.mem_filter.1 hx
    obtain rfl : k = .func := of_decide_eq_true hkind
    exact hmem
  · intro hmem
    exact List.mem_map.2 ⟨_, List.mem_filter.2 ⟨hmem, decide_eq_true rfl⟩, rfl⟩

end CompiledModule

/-- The exports of a module which was compiled have names of their own. -/
theorem Compiled.nodup_exports {M : Machine} {m : CompiledModule M} (hm : Compiled m)
    (hexporting : M.Exporting) : ((M.moduleExports m.inner).map Machine.Extern.name).Nodup := by
  obtain ⟨e, source, hsource⟩ := hm.exists_source
  exact hexporting.unique hsource

theorem Compiled.nodup_functionExports {M : Machine} {m : CompiledModule M} (hm : Compiled m)
    (hexporting : M.Exporting) : m.functionExports.Nodup :=
  (hm.nodup_exports hexporting).sublist (List.filter_sublist.map Machine.Extern.name)

namespace Instance

variable {M : Machine} {i j : Instance M} {m : CompiledModule M} {name : String}

/-- Names are resolved in the same way at any time. -/
theorem Continues.resolved_eq (h : i.Continues j) (name : String) :
    j.resolved name = i.resolved name := by
  unfold resolved
  rw [h.id, h.linked]

/-- What a lookup gives does not depend on what is remembered. -/
theorem WellMade.result_getFunction (hi : i.WellMade) (name : String) :
    (i.getFunction name).result = (i.resolved name).map (Exports.build i.policy name) := by
  cases hcached : i.cache.find? name with
  | none => exact (getFunction_of_not_cached hcached).1
  | some c =>
      obtain ⟨rfl, r, hresolved, hc⟩ := hi.cached name c hcached
      rw [getFunction_of_cached hcached, hresolved, Except.map, ← hc]
      rfl

/-- An instance is the one of a module which was linked in some store. -/
def Linking (i : Instance M) (m : CompiledModule M) : Prop :=
  ∃ (live : Nat) (store behind : M.Store),
    M.instantiate live m.inner store = .ok (i.linked, behind)

theorem Linking.continues (h : i.Linking m) (hij : i.Continues j) : j.Linking m := by
  unfold Linking
  rw [hij.linked]
  exact h

/-- The names of an instance are those of the functions of its module. -/
theorem Linking.perm_names (h : i.Linking m) (hm : Compiled m) (hexporting : M.Exporting) :
    i.names.Perm m.functionExports := by
  obtain ⟨live, store, behind, hlinked⟩ := h
  obtain ⟨e, source, hsource⟩ := hm.exists_source
  refine (Exports.perm_sortedNames _).trans ?_
  exact ((hexporting.linked hsource hlinked).filter _).map Machine.Extern.name

/-- A function is found by a name exactly if the module declares one of this name. -/
theorem Linking.isSome_func?_iff (h : i.Linking m) (hm : Compiled m) (hexporting : M.Exporting)
    (name : String) : (M.func? i.linked name).isSome = true ↔ name ∈ m.functionExports := by
  obtain ⟨live, store, behind, hlinked⟩ := h
  obtain ⟨e, source, hsource⟩ := hm.exists_source
  rw [hexporting.found hsource hlinked, CompiledModule.mem_functionExports_iff,
    (hexporting.linked hsource hlinked).mem_iff]

/-- A name under which no function is found is not resolved. -/
theorem resolved_of_not_found (hname : M.func? i.linked name = none) :
    i.resolved name = .error (.notFound name) := by
  unfold resolved
  rw [hname]

/-- A function which is found is resolved to what its type gives. -/
theorem resolved_eq_map {index : Nat} (hindex : M.func? i.linked name = some index) :
    i.resolved name = (Boundary.signatureOf name (M.typeOf i.linked index)).map fun s =>
      ⟨s, ⟨i.id, index, s.results.length⟩⟩ := by
  simp only [resolved, hindex]
  cases Boundary.signatureOf name (M.typeOf i.linked index) <;> rfl

/-- A name under which a function is found is resolved by the type of this function. -/
theorem resolved_of_found {index : Nat} (hindex : M.func? i.linked name = some index) :
    ((∃ r, i.resolved name = .ok r) ↔ (M.typeOf i.linked index).Supported) ∧
      (¬ (M.typeOf i.linked index).Supported → ∃ reason,
        i.resolved name = .error (.unsupportedSignature name reason)) := by
  have hsupported := Boundary.signatureOf_eq_ok_iff name (M.typeOf i.linked index)
  have hresolved := resolved_eq_map hindex
  constructor
  · rw [← hsupported, hresolved]
    cases Boundary.signatureOf name (M.typeOf i.linked index) <;> simp [Except.map]
  · intro hnot
    rcases Boundary.signatureOf_cases name (M.typeOf i.linked index) with
      ⟨s, hs, -⟩ | ⟨reason, herror⟩
    · exact absurd (hsupported.1 ⟨s, hs⟩) hnot
    · exact ⟨reason, by rw [hresolved, herror]; rfl⟩

end Instance

namespace Host

variable {M : Machine} {h h' : Host M} {i : Instance M} {id : InstanceId} {name : String}
  {m : CompiledModule M} {s : Settings} {e : Engine M} {past : List (Step M)}

section Lookup

/-- What a lookup gives depends only on the instance, and on nothing that changes about it. -/
theorem WellFormed.result_getFunction (hh : h.WellFormed) (hi : h.find? id = some i)
    (name : String) :
    (h.getFunction id name).result = (i.resolved name).map (Exports.build i.policy name) := by
  rw [getFunction_of_find? hi]
  exact (hh.wellMade i (mem_of_find? hi).1).result_getFunction name

theorem WellFormed.result_getFunction_continues (hh : h.WellFormed) (hc : h.Continues h')
    (hi : h.find? id = some i) (name : String) :
    (h'.getFunction id name).result = (h.getFunction id name).result := by
  obtain ⟨j, hj, hij⟩ := hh.find?_continues hc hi
  rw [(hh.continues hc).result_getFunction hj, hh.result_getFunction hi, hij.resolved_eq,
    hij.policy]

/-- The line of a listing for what a lookup of a name gave.  It begins with the name, and the
signature or the error follows. -/
inductive Entry (name : String) : Except CallError (Callable FunctionRef) → String → Prop
  | signature (c : Callable FunctionRef) : Entry name (.ok c) (name ++ ": " ++ c.signature.text)
  | failure (e : CallError) : Entry name (.error e) (name ++ ": <" ++ e.message ++ ">")

theorem entry_listingLine (name : String) (found : Except CallError (Callable FunctionRef)) :
    Entry name found (listingLine name found) := by
  cases found with
  | ok c => exact .signature c
  | error e => exact .failure e

/-- Every name is listed as if it were the first to be looked up. -/
theorem WellFormed.entries_listNames (hh : h.WellFormed) (hi : h.find? id = some i)
    (names : List String) :
    List.Forall₂ (fun name line => Entry name (h.getFunction id name).result line) names
      (listNames id names h).result := by
  induction names generalizing h i with
  | nil => exact .nil
  | cons name names ih =>
      have hc := continues_getFunction h id name
      obtain ⟨j, hj, -⟩ := hh.find?_continues hc hi
      refine .cons (entry_listingLine name _) ?_
      refine (ih (hh.continues hc) hj).imp ?_
      intro other line hentry
      rw [hh.result_getFunction_continues hc hi] at hentry
      exact hentry

end Lookup

/-- The views of the exports of a module agree, where the given names are those which an instance of
the module has.

* `ascending`: the names are in the order of their bytes, and no two are the same.
* `declared`: they are those of the functions which the module declares.
* `found`: they are those which are found by a lookup.
* `others`: the name of any other export is not found.
* `typed`: a lookup of one of the names succeeds exactly if the types of the function have kinds, and
  says so if they have not.
* `listed`: a listing consists of an entry for each of the names. -/
structure Views (m : CompiledModule M) (h : Host M) (i : Instance M) : Prop where
  ascending : i.names.Pairwise fun a b => Exports.bytes a < Exports.bytes b
  declared : i.names.Perm m.functionExports
  found : ∀ name, name ∈ i.names ↔
    ¬ ∃ e, (h.getFunction i.id name).result = .error e ∧ e.isNotFound = true
  others : ∀ x ∈ M.moduleExports m.inner, x.kind ≠ .func →
    (h.getFunction i.id x.name).result = .error (.notFound x.name)
  typed : ∀ name ∈ i.names, ∃ index, M.func? i.linked name = some index ∧
    ((∃ c, (h.getFunction i.id name).result = .ok c) ↔ (M.typeOf i.linked index).Supported) ∧
    (¬ (M.typeOf i.linked index).Supported → ∃ reason,
      (h.getFunction i.id name).result = .error (.unsupportedSignature name reason))
  listed : List.Forall₂ (fun name line => Entry name (h.getFunction i.id name).result line) i.names
    (h.list i.id).result

section Views

/-- A name which the module does not declare for a function is not found. -/
theorem WellFormed.not_found (hh : h.WellFormed) (hi : h.find? i.id = some i)
    (hlinking : i.Linking m) (hm : Compiled m) (hexporting : M.Exporting)
    (hname : name ∉ m.functionExports) :
    (h.getFunction i.id name).result = .error (.notFound name) := by
  have hnone : M.func? i.linked name = none := by
    rw [← Option.not_isSome_iff_eq_none, hlinking.isSome_func?_iff hm hexporting]
    exact hname
  rw [hh.result_getFunction hi, Instance.resolved_of_not_found hnone]
  rfl

/-- A name which the module declares for a function is found, and the types of the function decide
whether it can be called. -/
theorem WellFormed.found (hh : h.WellFormed) (hi : h.find? i.id = some i)
    (hlinking : i.Linking m) (hm : Compiled m) (hexporting : M.Exporting)
    (hname : name ∈ m.functionExports) :
    ∃ index, M.func? i.linked name = some index ∧
      ((∃ c, (h.getFunction i.id name).result = .ok c) ↔ (M.typeOf i.linked index).Supported) ∧
      (¬ (M.typeOf i.linked index).Supported → ∃ reason,
        (h.getFunction i.id name).result = .error (.unsupportedSignature name reason)) := by
  obtain ⟨index, hindex⟩ :=
    Option.isSome_iff_exists.1 ((hlinking.isSome_func?_iff hm hexporting name).2 hname)
  obtain ⟨hok, herror⟩ := Instance.resolved_of_found hindex
  have hlookup := hh.result_getFunction hi name
  refine ⟨index, hindex, ?_, ?_⟩
  · rw [hlookup, ← hok]
    cases i.resolved name <;> simp [Except.map]
  · intro hnot
    obtain ⟨reason, hreason⟩ := herror hnot
    exact ⟨reason, by rw [hlookup, hreason]; rfl⟩

/-- The views agree wherever an instance of a module lives which was compiled. -/
theorem WellFormed.views (hh : h.WellFormed) (hi : h.find? i.id = some i)
    (hlinking : i.Linking m) (hm : Compiled m) (hexporting : M.Exporting) : Views m h i := by
  have hnames := hlinking.perm_names hm hexporting
  have hmissing : ∀ name, name ∉ m.functionExports →
      (h.getFunction i.id name).result = .error (.notFound name) :=
    fun _ => hh.not_found hi hlinking hm hexporting
  refine ⟨?_, hnames, ?_, ?_, ?_, ?_⟩
  · apply Exports.ascending_sortedNames
    have hdistinct := hm.nodup_functionExports hexporting
    rw [← hnames.nodup_iff] at hdistinct
    exact (Exports.perm_sortedNames _).nodup_iff.1 hdistinct
  · intro name
    rw [hnames.mem_iff]
    constructor
    · rintro hname ⟨e, herror, hnotFound⟩
      obtain ⟨index, -, hok, hunsupported⟩ := hh.found hi hlinking hm hexporting hname
      by_cases hsupported : (M.typeOf i.linked index).Supported
      · obtain ⟨c, hc⟩ := hok.2 hsupported
        rw [hc] at herror
        cases herror
      · obtain ⟨reason, hreason⟩ := hunsupported hsupported
        rw [hreason] at herror
        cases herror
        cases hnotFound
    · intro hfound
      by_contra hname
      exact hfound ⟨_, hmissing name hname, rfl⟩
  · intro x hx hkind
    apply hmissing
    intro hname
    -- No other export has the name of this one.
    have hsame := List.inj_on_of_nodup_map (hm.nodup_exports hexporting)
      (CompiledModule.mem_functionExports_iff.1 hname) hx rfl
    exact hkind (by rw [← hsame])
  · intro name hname
    exact hh.found hi hlinking hm hexporting (hnames.mem_iff.1 hname)
  · rw [list, hi]
    exact hh.entries_listNames hi i.names

end Views

section Founds

/-- An instance of a module was made. -/
inductive Step.Founds : Step M → CompiledModule M → InstanceId → Prop
  | mk (h : Host M) (m : CompiledModule M) (s : Settings) (id : InstanceId)
      (hmade : (h.instantiate m s).result = .ok id) : Founds ⟨h, .instantiate m s⟩ m id

/-- An instance which is made is the last one of the host, and it is linked to the module. -/
theorem instantiate_eq_ok (hmade : (h.instantiate m s).result = .ok id) :
    ∃ (store behind : M.Store) (linked : M.Linked),
      M.instantiate h.instances.length m.inner store = .ok (linked, behind) ∧
      id = (h.newInstance s linked behind).id ∧
      (h.instantiate m s).state =
        { h with
          instances := h.instances ++ [h.newInstance s linked behind], made := h.made + 1 } := by
  unfold instantiate at hmade ⊢
  split at hmade
  · cases hmade
  · rename_i store hstore
    split at hmade
    · cases hmade
    · rename_i linked behind hlinked
      cases hmade
      exact ⟨store, behind, linked, hlinked, rfl, by simp [*]⟩

/-- An instance which was made is linked to its module as long as it lives. -/
theorem Run.founded (hrun : Run e past h) : ∀ step ∈ past, ∀ m id, step.Founds m id →
    id.number < h.made ∧ ∀ i ∈ h.instances, i.id = id → i.Linking m := by
  induction hrun with
  | start => simp
  | @step past h hrun a hallowed ih =>
      intro step hstep m id hfounds
      rcases List.mem_cons.1 hstep with rfl | hpast
      · obtain ⟨_, _, s, _, hmade⟩ := hfounds
        obtain ⟨store, behind, linked, hlinked, rfl, hstate⟩ := instantiate_eq_ok hmade
        rw [perform, hstate]
        refine ⟨Nat.lt_succ_self _, ?_⟩
        intro i hi hid
        rcases List.mem_append.1 hi with hold | hnew
        · -- The identities of all others are below the new one.
          have hlt := hrun.sound.wellFormed.bounded i hold
          rw [hid] at hlt
          exact absurd hlt (Nat.lt_irrefl _)
        · obtain rfl := List.mem_singleton.1 hnew
          exact ⟨_, store, behind, hlinked⟩
      · have hgrows := grows_perform h a
        obtain ⟨hnumber, hlinking⟩ := ih step hpast m id hfounds
        refine ⟨Nat.lt_of_lt_of_le hnumber hgrows.made, ?_⟩
        intro j hj hid
        rcases hgrows.origin j hj with ⟨i, hi, hij⟩ | hnew
        · exact (hlinking i hi (hij.id.symm.trans hid)).continues hij
        · rw [hid] at hnew
          omega

/-- The views agree in every run, as long as the instance lives. -/
theorem Run.views (hrun : Run e past h) (hexporting : M.Exporting) (hm : Compiled m)
    (hfounds : ∃ step ∈ past, step.Founds m id) (hi : h.find? id = some i) : Views m h i := by
  obtain ⟨step, hstep, hfounds⟩ := hfounds
  obtain ⟨hmem, rfl⟩ := mem_of_find? hi
  exact hrun.sound.wellFormed.views hi ((hrun.founded step hstep m _ hfounds).2 i hmem rfl) hm
    hexporting

end Founds

end Host

end WasmCall
