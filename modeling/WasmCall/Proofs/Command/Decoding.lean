import WasmCall.Proofs.Command.Entries
import WasmCall.Proofs.Command.Listing

/-!
# What a listing tells about a module

Names are written as they are, so a name may look like several lines, and two modules which export
different functions may have the same listing (`ambiguous_listing`).  This takes a line break directly
behind what could be the end of an entry.  Where no name has one, the listing tells what functions are
exported and what their outlines are (`listing_determines_exports`).

* `Shows`: a listing of a module is printed, by way of an instance of it.
* `SameExports`: two modules export functions of the same outlines under the same names.
-/

namespace WasmCall

/-- Two modules export functions under the same names, and in instances of them the outlines of these
are the same. -/
structure SameExports {M : Machine} (m m' : CompiledModule M) (i i' : Instance M) : Prop where
  names : ∀ name, name ∈ m.functionExports ↔ name ∈ m'.functionExports
  outlines : ∀ name o, i.Outlines name o ↔ i'.Outlines name o

namespace Command

variable {M : Machine}

/-- The module is compiled and instantiated on a command line which asks for a listing, and this is
what is printed. -/
inductive Shows (m : CompiledModule M) (i : Instance M) : String → Prop
  | mk (elapsed : Nat) (files : FileReader) (env : CommandLine.Environment) (line : CommandLine)
      (config : Configuration) (engine : Engine M) (id : InstanceId) (hlist : line.list = true)
      (hconfig : configuration files line = .ok config)
      (hengine : (Engine.create config.runtime.engine).result = .ok engine)
      (hcompiled : (engine.compileFile files line.module).result = .ok m)
      (hmade : ((Host.ofEngine engine).instantiate m config.runtime).result = .ok id)
      (hi : ((Host.ofEngine engine).instantiate m config.runtime).state.find? id = some i) :
      Shows m i (run M elapsed files env line).output

variable {m m' : CompiledModule M} {i i' : Instance M} {text : String}

theorem Shows.compiled (h : Shows m i text) : Compiled m := by
  cases h with
  | mk elapsed files env line config engine id _ _ _ hcompiled _ _ =>
      exact .file engine files line.module hcompiled

/-- What is printed is the listing of an instance of the module. -/
theorem Shows.exists_host (h : Shows m i text) :
    ∃ (host : Host M) (id : InstanceId), host.WellFormed ∧ host.find? id = some i ∧
      i.Linking m ∧ text = String.join ((host.list id).result.map (· ++ "\n")) := by
  cases h with
  | mk elapsed files env line config engine id hlist hconfig hengine hcompiled hmade hi =>
      have hresult :=
        result_run_of_list hlist hconfig (prepare_of_ok hengine hcompiled hmade) elapsed env
      have hh := (Host.wellFormed_ofEngine engine).instantiate m config.runtime
      obtain ⟨j, hj, -, hlinking⟩ := find?_of_instantiate hmade
      rw [hi] at hj
      cases hj
      refine ⟨_, id, hh, hi, hlinking, ?_⟩
      rw [Report.output, hresult]

/-- What is printed if the outlines of all exported functions are known. -/
theorem Shows.eq_join (h : Shows m i text) (hexporting : M.Exporting)
    (outline : String → Outline)
    (houtline : ∀ name ∈ m.functionExports, i.Outlines name (outline name)) :
    text = String.join ((Exports.sortedNames m.functionExports).map fun name =>
      (outline name).entry name ++ "\n") := by
  obtain ⟨host, id, hh, hi, hlinking, rfl⟩ := h.exists_host
  have hperm := hlinking.perm_names h.compiled hexporting
  have hnames : Exports.sortedNames m.functionExports = i.names :=
    Exports.sortedNames_eq_of_perm hperm.symm (Exports.pairwise_sortedNames _)
  rw [Host.list, hi, hnames]
  simp only [hh.listNames_eq_map hi, List.map_map]
  refine congrArg String.join (List.map_congr_left ?_)
  intro name hname
  rw [hperm.mem_iff] at hname
  rw [Function.comp_apply, hh.listingLine_getFunction hi (houtline name hname)]

/-- A listing consists of the entries of the exported functions, one a line. -/
theorem Shows.exists_lines (h : Shows m i text) (hexporting : M.Exporting) :
    ∃ lines : List String, text = String.join (lines.map (· ++ "\n")) ∧
      (∀ name o, i.Outlines name o ↔ o.entry name ∈ lines) ∧
      ((∀ name ∈ m.functionExports, Tame name) → ∀ line ∈ lines, IsEntry line) := by
  obtain ⟨host, id, hh, hi, hlinking, htext⟩ := h.exists_host
  have hlines : ∀ line, line ∈ (host.list id).result ↔
      ∃ name o, i.Outlines name o ∧ line = o.entry name :=
    fun _ => hh.mem_list_iff hi hlinking h.compiled hexporting
  refine ⟨_, htext, ?_, ?_⟩
  · intro name o
    rw [hlines]
    constructor
    · intro ho
      exact ⟨name, o, ho, rfl⟩
    · rintro ⟨name', o', ho, hentry⟩
      obtain ⟨rfl, rfl⟩ := Outline.entry_injective hentry
      exact ho
  · intro htame line hline
    obtain ⟨name, o, ho, rfl⟩ := (hlines line).1 hline
    exact ⟨name, o, htame name ((hlinking.mem_functionExports_iff h.compiled hexporting).2 ⟨o, ho⟩),
      rfl⟩

/-- The functions which are listed are those which have an outline. -/
theorem Shows.mem_functionExports_iff (h : Shows m i text) (hexporting : M.Exporting)
    {name : String} : name ∈ m.functionExports ↔ ∃ o, i.Outlines name o := by
  obtain ⟨host, id, hh, hi, hlinking, htext⟩ := h.exists_host
  exact hlinking.mem_functionExports_iff h.compiled hexporting

section Plain

/-- The bytes of a module with one function, which takes and gives nothing, for given bytes of its
exports. -/
def plainBytes (exports : List UInt8) : List UInt8 :=
  [0, 97, 115, 109, 1, 0, 0, 0] ++ [1, 4, 1, 96, 0, 0] ++ [3, 2, 1, 0] ++ exports ++
    [10, 4, 1, 2, 0, 11]

/-- The module in these bytes, for given names of its exports. -/
def plainModule (names : List String) : Wasm.Module :=
  { Wasm.Module.empty with
    types := [⟨[], []⟩]
    functions := [⟨⟨[], []⟩, [], []⟩]
    exports := names.map fun name => ⟨name, .func, 0⟩ }

def plainCompiled (names : List String) (exports : List UInt8) :
    CompiledModule Wasm.interpreter :=
  ⟨plainModule names, Digest.ofBytes (plainBytes exports)⟩

/-- A store with its first fuel, of which nothing was used. -/
def plainStore : Wasm.Interpreter.Store :=
  (⟨EngineSettings.default.config, some ExecutionSettings.default.maxFuel, .empty⟩ :
    Wasm.Interpreter.Store).after 0 .empty

/-- The first instance of the module. -/
def plainInstance (names : List String) : Instance Wasm.interpreter :=
  (Host.ofEngine .interpreting).newInstance .default (plainModule names) plainStore

variable {names sorted : List String} {exports : List UInt8}

theorem functionExports_plain (names : List String) (exports : List UInt8) :
    (plainCompiled names exports).functionExports = names := by
  change (((plainModule names).exports.map fun e => (⟨e.name, e.kind⟩ : Machine.Extern)).filter
    (·.kind = .func)).map Machine.Extern.name = names
  simp [plainModule, List.filter_map, Function.comp_def]

theorem isValid_plainModule (hnames : names.Nodup) : (plainModule names).isValid = true := by
  simp [plainModule, Wasm.Module.isValid, Wasm.Module.empty, Wasm.Module.checkFunction,
    Wasm.Context.checkAll]
  refine ⟨⟨⟨fun _ _ => rfl, ?_⟩, rfl⟩, rfl⟩
  simpa [Wasm.Module.exportsDistinct, Function.comp_def] using hnames

theorem outlines_plain {name : String} (hname : name ∈ names) :
    (plainInstance names).Outlines name (.signature ⟨[], []⟩) := by
  have hindex : Wasm.Interpreter.func? (plainModule names) name = some 0 := by
    unfold Wasm.Interpreter.func?
    cases hfind : (plainModule names).exports.find? (·.name == name) with
    | none =>
        have habsent := List.find?_eq_none.1 hfind ⟨name, .func, 0⟩
          (List.mem_map.2 ⟨name, hname, rfl⟩)
        simp at habsent
    | some x =>
        obtain ⟨other, -, rfl⟩ := List.mem_map.1 (List.mem_of_find?_eq_some hfind)
        rfl
  exact ⟨0, hindex, .signature ⟨[], []⟩ rfl rfl⟩

theorem shows_plain (hread : Wasm.Binary.module? (plainBytes exports) = some (plainModule names))
    (hnames : names.Nodup) (hperm : names.Perm sorted) (hsorted : sorted.Pairwise (· ≤ ·)) :
    Shows (plainCompiled names exports) (plainInstance names)
      (String.join (sorted.map fun name => name ++ ": () -> ()\n")) := by
  have hmagic : hasMagic (plainBytes exports) = true := rfl
  have hread' : Wasm.Interpreter.read? (plainBytes exports) = some (plainModule names) := by
    have hbinary : Wasm.Binary.hasMagic (plainBytes exports) = true := rfl
    rw [Wasm.Interpreter.read?, if_pos hbinary, hread]
  have hcompiled : (Engine.interpreting.compileFile (fun _ => .ok (plainBytes exports))
      "plain.wasm").result = .ok (plainCompiled names exports) := by
    rw [Engine.compileFile_of_binary rfl hmagic]
    exact Engine.compileBytes_of_compile hmagic (by simp [plainBytes])
      (Wasm.Interpreter.compile_of_valid hread' (isValid_plainModule hnames) rfl)
  have hshows := Shows.mk (i := plainInstance names) 0 _ .empty
    ⟨"plain.wasm", none, [], none, true, false, false⟩ .default .interpreting ⟨0⟩ rfl rfl rfl
    hcompiled rfl rfl
  have hexports := functionExports_plain names exports
  have htext := hshows.eq_join Wasm.Interpreter.exporting (fun _ => .signature ⟨[], []⟩)
    fun name hname => outlines_plain (hexports ▸ hname)
  rw [hexports, Exports.sortedNames_eq_of_perm hperm hsorted] at htext
  have hentry : ∀ name,
      (Outline.signature ⟨[], []⟩).entry name ++ "\n" = name ++ ": () -> ()\n" := by
    intro name
    rw [Outline.entry, Outline.stem, String.append_assoc]
    rfl
  simp only [hentry] at htext
  rw [← htext]
  exact hshows

end Plain

/-- A listing tells what functions a module exports, as long as none of their names has a line break
behind what could be the end of an entry.  Names may be arbitrary otherwise, and so may all else about
the modules and the runs. -/
theorem listing_determines_exports (hexporting : M.Exporting) (h : Shows m i text)
    (h' : Shows m' i' text) (htame : ∀ name ∈ m.functionExports, Tame name)
    (htame' : ∀ name ∈ m'.functionExports, Tame name) : SameExports m m' i i' := by
  obtain ⟨lines, htext, houtlines, hentries⟩ := h.exists_lines hexporting
  obtain ⟨lines', htext', houtlines', hentries'⟩ := h'.exists_lines hexporting
  obtain rfl := join_injective (hentries htame) (hentries' htame') (htext.symm.trans htext')
  have hsame : ∀ name o, i.Outlines name o ↔ i'.Outlines name o :=
    fun name o => (houtlines name o).trans (houtlines' name o).symm
  refine ⟨fun name => ?_, hsame⟩
  rw [h.mem_functionExports_iff hexporting, h'.mem_functionExports_iff hexporting]
  exact exists_congr (hsame name)

/-- A module whose exports come in their order, and one whose exports do not. -/
def orderedCompiled : CompiledModule Wasm.interpreter :=
  plainCompiled ["a: <b>:\n c", "b"]
    [7, 18, 2, 10, 97, 58, 32, 60, 98, 62, 58, 10, 32, 99, 0, 0, 1, 98, 0, 0]

def swappedCompiled : CompiledModule Wasm.interpreter :=
  plainCompiled ["b", "a: <b>:\n c"]
    [7, 18, 2, 1, 98, 0, 0, 10, 97, 58, 32, 60, 98, 62, 58, 10, 32, 99, 0, 0]

/-- The exports may come in any order, and there may be line breaks in their names. -/
theorem listing_reordered :
    Shows orderedCompiled (plainInstance ["a: <b>:\n c", "b"])
        "a: <b>:\n c: () -> ()\nb: () -> ()\n" ∧
      Shows swappedCompiled (plainInstance ["b", "a: <b>:\n c"])
        "a: <b>:\n c: () -> ()\nb: () -> ()\n" ∧
      (∀ name ∈ orderedCompiled.functionExports, Tame name) ∧
      (∀ name ∈ swappedCompiled.functionExports, Tame name) ∧
      SameExports orderedCompiled swappedCompiled (plainInstance ["a: <b>:\n c", "b"])
        (plainInstance ["b", "a: <b>:\n c"]) := by
  have htext : String.join (["a: <b>:\n c", "b"].map fun name => name ++ ": () -> ()\n") =
      "a: <b>:\n c: () -> ()\nb: () -> ()\n" := by decide
  have hordered : Shows orderedCompiled _ _ := shows_plain rfl (by decide) (.refl _) (by decide)
  have hswapped : Shows swappedCompiled _ _ :=
    shows_plain rfl (by decide) (.swap "a: <b>:\n c" "b" []) (by decide)
  rw [htext] at hordered hswapped
  have hlong : Tame "a: <b>:\n c" := by
    refine tame_of_breaks ?_ ?_ <;> simp [List.infix_cons_iff]
  have hshort : Tame "b" := by
    refine tame_of_breaks ?_ ?_ <;> simp [List.infix_cons_iff]
  have htame : ∀ name ∈ orderedCompiled.functionExports, Tame name := by
    rw [orderedCompiled, functionExports_plain]
    simp [hlong, hshort]
  have htame' : ∀ name ∈ swappedCompiled.functionExports, Tame name := by
    rw [swappedCompiled, functionExports_plain]
    simp [hlong, hshort]
  exact ⟨hordered, hswapped, htame, htame',
    listing_determines_exports Wasm.Interpreter.exporting hordered hswapped htame htame'⟩

/-- A module with one export whose name looks like two lines, and a module with the two exports which
these lines are for. -/
def foldedCompiled : CompiledModule Wasm.interpreter :=
  plainCompiled ["a: () -> ()\nb"]
    [7, 17, 1, 13, 97, 58, 32, 40, 41, 32, 45, 62, 32, 40, 41, 10, 98, 0, 0]

def pairCompiled : CompiledModule Wasm.interpreter :=
  plainCompiled ["a", "b"] [7, 9, 2, 1, 97, 0, 0, 1, 98, 0, 0]

/-- One export may look like two. -/
theorem ambiguous_listing :
    Shows foldedCompiled (plainInstance ["a: () -> ()\nb"]) "a: () -> ()\nb: () -> ()\n" ∧
      Shows pairCompiled (plainInstance ["a", "b"]) "a: () -> ()\nb: () -> ()\n" ∧
      ¬ SameExports foldedCompiled pairCompiled (plainInstance ["a: () -> ()\nb"])
        (plainInstance ["a", "b"]) := by
  have htexts : String.join (["a: () -> ()\nb"].map fun name => name ++ ": () -> ()\n") =
        "a: () -> ()\nb: () -> ()\n" ∧
      String.join (["a", "b"].map fun name => name ++ ": () -> ()\n") =
        "a: () -> ()\nb: () -> ()\n" := by decide
  have hfolded : Shows foldedCompiled _ _ := shows_plain rfl (by decide) (.refl _) (by decide)
  have hpair : Shows pairCompiled _ _ := shows_plain rfl (by decide) (.refl _) (by decide)
  rw [htexts.1] at hfolded
  rw [htexts.2] at hpair
  refine ⟨hfolded, hpair, fun hsame => ?_⟩
  have hname : "a" ∈ pairCompiled.functionExports → "a" ∈ foldedCompiled.functionExports :=
    (hsame.names "a").2
  rw [foldedCompiled, pairCompiled, functionExports_plain, functionExports_plain] at hname
  exact absurd (hname (by decide)) (by decide)

end Command

end WasmCall
