import WasmCall.Proofs.Command.Run
import WasmCall.Proofs.Host.Views

/-!
# Listing the exports of a module

A command line which asks for a listing has the names of the functions of the instance printed, in
their order, each with the signature of its function or with the reason why it has none.  A function
which cannot be called does not end the run, so the listing succeeds whenever there is an instance.

* `Lists`: a report which says that a listing is printed.
* `Viewed`: what there is to see of a module agrees, in programs which use it and on the command line.
-/

namespace WasmCall.Command

variable {M : Machine} {elapsed : Nat} {files : FileReader} {line : CommandLine}
  {config : Configuration} {engine : Engine M} {m : CompiledModule M} {h : Host M}
  {id : InstanceId} {i : Instance M}

/-- A report which says that a listing is printed: an entry for each of the names, in order, and
nothing else. -/
structure Lists (h : Host M) (i : Instance M) (report : Report) : Prop where
  exitCode : report.exitCode = 0
  output : ∃ entries, report.output = String.join (entries.map (· ++ "\n")) ∧
    List.Forall₂ (fun name entry => Host.Entry name (h.getFunction i.id name).result entry) i.names
      entries

/-- Once the module is instantiated, a run which is asked to lists the functions of the instance. -/
theorem result_run_of_list (hlist : line.list = true)
    (hconfig : configuration files line = .ok config)
    (hprepared : (prepare M files config.runtime line.module).result = .ok (id, h))
    (elapsed : Nat) (env : CommandLine.Environment) :
    (run M elapsed files env line).result = .ok (h.list id).result := by
  unfold run
  simp only [hconfig, perform]
  rw [bind_of_ok hprepared]
  simp only [serve, hlist, listExports, if_true]

/-- The only instance of a host which was set up. -/
theorem find?_of_instantiate {settings : Settings}
    (hmade : ((Host.ofEngine engine).instantiate m settings).result = .ok id) :
    ∃ i, ((Host.ofEngine engine).instantiate m settings).state.find? id = some i ∧ i.id = id ∧
      i.Linking m := by
  obtain ⟨store, behind, linked, hlinked, rfl, hstate⟩ := Host.instantiate_eq_ok hmade
  have hh := (Host.wellFormed_ofEngine engine).instantiate m settings
  have hlives : (Host.ofEngine engine).newInstance settings linked behind ∈
      ((Host.ofEngine engine).instantiate m settings).state.instances := by
    rw [hstate]
    exact List.mem_append_right _ List.mem_cons_self
  exact ⟨_, hh.find?_of_mem hlives, rfl, _, store, behind, hlinked⟩

/-- Whatever can be seen of the exports of a module is the same.

* `inRuns`: a program sees the same in all ways, however it has used its instances so far.
* `onCommandLine`: the listing on a command line shows what a program would see. -/
structure Viewed (m : CompiledModule M) : Prop where
  inRuns : ∀ (e : Engine M) (past : List (Host.Step M)) (h : Host M) (id : InstanceId)
    (i : Instance M), Host.Run e past h → (∃ step ∈ past, step.Founds m id) →
      h.find? id = some i → Host.Views m h i
  onCommandLine : ∀ (elapsed : Nat) (files : FileReader) (env : CommandLine.Environment)
    (line : CommandLine) (config : Configuration) (engine : Engine M) (id : InstanceId),
      line.list = true → configuration files line = .ok config →
      (Engine.create config.runtime.engine).result = .ok engine →
      (engine.compileFile files line.module).result = .ok m →
      ((Host.ofEngine engine).instantiate m config.runtime).result = .ok id →
      ∃ i, let h := ((Host.ofEngine engine).instantiate m config.runtime).state
        h.find? id = some i ∧ Host.Views m h i ∧ Lists h i (run M elapsed files env line)

/-- The views of every module agree which can be compiled, if exports have names of their own and
linked modules export what they declare. -/
theorem viewed_of_compiled (hexporting : M.Exporting) (hm : Compiled m) : Viewed m where
  inRuns := fun _ _ _ _ _ hrun hfounds hi => hrun.views hexporting hm hfounds hi
  onCommandLine := by
    intro elapsed files env line config engine id hlist hconfig hengine hcompiled hmade
    obtain ⟨i, hi, rfl, hlinking⟩ := find?_of_instantiate hmade
    have hh := (Host.wellFormed_ofEngine engine).instantiate m config.runtime
    have hviews := hh.views hi hlinking hm hexporting
    have hresult :=
      result_run_of_list hlist hconfig (prepare_of_ok hengine hcompiled hmade) elapsed env
    refine ⟨i, hi, hviews, ?_, _, ?_, hviews.listed⟩
    · rw [Report.exitCode, hresult]
    · rw [Report.output, hresult]

section Mixed

/-- A binary module which exports a function of vectors, a memory and a function `sum`: its types,
functions, memories, exports and code. -/
def mixedBytes : List UInt8 :=
  [0, 97, 115, 109, 1, 0, 0, 0] ++
    [1, 11, 2, 96, 1, 123, 0, 96, 2, 127, 127, 1, 127] ++
    [3, 3, 2, 0, 1] ++
    [5, 3, 1, 0, 1] ++
    [7, 19, 3, 3, 118, 101, 99, 0, 0, 3, 109, 101, 109, 2, 0, 3, 115, 117, 109, 0, 1] ++
    [10, 12, 2, 2, 0, 11, 7, 0, 32, 0, 32, 1, 106, 11]

/-- The module in these bytes. -/
def mixedModule : Wasm.Module :=
  let vector : Wasm.FuncType := ⟨[.v128], []⟩
  let sum : Wasm.FuncType := ⟨[.i32, .i32], [.i32]⟩
  { Wasm.Module.empty with
    types := [vector, sum]
    functions := [⟨vector, [], []⟩, ⟨sum, [], [.localGet 0, .localGet 1, .numeric .i32Add]⟩]
    memories := [⟨1, none⟩]
    exports := [⟨"vec", .func, 0⟩, ⟨"mem", .memory, 0⟩, ⟨"sum", .func, 1⟩] }

def mixedCompiled : CompiledModule Wasm.interpreter := ⟨mixedModule, Digest.ofBytes mixedBytes⟩

/-- There is one file, which has the module in it. -/
def mixedFiles : FileReader := fun path =>
  if path = "mixed.wasm" then .ok mixedBytes else .error .missing

/-- A command line which asks for a listing. -/
def mixedLine : CommandLine :=
  ⟨"mixed.wasm", none, [], none, true, false, false⟩

theorem isValid_mixedModule : mixedModule.isValid = true := by
  simp [mixedModule, Wasm.Module.isValid, Wasm.Module.empty, Wasm.Module.checkFunction,
    Wasm.Context.checkAll, Wasm.Context.check]
  decide

theorem compileFile_mixed :
    (Engine.interpreting.compileFile mixedFiles "mixed.wasm").result = .ok mixedCompiled := by
  have hmagic : hasMagic mixedBytes = true := rfl
  have hfile : mixedFiles "mixed.wasm" = .ok mixedBytes := rfl
  rw [Engine.compileFile_of_binary hfile hmagic]
  exact Engine.compileBytes_of_compile hmagic (by decide)
    (Wasm.Interpreter.compile_of_valid rfl isValid_mixedModule rfl)

/-- The host with one instance of the module. -/
def mixedHost : Host Wasm.interpreter :=
  ((Host.ofEngine .interpreting).instantiate mixedCompiled .default).state

/-- The functions come in the order of their names, whether they can be called or not. -/
theorem list_mixed : (mixedHost.list ⟨0⟩).result = ["sum: (i32, i32) -> (i32)",
    "vec: <Unsupported signature for 'vec': value type v128 has no supported kind>"] := by
  have hnames : Exports.sortedNames mixedCompiled.functionExports = ["sum", "vec"] :=
    Exports.sortedNames_eq_of_perm (.swap "sum" "vec" []) (by decide)
  change (Host.listNames ⟨0⟩ (Exports.sortedNames mixedCompiled.functionExports) _).result = _
  rw [hnames]
  rfl

/-- The views of the module agree, and this is its listing. -/
theorem viewed_mixed :
    Compiled mixedCompiled ∧ Viewed mixedCompiled ∧
      (run Wasm.interpreter 0 mixedFiles .empty mixedLine).output = "sum: (i32, i32) -> (i32)\n" ++
        "vec: <Unsupported signature for 'vec': value type v128 has no supported kind>\n" := by
  have hcompiled : Compiled mixedCompiled := .file _ mixedFiles "mixed.wasm" compileFile_mixed
  have hprepared : (prepare Wasm.interpreter mixedFiles Settings.default "mixed.wasm").result =
      .ok (⟨0⟩, mixedHost) := prepare_of_ok rfl compileFile_mixed rfl
  have hconfig : configuration mixedFiles mixedLine = .ok .default := rfl
  have hresult := result_run_of_list rfl hconfig hprepared 0 .empty
  refine ⟨hcompiled, viewed_of_compiled Wasm.Interpreter.exporting hcompiled, ?_⟩
  rw [Report.output, hresult.trans (congrArg Except.ok list_mixed)]
  rfl

end Mixed

end WasmCall.Command
