import WasmCall.Proofs.Command.Answer
import WasmCall.Proofs.Compilation
import WasmCall.Proofs.Wasm.Interpreter

/-!
# Following a command line to its end

A run loads the configuration, compiles and instantiates the module, looks up the export and calls
it.  Once the export is found, all that is left is the answer to the call.

* `Resolves`: the export which a command line asks for is found.
* `Prints`: what a report says if every result of a call is printed.
* `Followed`, `run_followed`: a run prints all results or nothing, and answers the call.

The command line which asks for the sum of one and two is at the end.
-/

namespace WasmCall.Command

open Instance (Entered)

variable {M : Machine} {elapsed : Nat} {files : FileReader} {env : CommandLine.Environment}
  {line : CommandLine}

section Prepare

variable {settings : Settings} {module name : String} {id : InstanceId} {h : Host M}
  {c : Callable FunctionRef}

/-- What a step gave which did not fail. -/
theorem ofReply_eq_ok_iff {α σ ε : Type} {text : ε → String} {r : Reply σ (Except ε α)} {a : α}
    {s : σ} : (Progress.ofReply text r).result = .ok (a, s) ↔ r.result = .ok a ∧ r.state = s := by
  unfold Progress.ofReply
  cases r.result <;> simp [Except.mapError, Except.map]

/-- A host which was set up has at most one instance, which is under the policy of the settings. -/
theorem prepare_eq_ok (hprepared : (prepare M files settings module).result = .ok (id, h)) :
    h.WellFormed ∧ ∀ i ∈ h.instances, i.policy = settings.call.overflow := by
  unfold prepare at hprepared
  obtain ⟨⟨engine, _⟩, -, hprepared⟩ := exists_of_bind hprepared
  obtain ⟨_, -, hprepared⟩ := exists_of_bind hprepared
  obtain ⟨⟨compiled, _⟩, -, hprepared⟩ := exists_of_bind hprepared
  obtain ⟨_, -, hprepared⟩ := exists_of_bind hprepared
  obtain ⟨made, hmade, hprepared⟩ := exists_of_bind hprepared
  obtain ⟨_, -, hprepared⟩ := exists_of_bind hprepared
  cases hprepared
  obtain ⟨-, hstate⟩ := ofReply_eq_ok_iff.1 hmade
  rw [← hstate]
  refine ⟨(Host.wellFormed_ofEngine engine).instantiate compiled settings, ?_⟩
  intro i hi
  rcases Host.instantiate_cases (Host.ofEngine engine) compiled settings with
    hsame | ⟨store, behind, linked, -, -, -, hnew⟩
  · rw [hsame] at hi
    cases hi
  · rw [hnew] at hi
    obtain rfl := List.mem_singleton.1 hi
    rfl

/-- A host is set up if every step on the way to it succeeds. -/
theorem prepare_of_ok {engine : Engine M}
    (hengine : (Engine.create settings.engine).result = .ok engine) {compiled : CompiledModule M}
    (hcompiled : (engine.compileFile files module).result = .ok compiled)
    (hmade : ((Host.ofEngine engine).instantiate compiled settings).result = .ok id) :
    (prepare M files settings module).result =
      .ok (id, ((Host.ofEngine engine).instantiate compiled settings).state) := by
  simp [prepare, bind, pure, Progress.andThen, Progress.ofReply, Progress.emit, hengine,
    hcompiled, hmade, Except.mapError, Except.map, Reply.pure]

/-- A callable is under the policy of its instance. -/
theorem policy_of_found (hh : h.WellFormed) {policy : OverflowPolicy}
    (hpolicy : ∀ i ∈ h.instances, i.policy = policy)
    (hfound : (h.getFunction id name).result = .ok c) : c.policy = policy := by
  obtain ⟨i, hi, r, -, hc⟩ := hh.getFunction_eq_ok hfound
  calc
    c.policy = i.policy := by rw [hc]; rfl
    _ = policy := hpolicy i (Host.mem_of_find? hi).1

end Prepare

section Recording

/-- What a run does with the instance, with a record of how a call enters the machine. -/
def serveRecording (elapsed : Nat) (line : CommandLine) (id : InstanceId) (h : Host M) :
    Reply (List Entered) (Except String (List String)) :=
  if line.list then (listExports id h).mapState fun _ => []
  else
    match line.exportName with
    | some name => callExportRecording elapsed id h name line.args
    | none => .pure (.error "No export given") []

theorem serveRecording_eq_serve (elapsed : Nat) (line : CommandLine) (id : InstanceId)
    (h : Host M) :
    (serveRecording elapsed line id h).mapState (fun _ => ()) = serve elapsed line id h := by
  unfold serveRecording serve
  cases line.list with
  | true => rfl
  | false =>
      cases line.exportName with
      | none => rfl
      | some name => exact callExportRecording_eq_callExport elapsed id h name line.args

variable (M) in
/-- What a run does once the configuration is loaded, with a record of how a call enters the
machine. -/
def performRecording (elapsed : Nat) (files : FileReader) (settings : Settings)
    (line : CommandLine) : Reply (List Entered) (Except String (List String)) :=
  let prepared := prepare M files settings line.module
  match prepared.result with
  | .error text => ⟨.error text, [], prepared.events⟩
  | .ok (id, h) =>
    let rest := serveRecording elapsed line id h
    ⟨rest.result, rest.state, prepared.events ++ rest.events⟩

theorem performRecording_eq_perform (elapsed : Nat) (files : FileReader) (settings : Settings)
    (line : CommandLine) :
    (performRecording M elapsed files settings line).mapState (fun _ => ()) =
      perform M elapsed files settings line := by
  unfold performRecording perform
  cases hprepared : (prepare M files settings line.module).result with
  | error text =>
      rw [bind_of_error hprepared]
      simp only [hprepared]
      rfl
  | ok made =>
      obtain ⟨id, h⟩ := made
      rw [bind_of_ok hprepared]
      simp only [hprepared, ← serveRecording_eq_serve]
      rfl

variable (M) in
/-- Follow a command line, and write down how a call enters the machine. -/
def runRecording (elapsed : Nat) (files : FileReader) (env : CommandLine.Environment)
    (line : CommandLine) : Report × List Entered :=
  match configuration files line with
  | .error text => (⟨.error text, false, []⟩, [])
  | .ok c =>
    let p := performRecording M elapsed files c.runtime line
    (⟨p.result, c.logging.json, p.events.filter (filterFor env c.logging).passes⟩, p.state)

/-- A run is the same whether it is written down or not. -/
theorem runRecording_eq_run (elapsed : Nat) (files : FileReader) (env : CommandLine.Environment)
    (line : CommandLine) :
    (runRecording M elapsed files env line).1 = run M elapsed files env line := by
  unfold runRecording run
  cases configuration files line with
  | error text => rfl
  | ok c =>
      simp only
      rw [← performRecording_eq_perform]
      rfl

end Recording

section Followed

/-- The export which a command line asks for is found.

* `configured`: the configuration is loaded.
* `prepared`: the module is compiled and instantiated.
* `named`, `found`: the instance exports a function under the name which is given. -/
structure Resolves (files : FileReader) (line : CommandLine) (config : Configuration)
    (id : InstanceId) (h : Host M) (name : String) (c : Callable FunctionRef) : Prop where
  configured : configuration files line = .ok config
  prepared : (prepare M files config.runtime line.module).result = .ok (id, h)
  named : line.exportName = some name
  found : (h.getFunction id name).result = .ok c

/-- A report which says that the results of a call are printed.

* `declared`: there is a value for each result which is declared, in order, and of its type.
* `oneLine`, `output`: there is a line for each of these values, and nothing else. -/
structure Prints (c : Callable FunctionRef) (r : CallResult) (report : Report) : Prop where
  declared : List.Forall₂ Host.Carries (c.signature.results.map Boundary.typeOf) r.toList
  oneLine : ∀ v ∈ r.toList, OneLine v.display
  output : report.output = String.join (r.toList.map (·.display ++ "\n"))
  exitCode : report.exitCode = 0

/-- What following a command line comes to which does not ask for a listing.

* `ended`: either the call returns and its results are printed, or nothing is printed and the exit
  code tells of the failure.
* `resolved`: if the export is found, then what the run ends with is the answer to the call, under
  the policy of the configuration. -/
structure Followed (M : Machine) (elapsed : Nat) (files : FileReader)
    (env : CommandLine.Environment) (line : CommandLine) : Prop where
  ended : (∃ (config : Configuration) (id : InstanceId) (h : Host M) (name : String)
      (c : Callable FunctionRef) (values : List Value) (r : CallResult),
      Resolves files line config id h name c ∧
      Argument.readAll c.signature.params line.args = .ok values ∧
      ((h.getFunction id name).state.call elapsed c values).result = .ok r ∧
      Prints c r (run M elapsed files env line)) ∨
    (run M elapsed files env line).exitCode = 1 ∧ (run M elapsed files env line).output = ""
  resolved : ∀ (config : Configuration) (id : InstanceId) (h : Host M) (name : String)
    (c : Callable FunctionRef), Resolves files line config id h name c →
    c.policy = config.runtime.call.overflow ∧
      Answered c line.args
        (fun values => ((h.getFunction id name).state.call elapsed c values).result)
        (run M elapsed files env line).result (runRecording M elapsed files env line).2

variable {config : Configuration} {id : InstanceId} {h : Host M} {name : String}
  {c : Callable FunctionRef}

/-- Once the export is found, a run is the call of it. -/
theorem Resolves.run_eq (hr : Resolves files line config id h name c)
    (hlist : line.list = false) (elapsed : Nat) (env : CommandLine.Environment) :
    (run M elapsed files env line).result =
        (callExportRecording elapsed id h name line.args).result ∧
      (runRecording M elapsed files env line).2 =
        (callExportRecording elapsed id h name line.args).state := by
  have hserve : serveRecording elapsed line id h =
      callExportRecording elapsed id h name line.args := by
    simp only [serveRecording, hlist, hr.named]
    rfl
  rw [← runRecording_eq_run]
  unfold runRecording performRecording
  simp only [hr.configured, hr.prepared, hserve, and_self]

/-- Once the export is found, a run answers the call. -/
theorem Resolves.answered (hr : Resolves files line config id h name c)
    (hlist : line.list = false) (hrefuels : M.Refuels) (htyped : M.Typed) :
    Answered c line.args
      (fun values => ((h.getFunction id name).state.call elapsed c values).result)
      (run M elapsed files env line).result (runRecording M elapsed files env line).2 := by
  obtain ⟨hresult, hentries⟩ := hr.run_eq hlist elapsed env
  rw [hresult, hentries]
  exact answered_callExport (prepare_eq_ok hr.prepared).1 hrefuels htyped hr.found

/-- A run which prints something has found the export. -/
theorem exists_resolves (hlist : line.list = false) {lines : List String}
    (hrun : (run M elapsed files env line).result = .ok lines) :
    ∃ config id name c, ∃ h : Host M, Resolves files line config id h name c := by
  unfold run at hrun
  cases hconfig : configuration files line with
  | error text =>
      rw [hconfig] at hrun
      cases hrun
  | ok config =>
      simp only [hconfig, perform] at hrun
      obtain ⟨⟨id, h⟩, hprepared, hserved⟩ := exists_of_bind hrun
      cases hname : line.exportName with
      | none =>
          simp only [serve, hlist, hname] at hserved
          cases hserved
      | some name =>
          simp only [serve, hlist, hname] at hserved
          obtain ⟨⟨c, h'⟩, hfound, -⟩ := exists_of_bind hserved
          exact ⟨config, id, name, c, h, hconfig, hprepared, hname, (ofReply_eq_ok_iff.1 hfound).1⟩

/-- A run which answers a call with lines prints the results. -/
theorem Answered.prints {texts : List String} {call : List Value → Except CallError CallResult}
    {entries : List Entered} {report : Report} {lines : List String}
    (ha : Answered c texts call report.result entries) (hresult : report.result = .ok lines) :
    ∃ values r, Argument.readAll c.signature.params texts = .ok values ∧ call values = .ok r ∧
      Prints c r report := by
  rw [hresult] at ha
  by_cases hcount : texts.length = c.signature.params.length
  · cases hread : Argument.readAll c.signature.params texts with
    | error e =>
        obtain ⟨i, hmisread, -⟩ := (Argument.readAll_eq_error_iff hcount).1 hread
        obtain ⟨_, _, -, -, hfailed⟩ := ha.misread hcount ⟨i, e, hmisread⟩
        cases hfailed
    | ok values =>
        obtain ⟨values', hread', hcomes, hlines⟩ :=
          ha.called hcount (Argument.reads_of_readAll hcount hread)
        rw [hread] at hread'
        cases hread'
        generalize hcalled : call values = result at hcomes hlines
        cases hcomes with
        | returned hadmissible r hcarries hdisplay entry =>
            refine ⟨values, r, rfl, hcalled, hcarries, hdisplay, ?_, ?_⟩
            · rw [Report.output, hresult]
              cases hlines
              simp only [List.map_map]
              rfl
            · rw [Report.exitCode, hresult]
        | exceeded => cases hlines
        | trapped => cases hlines
  · obtain ⟨-, hfailed⟩ := ha.counted hcount
    cases hfailed

/-- Every command line which does not ask for a listing is followed, on a typed machine which can be
refuelled. -/
theorem run_followed (hrefuels : M.Refuels) (htyped : M.Typed) (elapsed : Nat)
    (files : FileReader) (env : CommandLine.Environment) (hlist : line.list = false) :
    Followed M elapsed files env line where
  ended := by
    cases hrun : (run M elapsed files env line).result with
    | error text =>
        refine .inr ⟨?_, ?_⟩
        · rw [Report.exitCode, hrun]
        · rw [Report.output, hrun]
    | ok lines =>
        obtain ⟨config, id, name, c, h, hr⟩ := exists_resolves hlist hrun
        obtain ⟨values, r, hread, hcalled, hprints⟩ :=
          (hr.answered hlist hrefuels htyped).prints hrun
        exact .inl ⟨config, id, h, name, c, values, r, hr, hread, hcalled, hprints⟩
  resolved := by
    intro config id h name c hr
    obtain ⟨hh, hpolicy⟩ := prepare_eq_ok hr.prepared
    exact ⟨policy_of_found hh hpolicy hr.found, hr.answered hlist hrefuels htyped⟩

end Followed

section Sum

/-- A binary module with a function `sum`: its types, functions, exports and code. -/
def sumBytes : List UInt8 :=
  [0, 97, 115, 109, 1, 0, 0, 0] ++
    [1, 7, 1, 96, 2, 127, 127, 1, 127] ++
    [3, 2, 1, 0] ++
    [7, 7, 1, 3, 115, 117, 109, 0, 0] ++
    [10, 9, 1, 7, 0, 32, 0, 32, 1, 106, 11]

/-- The module in these bytes.  The function adds two integers. -/
def sumModule : Wasm.Module :=
  let type : Wasm.FuncType := ⟨[.i32, .i32], [.i32]⟩
  { Wasm.Module.empty with
    types := [type]
    functions := [⟨type, [], [.localGet 0, .localGet 1, .numeric .i32Add]⟩]
    exports := [⟨"sum", .func, 0⟩] }

/-- There is one file, which has the module in it. -/
def sumFiles : FileReader := fun path =>
  if path = "sum.wasm" then .ok sumBytes else .error .missing

/-- A command line which asks for the sum of one and two. -/
def sumLine : CommandLine :=
  ⟨"sum.wasm", some "sum", ["1", "2"], none, false, false, false⟩

/-- The host with one instance of the module, and the callable for its function. -/
def sumHost : Host Wasm.interpreter :=
  ((Host.ofEngine .interpreting).instantiate ⟨sumModule, Digest.ofBytes sumBytes⟩ .default).state

def sumCallable : Callable FunctionRef :=
  ⟨"sum", ⟨[.i32, .i32], [.i32]⟩, .reject, ⟨⟨0⟩, 0, 1⟩⟩

theorem isValid_sumModule : sumModule.isValid = true := by
  simp [sumModule, Wasm.Module.isValid, Wasm.Module.empty, Wasm.Module.checkFunction,
    Wasm.Context.checkAll, Wasm.Context.check]
  decide

theorem compileFile_sum :
    (Engine.interpreting.compileFile sumFiles "sum.wasm").result =
      .ok ⟨sumModule, Digest.ofBytes sumBytes⟩ := by
  have hmagic : hasMagic sumBytes = true := rfl
  have hfile : sumFiles "sum.wasm" = .ok sumBytes := rfl
  rw [Engine.compileFile_of_binary hfile hmagic]
  exact Engine.compileBytes_of_compile hmagic (by decide)
    (Wasm.Interpreter.compile_of_valid rfl isValid_sumModule rfl)

theorem resolves_sum : Resolves sumFiles sumLine .default ⟨0⟩ sumHost "sum" sumCallable where
  configured := rfl
  prepared := prepare_of_ok rfl compileFile_sum rfl
  named := rfl
  found := rfl

/-- The sum of one and two is printed. -/
theorem followed_sum :
    sumLine.list = false ∧
      Resolves sumFiles sumLine .default ⟨0⟩ sumHost "sum" sumCallable ∧
      Followed Wasm.interpreter 3 sumFiles .empty sumLine ∧
      (run Wasm.interpreter 3 sumFiles .empty sumLine).output = "3\n" := by
  have hresult : (run Wasm.interpreter 3 sumFiles .empty sumLine).result = .ok ["3"] := by
    rw [(resolves_sum.run_eq rfl 3 .empty).1]
    rfl
  refine ⟨rfl, resolves_sum, run_followed Wasm.Interpreter.refuels Wasm.Interpreter.typed 3 sumFiles
    .empty rfl, ?_⟩
  rw [Report.output, hresult]
  rfl

end Sum

end WasmCall.Command
