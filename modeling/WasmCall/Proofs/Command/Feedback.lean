import WasmCall.Proofs.Command.Run
import WasmCall.Proofs.Feedback
import WasmCall.Proofs.Host.Handover

/-!
# Feeding a run with what another printed

The lines which a run prints can be the arguments of another run, also of another module.  What the
machine returned to the first is what it is entered with by the second, if fuel can be set.

* `Wasm.Val.Resembles`: values are the same, or floats of the same width which are both no number.
* `Invocation`: a command line which asks for a call of a function that is found.
* `FedBack`, `printed_is_read`: whatever is printed is read, one operand or all results of a call.

A module with a function which gives a value of each kind and one which takes them is at the end.
-/

namespace WasmCall

open Floating Wasm

section Values

/-- The same value, or floats of the same width which are both no number. -/
inductive Wasm.Val.Resembles : Val → Val → Prop
  | same (v : Val) : Resembles v v
  | nan32 (a b : UInt32) (ha : binary32.isNaN a.toNat = true) (hb : binary32.isNaN b.toNat = true) :
      Resembles (.f32 a) (.f32 b)
  | nan64 (a b : UInt64) (ha : binary64.isNaN a.toNat = true) (hb : binary64.isNaN b.toNat = true) :
      Resembles (.f64 a) (.f64 b)

/-- A value which has a text of its own.  Only functions have none. -/
def Wasm.Val.IsShown : Val → Prop
  | .func (some _) => False
  | _ => True

variable {owner : InstanceId} {index : Nat} {r r' : Operand} {v : Val}

/-- Only a handle is lowered to a function. -/
theorem Boundary.isShown_of_lower (h : lower owner index r = .ok v) (hv : v.IsShown) :
    r.IsShown := by
  unfold lower at h
  split at h
  · trivial
  · trivial
  · trivial
  · trivial
  · trivial
  · split at h
    · cases h
      exact absurd hv id
    · cases h
  · cases h

/-- Operands which resemble each other are lowered to values which do, in any machine. -/
theorem Boundary.lower_resembles (h : lower owner index r = .ok v) (hv : v.IsShown)
    (hr : r.Resembles r') (owner' : InstanceId) (index' : Nat) :
    ∃ v', lower owner' index' r' = .ok v' ∧ v.Resembles v' := by
  cases hr with
  | nan32 a b ha hb =>
      cases h
      exact ⟨.f32 b, rfl, .nan32 a b ha hb⟩
  | nan64 a b ha hb =>
      cases h
      exact ⟨.f64 b, rfl, .nan64 a b ha hb⟩
  | same r =>
      refine ⟨v, ?_, .same v⟩
      have hshown := isShown_of_lower h hv
      cases r with
      | ref g =>
          cases g with
          | null => exact h
          | held number payload => exact absurd hshown id
      | _ => exact h

/-- Operands are lowered one after another. -/
theorem Boundary.lowerFrom_cons_eq_ok {rs : List Operand} {vs : List Val}
    (h : lowerFrom owner index (r :: rs) = .ok vs) :
    ∃ v rest, vs = v :: rest ∧ lower owner index r = .ok v ∧
      lowerFrom owner (index + 1) rs = .ok rest := by
  rw [lowerFrom] at h
  cases hfirst : lower owner index r with
  | error e =>
      rw [hfirst] at h
      cases h
  | ok v =>
      cases hrest : lowerFrom owner (index + 1) rs with
      | error e =>
          rw [hfirst, hrest] at h
          cases h
      | ok rest =>
          rw [hfirst, hrest] at h
          cases h
          exact ⟨v, rest, rfl, rfl, rfl⟩

/-- All operands are shown which were lowered to values that are. -/
theorem Boundary.isShown_of_lowerFrom {rs : List Operand} {vs : List Val}
    (h : lowerFrom owner index rs = .ok vs) (hvs : ∀ v ∈ vs, v.IsShown) : ∀ r ∈ rs, r.IsShown := by
  induction rs generalizing vs index with
  | nil => simp
  | cons r rs ih =>
      obtain ⟨v, rest, rfl, hfirst, hrest⟩ := lowerFrom_cons_eq_ok h
      rw [List.forall_mem_cons] at hvs ⊢
      exact ⟨isShown_of_lower hfirst hvs.1, ih hrest hvs.2⟩

/-- All operands of a call are lowered to values which resemble those of the other machine. -/
theorem Boundary.lowerFrom_resembles {rs rs' : List Operand} {vs : List Val}
    (h : lowerFrom owner index rs = .ok vs) (hvs : ∀ v ∈ vs, v.IsShown)
    (hrs : List.Forall₂ Operand.Resembles rs rs') (owner' : InstanceId) (index' : Nat) :
    ∃ vs', lowerFrom owner' index' rs' = .ok vs' ∧ List.Forall₂ Val.Resembles vs vs' := by
  induction hrs generalizing vs index index' with
  | nil =>
      cases h
      exact ⟨[], rfl, .nil⟩
  | cons hr hrs ih =>
      obtain ⟨v, rest, rfl, hfirst, hrest⟩ := lowerFrom_cons_eq_ok h
      rw [List.forall_mem_cons] at hvs
      obtain ⟨v', hfirst', hv⟩ := lower_resembles hfirst hvs.1 hr owner' index'
      obtain ⟨rest', hrest', hvalues⟩ := ih hrest hvs.2 (index' + 1)
      refine ⟨v' :: rest', ?_, .cons hv hvalues⟩
      simp only [lowerFrom, hfirst', hrest']
      rfl

end Values

section Texts

/-- The texts of operands are read, and what is read is coerced to operands which resemble them. -/
structure AllReadBack (rs : List Operand) (vs : List Value) (rs' : List Operand) : Prop where
  read : ∀ index : Nat, Argument.readFrom index (rs.map Operand.kind)
    (rs.map fun r => r.toValue.display) = .ok vs
  coerced : ∀ (policy : OverflowPolicy) (index : Nat),
    coerceFrom policy index (rs.map Operand.kind) vs = .ok rs'
  length : vs.length = rs.length
  resemble : List.Forall₂ Operand.Resembles rs rs'

theorem AllReadBack.cons {r r' : Operand} {v : Value} {rs rs' : List Operand} {vs : List Value}
    (h : r.ReadBack v r') (hs : AllReadBack rs vs rs') :
    AllReadBack (r :: rs) (v :: vs) (r' :: rs') where
  read := by
    intro index
    simp only [List.map_cons, Argument.readFrom, h.read, hs.read (index + 1)]
    rfl
  coerced := by
    intro policy index
    simp only [List.map_cons, coerceFrom, h.coerced policy index, hs.coerced policy (index + 1)]
    rfl
  length := by rw [List.length_cons, List.length_cons, hs.length]
  resemble := .cons h.resembles hs.resemble

/-- What is printed for some operands is read as them. -/
theorem exists_allReadBack {rs : List Operand} (h : ∀ r ∈ rs, r.IsShown) :
    ∃ vs rs', AllReadBack rs vs rs' := by
  induction rs with
  | nil => exact ⟨[], [], fun _ => rfl, fun _ _ => rfl, rfl, .nil⟩
  | cons r rs ih =>
      rw [List.forall_mem_cons] at h
      obtain ⟨v, r', hr⟩ := Operand.exists_readBack h.1
      obtain ⟨vs, rs', hrs⟩ := ih h.2
      exact ⟨v :: vs, r' :: rs', .cons hr hrs⟩

variable {rs rs' : List Operand} {vs : List Value}

/-- Texts of operands are arguments where the kinds of these are declared. -/
theorem AllReadBack.readAll (h : AllReadBack rs vs rs') :
    Argument.readAll (rs.map Operand.kind) (rs.map fun r => r.toValue.display) = .ok vs := by
  rw [Argument.readAll, if_pos (by rw [List.length_map, List.length_map])]
  exact h.read 0

theorem AllReadBack.operands {ι : Type} {c : Callable ι} (h : AllReadBack rs vs rs')
    (hkinds : rs.map Operand.kind = c.signature.params) : c.operands vs = .ok rs' := by
  rw [Callable.operands, if_pos (by rw [← hkinds, List.length_map, h.length]), ← hkinds]
  exact h.coerced c.policy 0

end Texts

namespace Command

open Instance (Entered)

/-- A command line which asks for a call, together with the function which is found for it. -/
structure Invocation (M : Machine) where
  elapsed : Nat
  files : FileReader
  env : CommandLine.Environment
  line : CommandLine
  config : Configuration
  id : InstanceId
  host : Host M
  name : String
  callable : Callable FunctionRef
  asks : line.list = false
  resolves : Resolves files line config id host name callable

variable {M : Machine}

namespace Invocation

variable (v : Invocation M)

/-- The lines which the run prints, or the text of its error. -/
def lines : Except String (List String) := (run M v.elapsed v.files v.env v.line).result

/-- The machines which the run enters. -/
def entries : List Entered := (runRecording M v.elapsed v.files v.env v.line).2

/-- What a run comes to whose texts are read. -/
theorem exists_called {values : List Value}
    (hread : Argument.readAll v.callable.signature.params v.line.args = .ok values) :
    ∃ (i : Instance M) (supply : HandleSupply), i.WellMade ∧ i.id = v.callable.target.owner ∧
      (let called := Instance.callIn (Instance.recording (Instance.entry v.elapsed) i.id) i.id
        v.callable values ⟨(i, []), supply⟩
      v.lines = printed v.callable called.result ∧ v.entries = called.state.machine.2) := by
  obtain ⟨hresult, hentries⟩ := v.resolves.run_eq v.asks v.elapsed v.env
  obtain ⟨hbehind, i, hi, hoffers⟩ :=
    offers_of_found (prepare_eq_ok v.resolves.prepared).1 v.resolves.found
  refine ⟨i, (v.host.getFunction v.id v.name).state.supply,
    hbehind.wellMade i (Host.mem_of_find? hi).1, hoffers.owner.symm, ?_, ?_⟩
  · rw [lines, hresult, callExportRecording]
    simp only [v.resolves.found, hread]
    rw [← Host.result_of_find? hi, ← Host.callRecording_eq_call]
    rfl
  · rw [entries, hentries, callExportRecording]
    simp only [v.resolves.found, hread]
    exact Host.entries_of_find? hi v.elapsed values

/-- A run which prints something has its texts read. -/
theorem exists_readAll {lines : List String} (h : v.lines = .ok lines) :
    ∃ values, Argument.readAll v.callable.signature.params v.line.args = .ok values := by
  cases hread : Argument.readAll v.callable.signature.params v.line.args with
  | ok values => exact ⟨values, rfl⟩
  | error e =>
      rw [Invocation.lines, (v.resolves.run_eq v.asks v.elapsed v.env).1,
        callExportRecording] at h
      simp only [v.resolves.found, hread] at h
      cases h

end Invocation

/-- What a run printed is fed to another run.

* `oneLine`: every line is one, so the lines can be told apart.
* `passed`: the machine of the first run was entered once and returned; and if the results are shown,
  the machine of the second is entered once, with values which resemble them. -/
structure FedBack (first second : Invocation M) (lines : List String) : Prop where
  oneLine : ∀ text ∈ lines, OneLine text
  passed : ∃ values results,
    first.entries =
      [⟨first.callable.target.owner, first.callable.target, values, .ok results⟩] ∧
    ((∀ v ∈ results, v.IsShown) → ∃ args answer,
      second.entries =
        [⟨second.callable.target.owner, second.callable.target, args, answer⟩] ∧
      List.Forall₂ Val.Resembles results args)

/-- The lines of a run which was printed are the texts of what came back from the machine. -/
theorem Invocation.exists_raised (v : Invocation M) {lines : List String}
    (h : v.lines = .ok lines) :
    ∃ values results raised,
      v.entries = [⟨v.callable.target.owner, v.callable.target, values, .ok results⟩] ∧
      Boundary.lowerAll v.callable.target.owner raised = .ok results ∧
      raised.map Operand.kind = v.callable.signature.results ∧
      lines = raised.map fun r => r.toValue.display := by
  obtain ⟨values, hread⟩ := v.exists_readAll h
  obtain ⟨i, supply, -, hid, hlines, hentries⟩ := v.exists_called hread
  rw [hlines] at h
  cases hresult : (Instance.callIn (Instance.recording (Instance.entry v.elapsed) i.id) i.id
      v.callable values ⟨(i, []), supply⟩).result with
  | error e =>
      rw [hresult] at h
      cases h
  | ok r =>
      obtain ⟨args, results, raised, hgiven, hraised, hkinds, hvalues⟩ :=
        Instance.exists_raised_of_callIn hresult
      rw [hresult] at h
      refine ⟨args, results, raised, ?_, ?_, hkinds, ?_⟩
      · rw [hentries, hgiven, hid]
      · rw [← hid]
        exact Boundary.lowerAll_of_raiseAll hraised
      · have htexts : r.toList.map Value.display = lines := Except.ok.inj h
        rw [← htexts, hvalues, List.map_map]
        rfl

/-- A run whose arguments are the texts of operands enters the machine with values which resemble
them, if fuel can be set. -/
theorem Invocation.exists_entered (v : Invocation M) (hrefuels : M.Refuels) {owner : InstanceId}
    {rs : List Operand} {vs : List Val} (hlowered : Boundary.lowerAll owner rs = .ok vs)
    (hvs : ∀ v ∈ vs, v.IsShown) (hkinds : rs.map Operand.kind = v.callable.signature.params)
    (hargs : v.line.args = rs.map fun r => r.toValue.display) :
    ∃ args answer,
      v.entries = [⟨v.callable.target.owner, v.callable.target, args, answer⟩] ∧
      List.Forall₂ Val.Resembles vs args := by
  obtain ⟨values, rs', hback⟩ := exists_allReadBack (Boundary.isShown_of_lowerFrom hlowered hvs)
  have hread : Argument.readAll v.callable.signature.params v.line.args = .ok values := by
    rw [← hkinds, hargs]
    exact hback.readAll
  obtain ⟨i, supply, hwell, hid, -, hentries⟩ := v.exists_called hread
  obtain ⟨full, hrefuel⟩ := hwell.exists_refuel hrefuels
  obtain ⟨args, hlowered', hresemble⟩ :=
    Boundary.lowerFrom_resembles hlowered hvs hback.resemble i.id 0
  refine ⟨args, (full.enter v.elapsed v.callable.target args).result, ?_, hresemble⟩
  rw [hentries, Instance.entered_of_lowerAll (hback.operands hkinds) hlowered' hrefuel, hid]

/-- What is printed is read: the text of one operand, and all lines of a run. -/
theorem printed_is_read :
    (∀ r : Operand, r.IsShown → ∃ v r', r.ReadBack v r') ∧
      ∀ M : Machine, M.Refuels → ∀ (first second : Invocation M) (lines : List String),
        first.lines = .ok lines →
          first.callable.signature.results = second.callable.signature.params →
            second.line.args = lines → FedBack first second lines := by
  refine ⟨fun r hr => Operand.exists_readBack hr, ?_⟩
  intro M hrefuels first second lines hprinted hfit hargs
  obtain ⟨values, results, raised, hgiven, hlowered, hkinds, hlines⟩ :=
    first.exists_raised hprinted
  refine ⟨?_, values, results, hgiven, ?_⟩
  · intro text htext
    rw [hlines] at htext
    obtain ⟨r, -, rfl⟩ := List.mem_map.1 htext
    exact oneLine_display r
  · intro hshown
    exact second.exists_entered hrefuels hlowered hshown (hkinds.trans hfit) (hargs.trans hlines)

section Kinds

/-- A binary module with a function which gives a value of each kind and one which takes them: its
types, functions, exports and code. -/
def kindsBytes : List UInt8 :=
  [0, 97, 115, 109, 1, 0, 0, 0] ++
    [1, 17, 2, 96, 0, 5, 127, 126, 125, 124, 112, 96, 5, 127, 126, 125, 124, 112, 0] ++
    [3, 3, 2, 0, 1] ++
    [7, 15, 2, 4, 103, 105, 118, 101, 0, 0, 4, 116, 97, 107, 101, 0, 1] ++
    [10, 36, 2] ++
    [31, 0, 65, 121, 66, 128, 128, 128, 128, 128, 128, 128, 128, 128, 127, 67, 205, 204, 204, 61,
      68, 0, 0, 0, 0, 0, 0, 0, 128, 208, 112, 11] ++
    [2, 0, 11]

/-- The values which are given: two integers, a tenth, the negative zero and null. -/
def kindsValues : List Val :=
  [.i32 4294967289, .i64 9223372036854775808, .f32 1036831949, .f64 9223372036854775808, .func none]

/-- The module in these bytes. -/
def kindsModule : Wasm.Module :=
  let types : List ValType := [.i32, .i64, .f32, .f64, .funcref]
  let give : FuncType := ⟨[], types⟩
  let take : FuncType := ⟨types, []⟩
  { Wasm.Module.empty with
    types := [give, take]
    functions := [⟨give, [], [.const (.i32 4294967289), .const (.i64 9223372036854775808),
      .const (.f32 1036831949), .const (.f64 9223372036854775808), .refNull .funcref]⟩,
      ⟨take, [], []⟩]
    exports := [⟨"give", .func, 0⟩, ⟨"take", .func, 1⟩] }

/-- There is one file, which has the module in it. -/
def kindsFiles : FileReader := fun path =>
  if path = "kinds.wasm" then .ok kindsBytes else .error .missing

/-- The lines which are printed. -/
def kindsLines : List String := ["-7", "-9223372036854775808", "0.1", "-0", "null"]

theorem isValid_kindsModule : kindsModule.isValid = true := by
  simp [kindsModule, Wasm.Module.isValid, Wasm.Module.empty, Wasm.Module.checkFunction,
    Wasm.Context.checkAll, Wasm.Context.check]
  decide

set_option maxRecDepth 10000 in
theorem compileFile_kinds :
    (Engine.interpreting.compileFile kindsFiles "kinds.wasm").result =
      .ok ⟨kindsModule, Digest.ofBytes kindsBytes⟩ := by
  have hmagic : hasMagic kindsBytes = true := rfl
  have hfile : kindsFiles "kinds.wasm" = .ok kindsBytes := rfl
  rw [Engine.compileFile_of_binary hfile hmagic]
  exact Engine.compileBytes_of_compile hmagic (by decide)
    (Interpreter.compile_of_valid rfl isValid_kindsModule rfl)

/-- The host with one instance of the module. -/
def kindsHost : Host interpreter :=
  ((Host.ofEngine .interpreting).instantiate
    ⟨kindsModule, Digest.ofBytes kindsBytes⟩ .default).state

theorem prepare_kinds :
    (prepare interpreter kindsFiles Settings.default "kinds.wasm").result =
      .ok (⟨0⟩, kindsHost) :=
  prepare_of_ok rfl compileFile_kinds rfl

/-- A run which calls the function that gives the values. -/
def giveKinds : Invocation interpreter where
  elapsed := 4
  files := kindsFiles
  env := .empty
  line := ⟨"kinds.wasm", some "give", [], none, false, false, false⟩
  config := .default
  id := ⟨0⟩
  host := kindsHost
  name := "give"
  callable := ⟨"give", ⟨[], [.i32, .i64, .f32, .f64, .ref]⟩, .reject, ⟨⟨0⟩, 0, 5⟩⟩
  asks := rfl
  resolves := ⟨rfl, prepare_kinds, rfl, rfl⟩

/-- A run which calls the function that takes the values. -/
def takeKinds : Invocation interpreter where
  elapsed := 6
  files := kindsFiles
  env := .empty
  line := ⟨"kinds.wasm", some "take", kindsLines, none, false, false, false⟩
  config := .default
  id := ⟨0⟩
  host := kindsHost
  name := "take"
  callable := ⟨"take", ⟨[.i32, .i64, .f32, .f64, .ref], []⟩, .reject, ⟨⟨0⟩, 1, 0⟩⟩
  asks := rfl
  resolves := ⟨rfl, prepare_kinds, rfl, rfl⟩

theorem lines_giveKinds : giveKinds.lines = .ok kindsLines := by
  have htexts : [Value.i32 (-7), .i64 Int64.minValue, .f32 1036831949, .f64 9223372036854775808,
      .ref .null].map Value.display = kindsLines := by decide +kernel
  rw [Invocation.lines,
    (giveKinds.resolves.run_eq giveKinds.asks giveKinds.elapsed giveKinds.env).1, ← htexts]
  rfl

theorem entries_giveKinds :
    giveKinds.entries = [⟨⟨0⟩, giveKinds.callable.target, [], .ok kindsValues⟩] := by
  rw [Invocation.entries,
    (giveKinds.resolves.run_eq giveKinds.asks giveKinds.elapsed giveKinds.env).2]
  rfl

/-- The texts of a value of each kind are given to another function, and the text of the least float
is read. -/
theorem fed_back_kinds :
    giveKinds.lines = .ok kindsLines ∧ takeKinds.line.args = kindsLines ∧
      (∃ args answer, takeKinds.entries = [⟨⟨0⟩, takeKinds.callable.target, args, answer⟩] ∧
        List.Forall₂ Val.Resembles kindsValues args) ∧
      ∃ v r', (Operand.f64 1).ReadBack v r' := by
  obtain ⟨hread, hruns⟩ := printed_is_read
  have hfed : FedBack giveKinds takeKinds kindsLines :=
    hruns interpreter Interpreter.refuels _ _ _ lines_giveKinds rfl rfl
  obtain ⟨values, results, hentries, hpassed⟩ := hfed.passed
  rw [entries_giveKinds] at hentries
  cases hentries
  have hshown : ∀ v ∈ kindsValues, v.IsShown := by simp [kindsValues, Val.IsShown]
  exact ⟨lines_giveKinds, rfl, hpassed hshown, hread _ trivial⟩

end Kinds

end Command

end WasmCall
