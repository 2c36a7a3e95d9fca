import WasmCall.Proofs.Host.Origin
import WasmCall.Proofs.Instance.Charge
import WasmCall.Proofs.Wasm.Interpreter

/-!
# Causes of faults

What went wrong in a machine is a chain of messages, of any length but never empty, which ends with
the root cause.  There are two texts of it: that of its first message (`Fault.text`), and that of all
messages (`Fault.fullText`), which ends with the cause (`Fault.exists_fullText`).

A call of a function tells the whole chain.  An instantiation tells the first message, and nothing of
what is behind it.  So if a start function fails, there is no telling why, unless it is exported and
called instead.

* `CallError.Names`: an error which tells a whole chain, with the cause at its end.
* `Tells`, `Run.tells`: how faults are told in every run.
-/

namespace WasmCall

/-- A text of several messages ends with the last of them. -/
theorem exists_chainText (text : String) (texts : List String) :
    ∃ front, chainText (text :: texts) =
      front ++ (text :: texts).getLast (List.cons_ne_nil text texts) := by
  induction texts generalizing text with
  | nil => exact ⟨"", by rw [chainText, String.intercalate_singleton]; rfl⟩
  | cons next texts ih =>
      obtain ⟨front, hfront⟩ := ih next
      rw [chainText] at hfront
      refine ⟨text ++ ": " ++ front, ?_⟩
      rw [chainText, String.intercalate_cons_cons, hfront, List.getLast_cons_cons]
      simp only [String.append_assoc]

namespace Machine.Fault

/-- The whole text of a fault ends with its cause. -/
theorem exists_fullText (e : Fault) : ∃ front, e.fullText = front ++ e.root :=
  exists_chainText e.outermost e.causes

end Machine.Fault

/-- A trap which tells a fault: all of its messages, the last of which is the cause. -/
structure CallError.Names (e : CallError) (fault : Machine.Fault) : Prop where
  whole : e = .trap (chainText fault.chain) fault.code
  cause : ∃ front, chainText fault.chain = front ++ fault.root

theorem CallError.names_ofFault (fault : Machine.Fault) : (CallError.ofFault fault).Names fault :=
  ⟨rfl, fault.exists_fullText⟩

namespace Host

variable {M : Machine} {e : Engine M} {past : List (Step M)} {h : Host M}
  {c : Callable FunctionRef} {args : List Value} {m : CompiledModule M} {s : Settings}
  {fault : Machine.Fault} {elapsed : Nat}

/-- A call which traps tells the fault of the machine, or that the fuel could not be set. -/
theorem Run.told_of_call (hrun : Run e past h) (hallowed : Allowed past h (.call elapsed c args))
    {error : CallError} (hresult : (h.call elapsed c args).result = .error error)
    (htrap : error.isTrap = true) :
    ∃ i, h.find? c.target.owner = some i ∧
      ((∃ full values fault, i.refuel = .ok full ∧
        (full.run c.target values).result = .error fault ∧ error.Names fault) ∨
      i.refuel = .error error) := by
  obtain ⟨i, session, hi, -, hcalled, -⟩ := hrun.sound.called hallowed
  refine ⟨i, hi, ?_⟩
  rw [hresult] at hcalled
  generalize h.entries elapsed c args = entries at hcalled
  cases hcalled with
  | refused _ hrefused =>
      rw [CallError.isTrap_of_isArgumentError hrefused.isArgumentError] at htrap
      cases htrap
  | foreign operands haccepted index g hg hforeign hleast => cases htrap
  | stalled operands haccepted values hlowered _ hrefuel => exact .inr hrefuel
  | trapped operands haccepted values hlowered full hrefuel _ henter =>
      obtain ⟨fault, hfault, rfl⟩ := Instance.exists_fault_of_enter henter
      exact .inl ⟨full, values, fault, hrefuel, hfault, CallError.names_ofFault fault⟩
  | mismatched operands haccepted values hlowered full hrefuel results henter => cases htrap

/-- A fault of a function without parameters is told by the call of it. -/
theorem result_call_of_fault {i full : Instance M} (hi : h.find? c.target.owner = some i)
    (hparams : c.signature.params = []) (hrefuel : i.refuel = .ok full)
    (hfault : (full.run c.target []).result = .error fault) (elapsed : Nat) :
    (h.call elapsed c []).result = .error (.ofFault fault) := by
  have hoperands : c.operands [] = .ok [] := by
    rw [Callable.operands, hparams]
    rfl
  have hlowered : Boundary.lowerAll i.id [] = .ok [] := rfl
  have henter : ((Instance.entry elapsed).enter full c.target []).result =
      .error (.ofFault fault) := by
    change (full.run c.target []).result.mapError CallError.ofFault = _
    rw [hfault]
    rfl
  have hentry : (Instance.entry elapsed).refuel i = .ok full := hrefuel
  rw [call, hi]
  simp only [Instance.call, Reply.mapState]
  rw [Instance.callIn_of_enter_error _ hoperands hlowered hentry henter]

/-- A module which the machine does not instantiate is not, for a reason which is the first message
of the fault. -/
theorem result_instantiate_of_fault {store : M.Store}
    (hstore : h.engine.createStore s.execution = .ok store)
    (hfault : M.instantiate h.instances.length m.inner store = .error fault) :
    (h.instantiate m s).result = .error (.instantiation fault.outermost) := by
  unfold instantiate
  simp only [hstore, hfault]
  rfl

/-- How faults are told, behind some steps of a run.

* `call`: a call which traps tells the whole chain of what went wrong in the machine, unless it was
  the fuel which could not be set.
* `start`: an instantiation which fails tells the first message of the chain, whatever the others
  are.
* `exported`: if a function without parameters is called which fails for the same cause as an
  instantiation does, such as its start function in another module, then the call tells the cause and
  the instantiation its first message. -/
structure Tells (past : List (Step M)) (h : Host M) : Prop where
  call : ∀ (elapsed : Nat) (c : Callable FunctionRef) (args : List Value) (error : CallError),
    Allowed past h (.call elapsed c args) → (h.call elapsed c args).result = .error error →
      error.isTrap = true → ∃ i, h.find? c.target.owner = some i ∧
        ((∃ full values fault, i.refuel = .ok full ∧
          (full.run c.target values).result = .error fault ∧ error.Names fault) ∨
        i.refuel = .error error)
  start : ∀ (m : CompiledModule M) (s : Settings) (store : M.Store) (fault : Machine.Fault),
    h.engine.createStore s.execution = .ok store →
      M.instantiate h.instances.length m.inner store = .error fault →
        (h.instantiate m s).result = .error (.instantiation fault.outermost)
  exported : ∀ (m : CompiledModule M) (s : Settings) (store : M.Store)
    (fault fault' : Machine.Fault) (c : Callable FunctionRef) (i full : Instance M) (elapsed : Nat),
    h.engine.createStore s.execution = .ok store →
      M.instantiate h.instances.length m.inner store = .error fault →
      h.find? c.target.owner = some i → c.signature.params = [] → i.refuel = .ok full →
      (full.run c.target []).result = .error fault' → fault'.root = fault.root →
        (h.instantiate m s).result = .error (.instantiation fault.outermost) ∧
          ∃ front, (h.call elapsed c []).result = .error (.trap (front ++ fault.root) fault'.code)

/-- In every run, a cause is told by calls for sure, and by instantiations only as far as the first
message goes. -/
theorem Run.tells (hrun : Run e past h) : Tells past h where
  call := fun _ _ _ _ hallowed hresult htrap => hrun.told_of_call hallowed hresult htrap
  start := fun _ _ _ _ hstore hfault => result_instantiate_of_fault hstore hfault
  exported := by
    intro m s store fault fault' c i full elapsed hstore hfault hi hparams hrefuel hcalled hroot
    refine ⟨result_instantiate_of_fault hstore hfault, ?_⟩
    obtain ⟨front, hfront⟩ := fault'.exists_fullText
    refine ⟨front, ?_⟩
    rw [result_call_of_fault hi hparams hrefuel hcalled, CallError.ofFault, hfront, hroot]

section Start

open Wasm

/-- A function which traps at once. -/
def startFunction : Wasm.Function := ⟨⟨[], []⟩, [], [.unreachable]⟩

/-- A module with this function as its start function. -/
def startCompiled : CompiledModule interpreter :=
  ⟨{ Wasm.Module.empty with
      types := [⟨[], []⟩], functions := [startFunction], start := some 0 }, ""⟩

/-- A module which exports this function instead. -/
def startExported : CompiledModule interpreter :=
  ⟨{ Wasm.Module.empty with
      types := [⟨[], []⟩], functions := [startFunction], exports := [⟨"f", .func, 0⟩] }, ""⟩

/-- What goes wrong in both of them. -/
def startFault : Machine.Fault := Interpreter.haltFault 0 (.trap .unreachable)

/-- The second module is instantiated, and the function is looked up. -/
def startState : List (Step interpreter) × Host interpreter :=
  follow (follow ([], ofEngine .interpreting) (.instantiate startExported .default))
    (.lookUp ⟨0⟩ "f")

/-- An instantiation of the first module does not say that an instruction was reached which must not
be, and a call of the same function in the second one does. -/
theorem tells_start :
    Tells startState.1 startState.2 ∧
      (startState.2.instantiate startCompiled .default).result = .error (.instantiation
        "error while executing at wasm backtrace:\n    0: <wasm function 0>") ∧
      ∃ front, (startState.2.call 2 ⟨"f", ⟨[], []⟩, .reject, ⟨⟨0⟩, 0, 0⟩⟩ []).result =
        .error (.trap (front ++ "wasm trap: wasm \x60unreachable\x60 instruction executed")
          (some "UnreachableCodeReached")) := by
  have hmade : Run .interpreting _ _ :=
    Run.start.step (.instantiate startExported .default) (.instantiate startExported .default)
  have hrun : Run .interpreting startState.1 startState.2 :=
    hmade.step (.lookUp ⟨0⟩ "f") (.lookUp ⟨0⟩ "f")
  have htells := hrun.tells
  obtain ⟨hreason, front, hcalled⟩ := htells.exported startCompiled .default _ startFault startFault
    ⟨"f", ⟨[], []⟩, .reject, ⟨⟨0⟩, 0, 0⟩⟩ _ _ 2 rfl rfl rfl rfl rfl rfl rfl
  exact ⟨htells, hreason, front, hcalled⟩

end Start

end Host

end WasmCall
