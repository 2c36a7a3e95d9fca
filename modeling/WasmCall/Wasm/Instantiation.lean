import WasmCall.Wasm.Machine

/-!
# Instantiation

A module which imports nothing is instantiated in four steps: globals get their values, tables and
memories are made, active segments are put into them, and the start function is called.  Nothing can
be imported, so the first import of any other module is unknown.
-/

namespace WasmCall.Wasm

/-- Why a module cannot be instantiated.

* `unknownImport`: something is imported.
* `segment`: an active segment does not fit.
* `start`: the start function did not return. -/
inductive InstantiationFault where
  | unknownImport (module name : String)
  | segment (t : Trap)
  | start (h : Halt)
  deriving DecidableEq, Inhabited

/-- Compute a constant expression, given the globals so far. -/
def evalConstant (globals : Array Val) (init : List Instr) : Option Val := do
  let put (stack : List Val) : Instr → Option (List Val)
    | .const v => some (v :: stack)
    | .refNull t => some (.zero t :: stack)
    | .refFunc i => some (.func (some i) :: stack)
    | .globalGet i => do return (← globals[i]?) :: stack
    | .numeric op =>
      let n := op.params.length
      match op.eval (stack.take n).reverse with
      | some (.ok v) => some (v :: stack.drop n)
      | _ => none
    | _ => none
  (← init.foldlM put []).head?

/-- The offset of a segment.  It is a word. -/
def evalOffset (globals : Array Val) (offset : List Instr) : Nat :=
  match evalConstant globals offset with
  | some (.i32 n) => n.toNat
  | _ => 0

namespace Module

variable (m : Module)

/-- The functions of a module. -/
def program : Program := ⟨m.functions.toArray⟩

/-- The values which the globals have to begin with. -/
def initialGlobals : Array Val :=
  let put (globals : Array Val) (g : Global) : Array Val :=
    globals.push ((evalConstant globals g.init).getD (.zero g.type.type))
  m.globals.foldl put #[]

/-- The state before anything is put into tables and memories. -/
def initialState : State :=
  { globals := m.initialGlobals
    memories := m.memories.map fun l => .ofPages l.min
    tables := m.tables.map fun t => .ofSize t.limits.min }

end Module

namespace State

/-- Put an active element segment into its table. -/
def putElements (s : State) (e : ElementSegment) : Except Trap State :=
  match e.mode with
  | .active index offset =>
    match s.tables[index]?.bind (·.write (evalOffset s.globals offset) e.functions) with
    | some t => .ok { s with tables := s.tables.set index t }
    | none => .error .tableBounds
  | .passive | .declared => .ok s

/-- Put an active data segment into its memory. -/
def putData (s : State) (d : DataSegment) : Except Trap State :=
  match d.mode with
  | .active index offset =>
    match s.memories[index]?.bind (·.write (evalOffset s.globals offset) d.bytes) with
    | some m => .ok { s with memories := s.memories.set index m }
    | none => .error .memoryBounds
  | .passive | .declared => .ok s

end State

namespace Module

variable (m : Module)

/-- The state with all segments in their places.  Elements come before data. -/
def segmentedState : Except Trap State := do
  let s ← m.elements.foldlM State.putElements m.initialState
  m.data.foldlM State.putData s

/-- An instance which was made: its state, and the fuel which the start function took. -/
structure Started where
  state : State
  spent : Nat

/-- Call the start function, if there is one. -/
def runStart (limit : Option Nat) (s : State) : Except InstantiationFault Started :=
  match m.start with
  | none => .ok ⟨s, 0⟩
  | some index =>
    let outcome := m.program.invoke limit index [] s
    match outcome.result with
    | .ok _ => .ok ⟨outcome.state, outcome.spent⟩
    | .error h => .error (.start h)

/-- The first import, if there is one. -/
def unknownImport? : Option InstantiationFault :=
  m.imports.head?.map fun i => .unknownImport i.module i.name

/-- Instantiate a module which imports nothing. -/
def instantiate (limit : Option Nat) : Except InstantiationFault Started := do
  let s ← m.segmentedState.mapError .segment
  m.runStart limit s

end Module

end WasmCall.Wasm
