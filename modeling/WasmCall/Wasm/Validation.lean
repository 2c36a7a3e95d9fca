import WasmCall.Power
import WasmCall.Wasm.Module

/-!
# Validation

A module is valid if everything which it refers to exists and has the right type.  Code is checked
by running it on types instead of values.  Behind an instruction which never lets control pass, the
stack is unknown below what was put on it since, and any operand is found there.

Only the instructions of `Instr` have a type.  Other code does not get this far.
-/

namespace WasmCall.Wasm

/-- What code may refer to.  The labels are given by the types which a branch carries. -/
structure Context where
  funcs : List FuncType
  tables : List TableType
  memories : List Limits
  globals : List GlobalType
  declared : List Nat
  locals : List ValType
  results : List ValType
  labels : List (List ValType)

/-- The types on the stack, the top one first, and whether anything may be below them.  A type may be
unknown. -/
structure Operands where
  types : List (Option ValType)
  polymorphic : Bool

namespace Operands

/-- A stack of given types, the first of them at the bottom. -/
def ofTypes (ts : List ValType) : Operands :=
  ⟨(ts.map some).reverse, false⟩

/-- The stack behind an instruction which does not let control pass. -/
def unknown : Operands := ⟨[], true⟩

/-- Take any type off the stack. -/
def popAny (s : Operands) : Option (Option ValType × Operands) :=
  match s.types with
  | t :: ts => some (t, { s with types := ts })
  | [] => if s.polymorphic then some (none, s) else none

/-- Take a given type off the stack. -/
def pop (s : Operands) (t : ValType) : Option Operands := do
  let (u, s) ← s.popAny
  if u = none ∨ u = some t then some s else none

/-- Take given types off the stack, the last of them first. -/
def popAll (s : Operands) (ts : List ValType) : Option Operands :=
  ts.reverse.foldlM pop s

/-- Put a type on the stack. -/
def push (s : Operands) (t : Option ValType) : Operands :=
  { s with types := t :: s.types }

/-- Put types on the stack, the last of them on top. -/
def pushAll (s : Operands) (ts : List ValType) : Operands :=
  { s with types := (ts.map some).reverse ++ s.types }

/-- Take types off the stack and put others on it. -/
def apply (s : Operands) (params results : List ValType) : Option Operands := do
  return (← s.popAll params).pushAll results

/-- Whether the stack consists of given types. -/
def isExactly (s : Operands) (ts : List ValType) : Bool :=
  match s.popAll ts with
  | some s => s.types.isEmpty
  | none => false

end Operands

namespace Context

/-- The context of the body of a block whose label carries given types. -/
def inside (c : Context) (label : List ValType) : Context :=
  { c with labels := label :: c.labels }

/-- The type which a `select` instruction without a type gives, from those of its operands. -/
def selected (a b : Option ValType) : Option (Option ValType) :=
  let plain (t : Option ValType) : Bool :=
    match t with
    | some t => !t.isReference
    | none => true
  if plain a && plain b then
    match a, b with
    | none, t => some t
    | t, none => some t
    | some a, some b => if a = b then some (some a) else none
  else none

/-- Check an instruction without a body, on the stack before it. -/
def checkPlain (c : Context) (s : Operands) : Instr → Option Operands
  | .unreachable => some .unknown
  | .nop => some s
  | .drop => do return (← s.popAny).2
  | .select none => do
    let s ← s.pop .i32
    let (b, s) ← s.popAny
    let (a, s) ← s.popAny
    return s.push (← selected a b)
  | .select (some t) => s.apply [t, t, .i32] [t]
  | .localGet i => do return s.push (some (← c.locals[i]?))
  | .localSet i => do s.pop (← c.locals[i]?)
  | .localTee i => do
    let t ← c.locals[i]?
    s.apply [t] [t]
  | .globalGet i => do return s.push (some (← c.globals[i]?).type)
  | .globalSet i => do
    let g ← c.globals[i]?
    if g.mutable then s.pop g.type else none
  | .const v => some (s.push (some v.type))
  | .numeric op => s.apply op.params [op.result]
  | .memory op _ => do
    let _ ← c.memories.head?
    s.apply op.params op.results
  | .refNull t => some (s.push (some t))
  | .refFunc i => if i < c.funcs.length ∧ i ∈ c.declared then s.push (some .funcref) else none
  | .refIsNull => do
    let (t, s) ← s.popAny
    match t with
    | some t => if t.isReference then s.push (some .i32) else none
    | none => s.push (some .i32)
  | .br l => do
    let _ ← s.popAll (← c.labels[l]?)
    return .unknown
  | .brIf l => do
    let ts ← c.labels[l]?
    (← s.pop .i32).apply ts ts
  | .ret => do
    let _ ← s.popAll c.results
    return .unknown
  | .call i => do
    let t ← c.funcs[i]?
    s.apply t.params t.results
  | .callIndirect table t => do
    let table ← c.tables[table]?
    if table.elem = .funcref then (← s.pop .i32).apply t.params t.results else none
  | .block _ _ | .loop _ _ | .cond _ _ _ => none

mutual

/-- Check an instruction, on the stack before it. -/
def check (c : Context) (s : Operands) : Instr → Option Operands
  | .block t body => do
    let s ← s.popAll t.params
    if ← endsWith (c.inside t.results) t body then s.pushAll t.results else none
  | .loop t body => do
    let s ← s.popAll t.params
    if ← endsWith (c.inside t.params) t body then s.pushAll t.results else none
  | .cond t yes no => do
    let s ← (← s.pop .i32).popAll t.params
    if ← endsWith (c.inside t.results) t yes then
      if ← endsWith (c.inside t.results) t no then s.pushAll t.results else none
    else none
  | i => c.checkPlain s i

/-- Check instructions one after another. -/
def checkAll (c : Context) (s : Operands) : List Instr → Option Operands
  | [] => some s
  | i :: is => do checkAll c (← check c s i) is

/-- Whether a body takes the parameters of a type to its results, if it is valid. -/
def endsWith (c : Context) (t : FuncType) (body : List Instr) : Option Bool := do
  return (← checkAll c (.ofTypes t.params) body).isExactly t.results

end

/-- Whether an expression is constant: it gives a value of the type without looking at anything but
imported globals which never change. -/
def isConstant (c : Context) (imported : List GlobalType) (t : ValType) (init : List Instr) : Bool :=
  let constant : Instr → Bool
    | .const _ | .refNull _ | .refFunc _ => true
    | .numeric op => op.isConstant
    | .globalGet i =>
      match imported[i]? with
      | some g => !g.mutable
      | none => false
    | _ => false
  init.all constant && (c.endsWith ⟨[], [t]⟩ init == some true)

end Context

/-- Whether limits are in order, for things which may be at most so large. -/
def Limits.isValid (bound : Nat) (l : Limits) : Bool :=
  l.min ≤ bound &&
    match l.max with
    | none => true
    | some max => max ≤ bound && l.min ≤ max

/-- The largest memory, in pages. -/
def maxPages : Nat := 65536

/-- The largest number of elements which a table may have to begin with. -/
def maxTableSize : Nat := 10000000

/-- Whether a table type is in order.  Its bound only has to be a word. -/
def TableType.isValid (t : TableType) : Bool :=
  t.limits.isValid (pow2 32 - 1) && t.limits.min ≤ maxTableSize

namespace Module

variable (m : Module)

/-- The functions to which references may be made: those which are exported, or which are mentioned
by a segment or by the value of a global. -/
def declaredFunctions : List Nat :=
  let mentioned : Instr → Option Nat
    | .refFunc i => some i
    | _ => none
  (m.exports.filter (·.kind = .func)).map Export.index ++
    m.elements.flatMap ElementSegment.functions ++
    m.globals.flatMap (·.init.filterMap mentioned)

/-- What code outside of functions may refer to. -/
def context : Context :=
  { funcs := m.funcTypes
    tables := m.tableTypes
    memories := m.memoryTypes
    globals := m.globalTypes
    declared := m.declaredFunctions
    locals := []
    results := []
    labels := [] }

/-- What the body of a function may refer to. -/
def functionContext (f : Function) : Context :=
  { m.context with
    locals := f.type.params ++ f.locals
    results := f.type.results
    labels := [f.type.results] }

/-- Whether the body of a function gives its results. -/
def checkFunction (f : Function) : Bool :=
  match (m.functionContext f).checkAll ⟨[], false⟩ f.body with
  | some s => s.isExactly f.type.results
  | none => false

/-- Whether an export refers to something. -/
def checkExport (e : Export) : Bool :=
  e.index < m.count e.kind

/-- Whether a segment may go where it is meant to go. -/
def checkMode (count : Nat) : SegmentMode → Bool
  | .active index offset =>
    index < count && m.context.isConstant m.importedGlobals .i32 offset
  | .passive | .declared => true

/-- Whether an element segment belongs to a table of functions and consists of functions. -/
def checkElements (e : ElementSegment) : Bool :=
  let tableFits : Bool :=
    match e.mode with
    | .active index _ => (m.tableTypes[index]?.map TableType.elem) == some .funcref
    | _ => true
  m.checkMode m.tableTypes.length e.mode && tableFits &&
    e.functions.all (· < m.funcTypes.length)

/-- Whether an imported type is in order. -/
def checkImport (i : Import) : Bool :=
  match i.type with
  | .table t => t.isValid
  | .memory l => l.isValid maxPages
  | .func _ | .global _ => true

/-- Whether the start function takes nothing and gives nothing. -/
def checkStart : Bool :=
  match m.start with
  | none => true
  | some index => m.funcTypes[index]? == some ⟨[], []⟩

/-- Whether no two exports have the same name. -/
def exportsDistinct : Bool :=
  decide (m.exports.map Export.name).Nodup

/-- Whether a module is valid. -/
def isValid : Bool :=
  m.imports.all checkImport &&
  m.tables.all TableType.isValid &&
  m.memories.all (Limits.isValid maxPages) &&
  m.globals.all (fun g => m.context.isConstant m.importedGlobals g.type.type g.init) &&
  m.exports.all m.checkExport &&
  m.exportsDistinct &&
  m.checkStart &&
  m.elements.all m.checkElements &&
  m.data.all (fun d => m.checkMode m.memoryTypes.length d.mode) &&
  m.functions.all m.checkFunction

end Module

end WasmCall.Wasm
