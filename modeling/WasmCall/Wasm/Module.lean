import WasmCall.Wasm.Instr

/-!
# Modules

A module declares functions, tables, memories and globals, each of which has an index.  What is
imported comes first in the order of indices, and is followed by what is defined.
-/

namespace WasmCall.Wasm

/-- The type of something imported. -/
inductive ImportType where
  | func (type : FuncType)
  | table (type : TableType)
  | memory (limits : Limits)
  | global (type : GlobalType)
  deriving DecidableEq, Inhabited

/-- An import, by the name of a module and a name in it. -/
structure Import where
  module : String
  name : String
  type : ImportType
  deriving DecidableEq, Inhabited

/-- An export, by its name. -/
structure Export where
  name : String
  kind : ExternKind
  index : Nat
  deriving DecidableEq, Inhabited

/-- A function.  Its parameters are its first local variables. -/
structure Function where
  type : FuncType
  locals : List ValType
  body : List Instr
  deriving Inhabited

/-- A global variable, with the expression for the value which it has to begin with. -/
structure Global where
  type : GlobalType
  init : List Instr
  deriving Inhabited

/-- When a segment is put into the table or memory which it belongs to.

* `active`: when the module is instantiated, at the offset given by an expression.
* `passive`, `declared`: not at all. -/
inductive SegmentMode where
  | active (index : Nat) (offset : List Instr)
  | passive
  | declared
  deriving Inhabited

/-- Functions for a table, by their indices. -/
structure ElementSegment where
  mode : SegmentMode
  functions : List Nat
  deriving Inhabited

/-- Bytes for a memory. -/
structure DataSegment where
  mode : SegmentMode
  bytes : List UInt8
  deriving Inhabited

/-- A module. -/
structure Module where
  types : List FuncType
  imports : List Import
  functions : List Function
  tables : List TableType
  memories : List Limits
  globals : List Global
  exports : List Export
  start : Option Nat
  elements : List ElementSegment
  data : List DataSegment
  deriving Inhabited

namespace Module

/-- The module without anything in it. -/
def empty : Module := ⟨[], [], [], [], [], [], [], none, [], []⟩

variable (m : Module)

/-- The types of all functions. -/
def funcTypes : List FuncType :=
  let imported (i : Import) : Option FuncType :=
    match i.type with
    | .func t => some t
    | _ => none
  m.imports.filterMap imported ++ m.functions.map Function.type

/-- The types of all tables. -/
def tableTypes : List TableType :=
  let imported (i : Import) : Option TableType :=
    match i.type with
    | .table t => some t
    | _ => none
  m.imports.filterMap imported ++ m.tables

/-- The limits of all memories. -/
def memoryTypes : List Limits :=
  let imported (i : Import) : Option Limits :=
    match i.type with
    | .memory l => some l
    | _ => none
  m.imports.filterMap imported ++ m.memories

/-- The types of the imported globals. -/
def importedGlobals : List GlobalType :=
  let imported (i : Import) : Option GlobalType :=
    match i.type with
    | .global t => some t
    | _ => none
  m.imports.filterMap imported

/-- The types of all globals. -/
def globalTypes : List GlobalType :=
  m.importedGlobals ++ m.globals.map Global.type

/-- How many things of a kind have an index. -/
def count : ExternKind → Nat
  | .func => m.funcTypes.length
  | .table => m.tableTypes.length
  | .memory => m.memoryTypes.length
  | .global => m.globalTypes.length

end Module

end WasmCall.Wasm
