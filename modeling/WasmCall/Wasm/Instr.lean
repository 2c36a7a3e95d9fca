import WasmCall.Wasm.Numeric

/-!
# Instructions

Instructions come in two forms.

* `Instr` is structured: the body of a block is inside of the block.
* `Op` is flat, as instructions are written: a block is opened and closed by instructions of its
  own, and branches may name the label of a block.

`Op.nest` takes the second form to the first.

These are some of the instructions of WebAssembly.  `br_table`, what acts on tables, what sizes,
fills or copies memories and every vector instruction are among those which are left out, and of
loads and stores there are three.
-/

namespace WasmCall.Wasm

/-- An instruction on memory. -/
inductive MemOp where
  | i32Load
  | i32Load8U
  | i32Store
  deriving DecidableEq, Inhabited

namespace MemOp

/-- All instructions on memory. -/
def all : List MemOp := [i32Load, i32Load8U, i32Store]

/-- The name of an instruction. -/
def name : MemOp → String
  | i32Load => "i32.load"
  | i32Load8U => "i32.load8_u"
  | i32Store => "i32.store"

/-- The byte which stands for an instruction in binary modules. -/
def opcode : MemOp → UInt8
  | i32Load => 0x28
  | i32Load8U => 0x2D
  | i32Store => 0x36

/-- How many bytes are read or written.  It is also the largest alignment which may be claimed. -/
def width : MemOp → Nat
  | i32Load | i32Store => 4
  | i32Load8U => 1

/-- The types of the operands, the address first. -/
def params : MemOp → List ValType
  | i32Load | i32Load8U => [.i32]
  | i32Store => [.i32, .i32]

/-- The types of the results. -/
def results : MemOp → List ValType
  | i32Load | i32Load8U => [.i32]
  | i32Store => []

end MemOp

/-- An instruction.  A label is known by its depth: how many blocks are in between. -/
inductive Instr where
  | unreachable
  | nop
  | drop
  | select (type : Option ValType)
  | localGet (index : Nat)
  | localSet (index : Nat)
  | localTee (index : Nat)
  | globalGet (index : Nat)
  | globalSet (index : Nat)
  | const (value : Val)
  | numeric (op : NumOp)
  | memory (op : MemOp) (offset : Nat)
  | refNull (type : ValType)
  | refFunc (index : Nat)
  | refIsNull
  | block (type : FuncType) (body : List Instr)
  | loop (type : FuncType) (body : List Instr)
  | cond (type : FuncType) (yes no : List Instr)
  | br (depth : Nat)
  | brIf (depth : Nat)
  | ret
  | call (index : Nat)
  | callIndirect (table : Nat) (type : FuncType)
  deriving Inhabited

/-- The fuel which an instruction takes.  Those which only shape the code take none. -/
def Instr.cost : Instr → Nat
  | unreachable | nop | drop | ret => 0
  | block _ _ | loop _ _ => 0
  | _ => 1

/-- The label which a branch goes to: by its depth, or by the name of a block. -/
inductive LabelRef where
  | depth (n : Nat)
  | name (s : String)
  deriving DecidableEq, Inhabited

/-- What an opening instruction opens. -/
inductive Opening where
  | block
  | loop
  | cond
  deriving DecidableEq, Inhabited

/-- A flat instruction.  Openings may have a label, which `otherwise` and `closing` may repeat. -/
inductive Op where
  | plain (i : Instr)
  | branch (conditional : Bool) (target : LabelRef)
  | opening (shape : Opening) (label : Option String) (type : FuncType)
  | otherwise (label : Option String)
  | closing (label : Option String)
  deriving Inhabited

namespace Op

/-- A block which is open: the instructions before it in reverse, and its first part if it has
another one. -/
structure Pending where
  shape : Opening
  label : Option String
  type : FuncType
  before : List Instr
  yes : Option (List Instr)

namespace Pending

/-- Whether a label may be repeated for a block. -/
def admits (p : Pending) (label : Option String) : Bool :=
  label.isNone || label == p.label

/-- The block, given the instructions up to its end. -/
def close (p : Pending) (last : List Instr) : Instr :=
  match p.shape with
  | .block => .block p.type last
  | .loop => .loop p.type last
  | .cond =>
    match p.yes with
    | some yes => .cond p.type yes last
    | none => .cond p.type last []

end Pending

/-- The depth of a label.  Of several blocks with the same label, the innermost one is meant. -/
def depthOf (stack : List Pending) : LabelRef → Option Nat
  | .depth n => some n
  | .name s => stack.findIdx? (·.label == some s)

/-- Put flat instructions into their blocks, given the open blocks from the inside out and the
instructions before in reverse.  Every block has to be closed, and nothing else. -/
def nest : List Pending → List Instr → List Op → Option (List Instr)
  | [], done, [] => some done.reverse
  | stack, done, plain i :: ops => nest stack (i :: done) ops
  | stack, done, branch conditional target :: ops => do
    let depth ← depthOf stack target
    nest stack ((if conditional then .brIf depth else .br depth) :: done) ops
  | stack, done, opening shape label type :: ops =>
    nest (⟨shape, label, type, done, none⟩ :: stack) [] ops
  | p :: stack, done, otherwise label :: ops =>
    if p.shape = .cond ∧ p.yes.isNone ∧ p.admits label then
      nest ({ p with yes := some done.reverse } :: stack) [] ops
    else none
  | p :: stack, done, closing label :: ops =>
    if p.admits label then nest stack (p.close done.reverse :: p.before) ops else none
  | _, _, _ => none

/-- The body of a function or an initial value, as structured instructions. -/
def structured (ops : List Op) : Option (List Instr) :=
  nest [] [] ops

end Op

end WasmCall.Wasm
