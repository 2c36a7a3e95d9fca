import WasmCall.Power
import WasmCall.Wasm.Module

/-!
# Modules from bytes

A binary module is a header and a sequence of sections.  Sections have a fixed order, apart from
custom ones, which may stand anywhere and are left out.  A section, and the body of a function, says
how long it is and has to be read to its end.

A byte which stands for an instruction outside of `Instr` cannot be read, so neither can the module,
however valid it is.  The same goes for element segments of expressions and for types which came
after version 2 of WebAssembly.
-/

namespace WasmCall.Wasm.Binary

/-- A reader takes what it reads from the front of the bytes, or fails. -/
abbrev Reader : Type → Type := StateT (List UInt8) Option

/-! ### Numbers, names and lists -/

/-- One byte. -/
def byte : Reader UInt8
  | b :: bs => some (b, bs)
  | [] => none

/-- A given byte. -/
def expect (b : UInt8) : Reader Unit := do
  unless (← byte) = b do
    failure

/-- So many bytes. -/
def take (n : Nat) : Reader (List UInt8) :=
  fun bs =>
    let taken := bs.take n
    if taken.length = n then some (taken, bs.drop n) else none

/-- The groups of seven bits of a number, the lowest one first.  All bytes but the last have their
upper bit set, and there is a bound for their number. -/
def groups : Nat → Reader (List Nat)
  | 0 => failure
  | n + 1 => do
    let b ← byte
    if b < 0x80 then return [b.toNat]
    else return (b.toNat - 0x80) :: (← groups n)

/-- The value of groups of seven bits. -/
def valueOf (gs : List Nat) : Nat :=
  gs.foldr (fun g acc => g + 128 * acc) 0

/-- A natural of 32 bits. -/
def natural : Reader Nat := do
  let n := valueOf (← groups 5)
  if n < pow2 32 then return n else failure

/-- An integer of some width.  The upper bit of the last group is its sign. -/
def integer (width : Nat) : Reader Int := do
  let gs ← groups ((width + 6) / 7)
  let size := pow2 (7 * gs.length)
  let n := valueOf gs
  let v : Int := if 2 * n < size then n else (n : Int) - size
  if -(pow2 (width - 1) : Int) ≤ v ∧ v < (pow2 (width - 1) : Int) then return v else failure

/-- So many items. -/
def items {α : Type} (read : Reader α) : Nat → Reader (List α)
  | 0 => return []
  | n + 1 => do
    let a ← read
    return a :: (← items read n)

/-- A list: how many items there are, and the items. -/
def listOf {α : Type} (read : Reader α) : Reader (List α) := do
  items read (← natural)

/-- A name: how many bytes there are, and the bytes of a text. -/
def name : Reader String := do
  let bytes ← take (← natural)
  match String.fromUTF8? ⟨bytes.toArray⟩ with
  | some s => return s
  | none => failure

/-- Read something which says how long it is. -/
def sized {α : Type} (read : Reader α) : Reader α := do
  let bytes ← take (← natural)
  match read bytes with
  | some (a, []) => return a
  | _ => failure

/-! ### Types -/

/-- The type which a byte stands for. -/
def valTypeOf? (b : UInt8) : Option ValType :=
  match b.toNat with
  | 0x7F => some .i32
  | 0x7E => some .i64
  | 0x7D => some .f32
  | 0x7C => some .f64
  | 0x7B => some .v128
  | 0x70 => some .funcref
  | 0x6F => some .externref
  | _ => none

/-- A type of values. -/
def valType : Reader ValType := do
  match valTypeOf? (← byte) with
  | some t => return t
  | none => failure

/-- A type of references. -/
def refType : Reader ValType := do
  let t ← valType
  if t.isReference then return t else failure

/-- A type of functions. -/
def funcType : Reader FuncType := do
  expect 0x60
  return ⟨← listOf valType, ← listOf valType⟩

/-- Limits of a memory or a table. -/
def limits : Reader Limits := do
  match (← byte).toNat with
  | 0 => return ⟨← natural, none⟩
  | 1 => return ⟨← natural, some (← natural)⟩
  | _ => failure

/-- A type of tables. -/
def tableType : Reader TableType := do
  let elem ← refType
  return ⟨← limits, elem⟩

/-- A type of globals. -/
def globalType : Reader GlobalType := do
  let t ← valType
  match (← byte).toNat with
  | 0 => return ⟨t, false⟩
  | 1 => return ⟨t, true⟩
  | _ => failure

/-- The type of a given index. -/
def typeAt (types : List FuncType) (index : Nat) : Reader FuncType :=
  match types[index]? with
  | some t => return t
  | none => failure

/-! ### Instructions -/

/-- The type of a block: none, that of a single result, or one by its index. -/
def blockType (types : List FuncType) : Reader FuncType
  | 0x40 :: bs => some (⟨[], []⟩, bs)
  | b :: bs =>
    match valTypeOf? b with
    | some t => some (⟨[], [t]⟩, bs)
    | none =>
      let indexed : Reader FuncType := do
        let n ← integer 33
        if 0 ≤ n then typeAt types n.toNat else failure
      indexed (b :: bs)
  | [] => none

/-- The alignment and the offset of an instruction on memory. -/
def offset (op : MemOp) : Reader Nat := do
  let align ← natural
  let offset ← natural
  if align < 8 ∧ pow2 align ≤ op.width then return offset else failure

/-- A little-endian word of so many bytes. -/
def word (width : Nat) : Reader Nat := do
  return (← take width).foldr (fun b acc => b.toNat + 256 * acc) 0

/-- An instruction which is found by its byte in a table. -/
def tabled (b : UInt8) : Reader Op :=
  match NumOp.all.find? (·.opcode == b), MemOp.all.find? (·.opcode == b) with
  | some op, _ => return .plain (.numeric op)
  | none, some op => do return .plain (.memory op (← offset op))
  | none, none => failure

/-- A single instruction. -/
def instruction (types : List FuncType) : Reader Op := do
  let b ← byte
  match b.toNat with
  | 0x00 => return .plain .unreachable
  | 0x01 => return .plain .nop
  | 0x02 => return .opening .block none (← blockType types)
  | 0x03 => return .opening .loop none (← blockType types)
  | 0x04 => return .opening .cond none (← blockType types)
  | 0x05 => return .otherwise none
  | 0x0B => return .closing none
  | 0x0C => return .branch false (.depth (← natural))
  | 0x0D => return .branch true (.depth (← natural))
  | 0x0F => return .plain .ret
  | 0x10 => return .plain (.call (← natural))
  | 0x11 => do
    let type ← typeAt types (← natural)
    return .plain (.callIndirect (← natural) type)
  | 0x1A => return .plain .drop
  | 0x1B => return .plain (.select none)
  | 0x1C => do
    match ← listOf valType with
    | [t] => return .plain (.select (some t))
    | _ => failure
  | 0x20 => return .plain (.localGet (← natural))
  | 0x21 => return .plain (.localSet (← natural))
  | 0x22 => return .plain (.localTee (← natural))
  | 0x23 => return .plain (.globalGet (← natural))
  | 0x24 => return .plain (.globalSet (← natural))
  | 0x41 => return .plain (.const (.i32 (Int32.ofInt (← integer 32)).toUInt32))
  | 0x42 => return .plain (.const (.i64 (Int64.ofInt (← integer 64)).toUInt64))
  | 0x43 => return .plain (.const (.f32 (.ofNat (← word 4))))
  | 0x44 => return .plain (.const (.f64 (.ofNat (← word 8))))
  | 0xD0 => return .plain (.refNull (← refType))
  | 0xD1 => return .plain .refIsNull
  | 0xD2 => return .plain (.refFunc (← natural))
  | _ => tabled b

/-- Instructions up to the end of the bytes.  The fuel is their number. -/
def instructions (types : List FuncType) : Nat → Reader (List Op)
  | 0 => failure
  | fuel + 1 => fun bs =>
    if bs.isEmpty then some ([], [])
    else
      let rest : Reader (List Op) := do
        let op ← instruction types
        return op :: (← instructions types fuel)
      rest bs

/-- Instructions up to the one which closes them.  The fuel bounds their number. -/
def untilClosing (types : List FuncType) : Nat → Reader (List Op)
  | 0 => failure
  | fuel + 1 => do
    match ← instruction types with
    | .closing _ => return []
    | op => return op :: (← untilClosing types fuel)

/-- Put instructions into their blocks. -/
def structured (ops : List Op) : Reader (List Instr) :=
  match Op.structured ops with
  | some is => return is
  | none => failure

/-- A constant expression. -/
def expression (types : List FuncType) : Reader (List Instr) := do
  let fuel := (← get).length
  structured (← untilClosing types fuel)

/-- The largest number of local variables. -/
def maxLocals : Nat := 50000

/-- Local variables: how many there are of each type. -/
def localTypes : Reader (List ValType) := do
  let runs ← listOf do
    let n ← natural
    return (n, ← valType)
  if runs.foldl (fun n r => n + r.1) 0 ≤ maxLocals then
    return runs.flatMap fun r => List.replicate r.1 r.2
  else failure

/-- The body of a function, which closes with its last instruction. -/
def body (types : List FuncType) : Reader (List ValType × List Instr) := do
  let locals ← localTypes
  let ops ← instructions types ((← get).length + 1)
  match ops.getLast? with
  | some (.closing _) => return (locals, ← structured ops.dropLast)
  | _ => failure

/-! ### Sections -/

/-- What has been read of a module: the types of the functions, and how many data segments there
are said to be. -/
structure Draft where
  module : Module
  signatures : List FuncType
  dataCount : Option Nat

/-- The kind which a byte stands for. -/
def externKind : Reader ExternKind := do
  match (← byte).toNat with
  | 0 => return .func
  | 1 => return .table
  | 2 => return .memory
  | 3 => return .global
  | _ => failure

/-- The type of an import. -/
def importType (types : List FuncType) : Reader ImportType := do
  match ← externKind with
  | .func => return .func (← typeAt types (← natural))
  | .table => return .table (← tableType)
  | .memory => return .memory (← limits)
  | .global => return .global (← globalType)

/-- The byte which stands for references to functions in element segments. -/
def functionElements : Reader (List Nat) := do
  expect 0x00
  listOf natural

/-- An element segment of functions. -/
def elementSegment (types : List FuncType) : Reader ElementSegment := do
  match ← natural with
  | 0 => return ⟨.active 0 (← expression types), ← listOf natural⟩
  | 1 => return ⟨.passive, ← functionElements⟩
  | 2 => return ⟨.active (← natural) (← expression types), ← functionElements⟩
  | 3 => return ⟨.declared, ← functionElements⟩
  | _ => failure

/-- The bytes of a data segment. -/
def bytes : Reader (List UInt8) := do
  take (← natural)

/-- A data segment. -/
def dataSegment (types : List FuncType) : Reader DataSegment := do
  match ← natural with
  | 0 => return ⟨.active 0 (← expression types), ← bytes⟩
  | 1 => return ⟨.passive, ← bytes⟩
  | 2 => return ⟨.active (← natural) (← expression types), ← bytes⟩
  | _ => failure

/-- The place of a section in the order of sections. -/
def place? (id : Nat) : Option Nat :=
  [1, 2, 3, 4, 5, 6, 7, 8, 9, 12, 10, 11].findIdx? (· == id)

/-- Read what is in a section. -/
def contents (id : Nat) (d : Draft) : Reader Draft := do
  let m := d.module
  let put (m : Module) : Draft := { d with module := m }
  match id with
  | 1 => return put { m with types := ← listOf funcType }
  | 2 =>
    let imports ← listOf do return ⟨← name, ← name, ← importType m.types⟩
    return put { m with imports := imports }
  | 3 => return { d with signatures := ← listOf do typeAt m.types (← natural) }
  | 4 => return put { m with tables := ← listOf tableType }
  | 5 => return put { m with memories := ← listOf limits }
  | 6 => return put { m with globals := ← listOf do return ⟨← globalType, ← expression m.types⟩ }
  | 7 => return put { m with exports := ← listOf do return ⟨← name, ← externKind, ← natural⟩ }
  | 8 => return put { m with start := some (← natural) }
  | 9 => return put { m with elements := ← listOf (elementSegment m.types) }
  | 10 =>
    let bodies ← listOf (sized (body m.types))
    if bodies.length = d.signatures.length then
      let function (t : FuncType) (b : List ValType × List Instr) : Function := ⟨t, b.1, b.2⟩
      return put { m with functions := List.zipWith function d.signatures bodies }
    else failure
  | 11 => return put { m with data := ← listOf (dataSegment m.types) }
  | 12 => return { d with dataCount := some (← natural) }
  | _ => failure

/-- A custom section: a name, and anything behind it. -/
def custom : Reader Unit := do
  let _ ← name
  set ([] : List UInt8)

/-- Sections up to the end of the bytes, given the place which the next one must not be in front of.
The fuel is more than their number. -/
def sections : Nat → Nat → Draft → Reader Draft
  | 0, _, _ => failure
  | fuel + 1, next, d => do
    if (← get).isEmpty then return d
    let id := (← byte).toNat
    if id = 0 then
      sized custom
      sections fuel next d
    else
      match place? id with
      | none => failure
      | some place =>
        if place < next then failure
        else sections fuel (place + 1) (← sized (contents id d))

/-- The module, if every function has a body and every data segment is counted. -/
def Draft.finish (d : Draft) : Option Module :=
  let m := d.module
  let counted := d.dataCount.all (· == m.data.length)
  if m.functions.length = d.signatures.length ∧ counted then some m else none

/-- The bytes with which a module begins. -/
def magic : List UInt8 := [0x00, 0x61, 0x73, 0x6D]

/-- The bytes of the version. -/
def version : List UInt8 := [0x01, 0x00, 0x00, 0x00]

/-- Whether bytes begin like a module. -/
def hasMagic (source : List UInt8) : Bool :=
  magic.isPrefixOf source

/-- Read a module. -/
def module? (source : List UInt8) : Option Module :=
  if (magic ++ version).isPrefixOf source then do
    let rest := source.drop 8
    let (d, _) ← sections (rest.length + 1) 0 ⟨.empty, [], none⟩ rest
    d.finish
  else none

end WasmCall.Wasm.Binary
