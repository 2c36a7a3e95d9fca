import Std.Data.HashMap
import WasmCall.Wasm.Module

/-!
# The state of an instance

What functions can change: globals, memories and tables.  Of memories and tables only what was
written is kept; every other byte is zero, and every other element is null.
-/

namespace WasmCall.Wasm

/-- A memory: its size in pages, and the bytes which were written. -/
structure Memory where
  pages : Nat
  bytes : Std.HashMap Nat UInt8

namespace Memory

/-- A memory of some size, without anything in it. -/
def ofPages (pages : Nat) : Memory := ⟨pages, ∅⟩

/-- The size in bytes. -/
def size (m : Memory) : Nat := m.pages * pageSize

/-- The byte at an address. -/
def byte (m : Memory) (address : Nat) : UInt8 :=
  m.bytes.getD address 0

/-- So many bytes from an address on, if all of them are there. -/
def read (m : Memory) (address width : Nat) : Option (List UInt8) :=
  if address + width ≤ m.size then
    some ((List.range width).map fun i => m.byte (address + i))
  else none

/-- Write bytes one after another. -/
def writeFrom (m : Memory) (address : Nat) : List UInt8 → Memory
  | [] => m
  | b :: bs => writeFrom { m with bytes := m.bytes.insert address b } (address + 1) bs

/-- Write bytes from an address on, if there is room for all of them. -/
def write (m : Memory) (address : Nat) (bytes : List UInt8) : Option Memory :=
  if address + bytes.length ≤ m.size then some (m.writeFrom address bytes) else none

end Memory

/-- A table: its size, and the functions which were put into it. -/
structure Table where
  size : Nat
  functions : Std.HashMap Nat Nat

namespace Table

/-- A table of some size, without anything in it. -/
def ofSize (size : Nat) : Table := ⟨size, ∅⟩

/-- The element at an index: out of bounds, null, or a function. -/
def get? (t : Table) (index : Nat) : Option (Option Nat) :=
  if index < t.size then some t.functions[index]? else none

/-- Put functions into a table one after another. -/
def writeFrom (t : Table) (index : Nat) : List Nat → Table
  | [] => t
  | f :: fs => writeFrom { t with functions := t.functions.insert index f } (index + 1) fs

/-- Put functions into a table from an index on, if there is room for all of them. -/
def write (t : Table) (index : Nat) (functions : List Nat) : Option Table :=
  if index + functions.length ≤ t.size then some (t.writeFrom index functions) else none

end Table

/-- The state of an instance. -/
structure State where
  globals : Array Val
  memories : List Memory
  tables : List Table

namespace State

/-- The state without anything in it. -/
def empty : State := ⟨#[], [], []⟩

instance : Inhabited State := ⟨empty⟩

end State

/-- The bytes of a word, the lowest one first. -/
def wordBytes (n : UInt32) : List UInt8 :=
  [n.toUInt8, (n >>> 8).toUInt8, (n >>> 16).toUInt8, (n >>> 24).toUInt8]

/-- The word of some bytes, the lowest one first. -/
def wordOfBytes (bytes : List UInt8) : UInt32 :=
  bytes.foldr (fun b acc => acc <<< 8 ||| b.toUInt32) 0

end WasmCall.Wasm
