import WasmCall.Document.Basic

/-!
# Reading values out of documents

A record is read from a table by the names of its members, or from a list by the order of its
fields.  In both cases

* what is missing has the default of its field,
* members with unknown names are skipped,
* the first problem from the left decides.

The two formats differ in two respects, which make up a `Dialect`.
-/

namespace WasmCall

/-- What a format decides.

* `surplus`: whether a list may have more items than the record has fields.
* `isUnit`: what may stand behind a word which is written as the only key of a table. -/
structure Dialect where
  surplus : Bool
  isUnit : Document → Bool

/-- The fault of an ending. -/
def Ending.check : Ending → Except Fault Unit
  | .broken f => .error f
  | .closed | .spread => .ok ()

/-- The text of a key. -/
def Key.read : Key → Except Fault String
  | .text s => .ok s
  | .unreadable => .error .malformed
  | .misplaced f _ => .error f

/-- The text of a key where a word is wanted. -/
def Key.readWord : Key → Except Fault String
  | .text s => .ok s
  | .unreadable => .error .malformed
  | .misplaced _ f => .error f

namespace Document

/-- The fault of a document which is not of the type that was wanted. -/
def mismatch : Document → Fault
  | broken b => b.wanted
  | unreadable => .malformed
  | _ => .unfit

mutual

/-- Skip a document.  Only its form matters. -/
def skip : Document → Except Fault Unit
  | broken b => .error b.skipped
  | list items ending => do
    skipItems items
    ending.check
  | table members ending => do
    skipMembers members
    ending.check
  | _ => .ok ()

/-- Skip the items of a list. -/
def skipItems : List Document → Except Fault Unit
  | [] => .ok ()
  | d :: ds => do
    skip d
    skipItems ds

/-- Skip the members of a table.  Their keys need not be readable. -/
def skipMembers : List (Key × Document) → Except Fault Unit
  | [] => .ok ()
  | (.misplaced f _, _) :: _ => .error f
  | (_, d) :: ds => do
    skip d
    skipMembers ds

end

/-- Read a truth value. -/
def readBool : Document → Except Fault Bool
  | bool b => .ok b
  | d => .error d.mismatch

/-- Read a text. -/
def readString : Document → Except Fault String
  | string s => .ok s
  | d => .error d.mismatch

/-- Read a natural number below a bound. -/
def readNat (bound : Nat) : Document → Except Fault Nat
  | integer n => if 0 ≤ n ∧ n < bound then .ok n.toNat else .error .unfit
  | d => .error d.mismatch

/-- Read a number of 32 bits. -/
def readUInt32 (d : Document) : Except Fault UInt32 :=
  UInt32.ofNat <$> readNat UInt32.size d

/-- Read a number of 64 bits. -/
def readUInt64 (d : Document) : Except Fault UInt64 :=
  UInt64.ofNat <$> readNat UInt64.size d

/-- The meaning of a word. -/
def lookupWord {α : Type} (words : List (String × α)) (s : String) : Except Fault α :=
  match words.lookup s with
  | some a => .ok a
  | none => .error .unfit

/-- Read one of several words.  A word is a text, or a table with that word as its only key. -/
def readWord {α : Type} (dialect : Dialect) (words : List (String × α)) :
    Document → Except Fault α
  | string s => lookupWord words s
  | broken b => .error b.named
  | table [] ending => do
    ending.check
    .error .malformed
  | table ((key, d) :: rest) ending => do
    let s ← key.readWord
    let a ← lookupWord words s
    unless dialect.isUnit d do
      .error d.mismatch
    unless rest.isEmpty || ending = .spread do
      .error .malformed
    ending.check
    return a
  | _ => .error .malformed

end Document

/-- A field of a record: its name, how a document changes the record, and how the record is changed
if there is no document. -/
structure Field (σ : Type) where
  name : String
  update : Document → σ → Except Fault σ
  fallback : σ → σ

namespace Field

variable {σ α : Type}

/-- The field which is read as a value and then put into the record, or else its default is. -/
def ofReader (name : String) (initial : α) (read : Document → Except Fault α) (put : α → σ → σ) :
    Field σ :=
  ⟨name, fun d s => (put · s) <$> read d, put initial⟩

/-- The record with the defaults of all fields. -/
def defaults (fields : List (Field σ)) (s : σ) : σ :=
  fields.foldl (fun s f => f.fallback s) s

/-- Read the members of a table.  A name which was met before is a fault if it is that of a
field. -/
def readMembers (fields : List (Field σ)) (seen : List String) (s : σ) :
    List (Key × Document) → Except Fault σ
  | [] => .ok s
  | (key, d) :: rest => do
    let name ← key.read
    match fields.find? (·.name == name) with
    | none =>
      d.skip
      readMembers fields seen s rest
    | some field =>
      if seen.contains name then .error .unfit
      else
        let s ← field.update d s
        readMembers fields (name :: seen) s rest

/-- Read the items of a list, each of them by the field in the same place. -/
def readItems (dialect : Dialect) (s : σ) : List (Field σ) → List Document → Except Fault σ
  | field :: fields, d :: ds => do
    let s ← field.update d s
    readItems dialect s fields ds
  | _, [] => .ok s
  | [], _ :: _ => if dialect.surplus then .ok s else .error .malformed

/-- Read a record.  It begins with the defaults of its fields, in place of whatever an arbitrary
record holds. -/
def readRecord [Inhabited σ] (dialect : Dialect) (fields : List (Field σ)) :
    Document → Except Fault σ
  | .table members ending => do
    let s ← readMembers fields [] (defaults fields default) members
    ending.check
    return s
  | .list items ending => do
    let s ← readItems dialect (defaults fields default) fields items
    ending.check
    return s
  | .date => .ok (defaults fields default)
  | d => .error d.mismatch

end Field

end WasmCall
