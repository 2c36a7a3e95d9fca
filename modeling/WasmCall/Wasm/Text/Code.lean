import WasmCall.Power
import WasmCall.Wasm.Module
import WasmCall.Wasm.Text.Literal
import WasmCall.Wasm.Text.Sexp

/-!
# Types and instructions in module texts

Everything which has an index may also have a name, and is then referred to by either of them.

Instructions are written flat, as they are executed, or folded: an instruction in parentheses is
written in front of its operands and executed behind them.  Either form gives flat instructions
(`code`), which are put into blocks afterwards.

Words for instructions outside of `Instr` are not known.
-/

namespace WasmCall.Wasm.Text

open WasmCall.Floating

/-- The names of everything which has an index, each list in the order of indices. -/
structure Names where
  types : List (Option String)
  funcs : List (Option String)
  tables : List (Option String)
  memories : List (Option String)
  globals : List (Option String)
  deriving Inhabited

/-- What code may refer to. -/
structure Scope where
  names : Names
  types : List FuncType
  locals : List (Option String)
  deriving Inhabited

/-- Whether a word is a name. -/
def isName (s : String) : Bool :=
  s.startsWith "$" && 1 < s.length

/-- A name in front of some items, if there is one. -/
def takeName : List Sexp → Option String × List Sexp
  | .word s :: rest => if isName s then (some s, rest) else (none, .word s :: rest)
  | items => (none, items)

/-- The index which a word refers to, among things with the given names. -/
def resolve (names : List (Option String)) (s : String) : Option Nat :=
  if isName s then names.findIdx? (· == some s) else index? s

/-- The index at the front of some items. -/
def takeIndex (names : List (Option String)) : List Sexp → Option (Nat × List Sexp)
  | .word s :: rest => do return (← resolve names s, rest)
  | _ => none

/-- An index at the front of some items, or zero. -/
def takeIndexOrZero (names : List (Option String)) (items : List Sexp) : Nat × List Sexp :=
  (takeIndex names items).getD (0, items)

/-! ### Types -/

/-- A type of values. -/
def valType? : Sexp → Option ValType
  | .word "i32" => some .i32
  | .word "i64" => some .i64
  | .word "f32" => some .f32
  | .word "f64" => some .f64
  | .word "v128" => some .v128
  | .word "funcref" => some .funcref
  | .word "externref" => some .externref
  | .list [.word "ref", .word "null", .word "func"] => some .funcref
  | .list [.word "ref", .word "null", .word "extern"] => some .externref
  | _ => none

/-- Local variables or parameters: one with a name, or any number without. -/
def typedNames (items : List Sexp) : Option (List (Option String × ValType)) :=
  match takeName items with
  | (some name, [t]) => do return [(some name, ← valType? t)]
  | (some _, _) => none
  | (none, ts) => do return (← ts.mapM valType?).map (none, ·)

/-- Lists with a given word in front, at the front of some items: what is in them, and the rest. -/
def takeLists (word : String) : List Sexp → List (List Sexp) × List Sexp
  | .list (.word w :: inner) :: rest =>
    if w = word then
      let (lists, rest) := takeLists word rest
      (inner :: lists, rest)
    else ([], .list (.word w :: inner) :: rest)
  | items => ([], items)

/-- Parameters and results as they are written: parameters may have names. -/
structure Header where
  params : List (Option String × ValType)
  results : List ValType
  deriving Inhabited

/-- The type which a header gives. -/
def Header.type (h : Header) : FuncType :=
  ⟨h.params.map Prod.snd, h.results⟩

/-- Parameters and results at the front of some items. -/
def takeHeader (items : List Sexp) : Option (Header × List Sexp) := do
  let (params, rest) := takeLists "param" items
  let (results, rest) := takeLists "result" rest
  return (⟨(← params.mapM typedNames).flatten, (← results.mapM (·.mapM valType?)).flatten⟩, rest)

/-- The use of a type at the front of some items: by index, by its parameters and results, or by
both, which then have to agree. -/
def takeTypeUse (types : List FuncType) (names : List (Option String)) (items : List Sexp) :
    Option (FuncType × List (Option String) × List Sexp) := do
  let (used, rest) ← match items with
    | .list [.word "type", .word s] :: rest => do
      some (some (← types[← resolve names s]?), rest)
    | rest => some (none, rest)
  let (header, rest) ← takeHeader rest
  let unnamed (t : FuncType) : List (Option String) := t.params.map fun _ => none
  match used with
  | none => some (header.type, header.params.map Prod.fst, rest)
  | some t =>
    if header.params.isEmpty ∧ header.results.isEmpty then some (t, unnamed t, rest)
    else if header.type = t then some (t, header.params.map Prod.fst, rest)
    else none

/-- The type of a block.  Its parameters have no names. -/
def takeBlockType (scope : Scope) (items : List Sexp) : Option (FuncType × List Sexp) := do
  let (type, names, rest) ← takeTypeUse scope.types scope.names.types items
  if names.all Option.isNone then some (type, rest) else none

/-! ### Instructions -/

/-- The value behind `key` in a word such as `offset=8`. -/
def setting? (key : String) : Sexp → Option Nat
  | .word s => if key.toList.isPrefixOf s.toList then natural? (s.toList.drop key.length) else none
  | _ => none

/-- A setting at the front of some items, if there is one. -/
def takeSetting (key : String) : List Sexp → Option Nat × List Sexp
  | item :: rest =>
    match setting? key item with
    | some n => (some n, rest)
    | none => (none, item :: rest)
  | [] => (none, [])

/-- The offset of an instruction on memory.  Its alignment has to be a power of two, and not more
than the width. -/
def takeOffset (op : MemOp) (items : List Sexp) : Option (Nat × List Sexp) := do
  let (offset, rest) := takeSetting "offset=" items
  let (align, rest) := takeSetting "align=" rest
  let align := align.getD op.width
  let offset := offset.getD 0
  if align ≤ op.width ∧ align = pow2 align.log2 ∧ offset < pow2 32 then some (offset, rest) else none

/-- The label of a branch at the front of some items. -/
def takeLabel : List Sexp → Option (LabelRef × List Sexp)
  | .word s :: rest =>
    if isName s then some (.name s, rest)
    else do return (.depth (← index? s), rest)
  | _ => none

/-- The constant at the front of some items, for an instruction such as `i32.const`. -/
def takeConst (instr : String) : List Sexp → Option (Val × List Sexp)
  | .word s :: rest => do
    let v ← match instr with
      | "i32.const" => (word? 32 s).map fun n => .i32 (.ofNat n)
      | "i64.const" => (word? 64 s).map fun n => .i64 (.ofNat n)
      | "f32.const" => (float? binary32 s).map fun n => .f32 (.ofNat n)
      | "f64.const" => (float? binary64 s).map fun n => .f64 (.ofNat n)
      | _ => none
    return (v, rest)
  | _ => none

/-- The opening of a block, from behind its word. -/
def takeOpening (scope : Scope) (shape : Opening) (items : List Sexp) :
    Option (Op × List Sexp) := do
  let (label, rest) := takeName items
  let (type, rest) ← takeBlockType scope rest
  return (.opening shape label type, rest)

/-- The types of a `select` instruction, which has at most one. -/
def takeSelect (items : List Sexp) : Option (Op × List Sexp) := do
  match takeLists "result" items with
  | ([], rest) => some (.plain (.select none), rest)
  | (lists, rest) =>
    match ← lists.flatten.mapM valType? with
    | [t] => some (.plain (.select (some t)), rest)
    | _ => none

/-- An instruction which refers to something by its index. -/
def indexed (names : List (Option String)) (make : Nat → Instr) (items : List Sexp) :
    Option (Op × List Sexp) := do
  let (i, rest) ← takeIndex names items
  return (.plain (make i), rest)

/-- An instruction which is found by its name in a table. -/
def tabled (w : String) (items : List Sexp) : Option (Op × List Sexp) :=
  match NumOp.all.find? (·.name == w), MemOp.all.find? (·.name == w) with
  | some op, _ => some (.plain (.numeric op), items)
  | none, some op => do
    let (offset, rest) ← takeOffset op items
    return (.plain (.memory op offset), rest)
  | none, none => do
    let (v, rest) ← takeConst w items
    return (.plain (.const v), rest)

/-- A single instruction, from behind its word. -/
def instruction (scope : Scope) (w : String) (items : List Sexp) : Option (Op × List Sexp) :=
  match w with
  | "unreachable" => some (.plain .unreachable, items)
  | "nop" => some (.plain .nop, items)
  | "drop" => some (.plain .drop, items)
  | "return" => some (.plain .ret, items)
  | "ref.is_null" => some (.plain .refIsNull, items)
  | "select" => takeSelect items
  | "local.get" => indexed scope.locals .localGet items
  | "local.set" => indexed scope.locals .localSet items
  | "local.tee" => indexed scope.locals .localTee items
  | "global.get" => indexed scope.names.globals .globalGet items
  | "global.set" => indexed scope.names.globals .globalSet items
  | "call" => indexed scope.names.funcs .call items
  | "ref.func" => indexed scope.names.funcs .refFunc items
  | "ref.null" =>
    match items with
    | .word "func" :: rest => some (.plain (.refNull .funcref), rest)
    | .word "extern" :: rest => some (.plain (.refNull .externref), rest)
    | _ => none
  | "call_indirect" => do
    let (table, rest) := takeIndexOrZero scope.names.tables items
    let (type, names, rest) ← takeTypeUse scope.types scope.names.types rest
    if names.all Option.isNone then some (.plain (.callIndirect table type), rest) else none
  | "br" => do
    let (label, rest) ← takeLabel items
    return (.branch false label, rest)
  | "br_if" => do
    let (label, rest) ← takeLabel items
    return (.branch true label, rest)
  | "block" => takeOpening scope .block items
  | "loop" => takeOpening scope .loop items
  | "if" => takeOpening scope .cond items
  | "else" =>
    let (label, rest) := takeName items
    some (.otherwise label, rest)
  | "end" =>
    let (label, rest) := takeName items
    some (.closing label, rest)
  | _ => tabled w items

mutual

/-- The flat instructions for some items.  The fuel bounds how often items may be asked for. -/
def code (scope : Scope) : Nat → List Sexp → Option (List Op)
  | 0, _ => none
  | _ + 1, [] => some []
  | fuel + 1, .list items :: rest => do
    let first ← folded scope fuel items
    let more ← code scope fuel rest
    return first ++ more
  | fuel + 1, .word w :: rest => do
    let (op, rest) ← instruction scope w rest
    let more ← code scope fuel rest
    return op :: more
  | _ + 1, .string _ :: _ => none

/-- The flat instructions for what stands in one pair of parentheses. -/
def folded (scope : Scope) : Nat → List Sexp → Option (List Op)
  | fuel + 1, .word w :: items => do
    let (op, rest) ← instruction scope w items
    if w = "if" then conditional scope fuel op rest
    else
      let inner ← code scope fuel rest
      if w = "block" ∨ w = "loop" then return op :: inner ++ [.closing none]
      else return inner ++ [op]
  | _, _ => none

/-- The flat instructions for the parts of a folded conditional: what computes the condition, and
one or two branches. -/
def conditional (scope : Scope) : Nat → Op → List Sexp → Option (List Op)
  | fuel + 1, op, .list (.word "then" :: body) :: rest => do
    let yes ← code scope fuel body
    match rest with
    | [] => return op :: yes ++ [.closing none]
    | [.list (.word "else" :: body)] =>
      let no ← code scope fuel body
      return op :: yes ++ .otherwise none :: no ++ [.closing none]
    | _ => none
  | fuel + 1, op, .list items :: rest => do
    let first ← folded scope fuel items
    let more ← conditional scope fuel op rest
    return first ++ more
  | _, _, _ => none

end

mutual

/-- How many words, strings and lists there are in an item. -/
def Sexp.size : Sexp → Nat
  | .list items => sizeOfItems items + 1
  | _ => 1

/-- How many words, strings and lists there are in some items. -/
def sizeOfItems : List Sexp → Nat
  | [] => 0
  | item :: items => item.size + sizeOfItems items

end

/-- The structured instructions which some items give. -/
def instructions (scope : Scope) (items : List Sexp) : Option (List Instr) := do
  Op.structured (← code scope (2 * sizeOfItems items + 2) items)

end WasmCall.Wasm.Text
