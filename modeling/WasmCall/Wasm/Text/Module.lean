import WasmCall.Wasm.Text.Code

/-!
# Modules from texts

A text is read in three passes over its fields:

* the names of everything, with an index for each (`Names.collect`),
* the types,
* everything else (`field`).

Names are unique among things of a kind, and imports come before definitions.

What can be said is what `Code` has words for, so this is a part of the text format, too.
-/

namespace WasmCall.Wasm.Text

/-- What has indices of its own: types, and what may be imported. -/
inductive Space where
  | type
  | item (kind : ExternKind)
  deriving DecidableEq, Inhabited

namespace Space

/-- The kind of thing a word stands for. -/
def ofWord? : String → Option Space
  | "type" => some .type
  | "func" => some (.item .func)
  | "table" => some (.item .table)
  | "memory" => some (.item .memory)
  | "global" => some (.item .global)
  | _ => none

end Space

/-- What a field brings into being. -/
structure Declaration where
  space : Space
  name : Option String
  imported : Bool

/-- Names of exports in front of the rest of a field. -/
def takeExports : List Sexp → Option (List String × List Sexp)
  | .list [.word "export", .string bytes] :: rest => do
    let name ← String.fromUTF8? ⟨bytes.toArray⟩
    let (names, rest) ← takeExports rest
    return (name :: names, rest)
  | .list (.word "export" :: _) :: _ => none
  | items => some ([], items)

/-- The two names of an import in front of the rest of a field, if there are any. -/
def takeImport : List Sexp → Option (Option (String × String) × List Sexp)
  | .list [.word "import", .string module, .string name] :: rest => do
    let module ← String.fromUTF8? ⟨module.toArray⟩
    let name ← String.fromUTF8? ⟨name.toArray⟩
    return (some (module, name), rest)
  | .list (.word "import" :: _) :: _ => none
  | items => some (none, items)

/-- The front of a field: its name, the names of its exports, and those of its import. -/
structure Front where
  name : Option String
  exports : List String
  source : Option (String × String)
  rest : List Sexp

/-- Read the front of a field. -/
def front (items : List Sexp) : Option Front := do
  let (name, rest) := takeName items
  let (exports, rest) ← takeExports rest
  let (source, rest) ← takeImport rest
  return ⟨name, exports, source, rest⟩

/-- What a field brings into being, if anything. -/
def declaration (word : String) (items : List Sexp) : Option (Option Declaration) :=
  match Space.ofWord? word with
  | some .type => some (some ⟨.type, (takeName items).1, false⟩)
  | some space => do
    let f ← front items
    return some ⟨space, f.name, f.source.isSome⟩
  | none =>
    match word, items with
    | "import", [_, _, .list (.word w :: inner)] => do
      return some ⟨← Space.ofWord? w, (takeName inner).1, true⟩
    | "import", _ => none
    | _, _ => some none

namespace Names

/-- The names of one space. -/
def of (n : Names) : Space → List (Option String)
  | .type => n.types
  | .item .func => n.funcs
  | .item .table => n.tables
  | .item .memory => n.memories
  | .item .global => n.globals

/-- Give the next index of a space to something. -/
def add (n : Names) (name : Option String) : Space → Names
  | .type => { n with types := n.types ++ [name] }
  | .item .func => { n with funcs := n.funcs ++ [name] }
  | .item .table => { n with tables := n.tables ++ [name] }
  | .item .memory => { n with memories := n.memories ++ [name] }
  | .item .global => { n with globals := n.globals ++ [name] }

/-- Collect the names of fields, given those before and whether anything was defined by then. -/
def collect (n : Names) (defined : Bool) : List Sexp → Option Names
  | [] => some n
  | .list (.word word :: items) :: rest => do
    match ← declaration word items with
    | none => collect n defined rest
    | some d =>
      if d.name.isSome && (n.of d.space).contains d.name then none
      else if d.imported && defined then none
      else collect (n.add d.name d.space) (defined || (d.space != .type && !d.imported)) rest
  | _ => none

end Names

/-- The types which are given names or indices by fields of their own. -/
def types : List Sexp → Option (List FuncType)
  | [] => some []
  | .list (.word "type" :: items) :: rest => do
    match (takeName items).2 with
    | [.list (.word "func" :: header)] =>
      let (h, after) ← takeHeader header
      if after.isEmpty then return h.type :: (← types rest) else none
    | _ => none
  | _ :: rest => types rest

/-- Limits: a size, and a bound for it. -/
def limits? : List Sexp → Option Limits
  | [.word min] => do return ⟨← index? min, none⟩
  | [.word min, .word max] => do return ⟨← index? min, some (← index? max)⟩
  | _ => none

/-- A type of tables: limits and the type of the elements. -/
def tableType? (items : List Sexp) : Option TableType := do
  let elem ← valType? (← items.getLast?)
  if elem.isReference then return ⟨← limits? items.dropLast, elem⟩ else none

/-- A type of globals. -/
def globalType? : Sexp → Option GlobalType
  | .list [.word "mut", t] => do return ⟨← valType? t, true⟩
  | t => do return ⟨← valType? t, false⟩

/-- Local variables in front of the body of a function. -/
def takeLocals (items : List Sexp) : Option (List (Option String × ValType) × List Sexp) := do
  let (lists, rest) := takeLists "local" items
  return ((← lists.mapM typedNames).flatten, rest)

/-- Whether no name is given twice. -/
def distinctNames : List (Option String) → Bool
  | [] => true
  | none :: ns => distinctNames ns
  | some s :: ns => !ns.contains (some s) && distinctNames ns

/-- The bytes of strings. -/
def bytes? : List Sexp → Option (List UInt8)
  | [] => some []
  | .string bs :: rest => do return bs ++ (← bytes? rest)
  | _ => none

/-- The offset of an active segment: folded instructions, or any number of them behind `offset`. -/
def offset? (scope : Scope) : Sexp → Option (List Instr)
  | .list (.word "offset" :: items) => instructions scope items
  | .list items => instructions scope [.list items]
  | _ => none

/-- The functions of an element segment, by their indices. -/
def functions? (names : Names) (items : List Sexp) : Option (List Nat) :=
  let function : Sexp → Option Nat
    | .word s => resolve names.funcs s
    | _ => none
  items.mapM function

/-- Add exports of the same thing to a module. -/
def addExports (m : Module) (kind : ExternKind) (index : Nat) (names : List String) : Module :=
  { m with exports := m.exports ++ names.map (⟨·, kind, index⟩) }

/-- Add an import to a module. -/
def addImport (m : Module) (source : String × String) (type : ImportType) : Module :=
  { m with imports := m.imports ++ [⟨source.1, source.2, type⟩] }

/-- The type of an import, from behind the word for its kind. -/
def importType? (scope : Scope) (kind : ExternKind) (items : List Sexp) : Option ImportType :=
  match kind, items with
  | .func, items => do
    let (type, _, rest) ← takeTypeUse scope.types scope.names.types items
    if rest.isEmpty then some (.func type) else none
  | .table, items => do return .table (← tableType? items)
  | .memory, items => do return .memory (← limits? items)
  | .global, [t] => do return .global (← globalType? t)
  | .global, _ => none

/-- A function, from behind its front. -/
def function? (scope : Scope) (items : List Sexp) : Option Function := do
  let (type, params, rest) ← takeTypeUse scope.types scope.names.types items
  let (locals, rest) ← takeLocals rest
  let names := params ++ locals.map Prod.fst
  if distinctNames names then
    let body ← instructions { scope with locals := names } rest
    return ⟨type, locals.map Prod.snd, body⟩
  else none

/-- Define a memory.  It may be given by the bytes in it, which it is then just large enough for. -/
def addMemory (m : Module) (index : Nat) : List Sexp → Option Module
  | [.list (.word "data" :: strings)] => do
    let bytes ← bytes? strings
    let pages := (bytes.length + pageSize - 1) / pageSize
    return { m with
      memories := m.memories ++ [⟨pages, some pages⟩]
      data := m.data ++ [⟨.active index [.const (.i32 0)], bytes⟩] }
  | items => do return { m with memories := m.memories ++ [← limits? items] }

/-- Define a table.  It may be given by the functions in it, which it is then just large enough
for. -/
def addTable (scope : Scope) (m : Module) (index : Nat) : List Sexp → Option Module
  | [elem, .list (.word "elem" :: functions)] => do
    let fs ← functions? scope.names functions
    if valType? elem = some .funcref then
      return { m with
        tables := m.tables ++ [⟨⟨fs.length, some fs.length⟩, .funcref⟩]
        elements := m.elements ++ [⟨.active index [.const (.i32 0)], fs⟩] }
    else none
  | items => do return { m with tables := m.tables ++ [← tableType? items] }

/-- Read a field which defines something or imports it. -/
def definition (scope : Scope) (m : Module) (kind : ExternKind) (items : List Sexp) :
    Option Module := do
  let f ← front items
  let index := m.count kind
  let m := addExports m kind index f.exports
  match f.source, kind with
  | some source, kind => return addImport m source (← importType? scope kind f.rest)
  | none, .func => return { m with functions := m.functions ++ [← function? scope f.rest] }
  | none, .table => addTable scope m index f.rest
  | none, .memory => addMemory m index f.rest
  | none, .global =>
    match f.rest with
    | t :: init =>
      return { m with globals := m.globals ++ [⟨← globalType? t, ← instructions scope init⟩] }
    | [] => none

/-- Read an element segment. -/
def elementSegment (scope : Scope) (items : List Sexp) : Option ElementSegment := do
  let functions (items : List Sexp) : Option (List Nat) :=
    match items with
    | .word "func" :: rest => functions? scope.names rest
    | rest => functions? scope.names rest
  match (takeName items).2 with
  | .word "declare" :: .word "func" :: rest => return ⟨.declared, ← functions? scope.names rest⟩
  | .word "func" :: rest => return ⟨.passive, ← functions? scope.names rest⟩
  | .list [.word "table", .word t] :: offset :: rest =>
    return ⟨.active (← resolve scope.names.tables t) (← offset? scope offset), ← functions rest⟩
  | .list offset :: rest => return ⟨.active 0 (← offset? scope (.list offset)), ← functions rest⟩
  | .word t :: offset :: rest =>
    return ⟨.active (← resolve scope.names.tables t) (← offset? scope offset), ← functions rest⟩
  | _ => none

/-- Read a data segment. -/
def dataSegment (scope : Scope) (items : List Sexp) : Option DataSegment := do
  match (takeName items).2 with
  | .list [.word "memory", .word i] :: offset :: rest =>
    return ⟨.active (← resolve scope.names.memories i) (← offset? scope offset), ← bytes? rest⟩
  | .list offset :: rest => return ⟨.active 0 (← offset? scope (.list offset)), ← bytes? rest⟩
  | rest => return ⟨.passive, ← bytes? rest⟩

/-- Read a field, given the module up to there. -/
def field (scope : Scope) (m : Module) : Sexp → Option Module
  | .list (.word word :: items) =>
    match Space.ofWord? word, word, items with
    | some .type, _, _ => some m
    | some (.item kind), _, items => definition scope m kind items
    | none, "import", [module, name, .list (.word w :: inner)] => do
      let (source, _) ← takeImport [.list [.word "import", module, name]]
      match Space.ofWord? w with
      | some (.item kind) =>
        return addImport m (← source) (← importType? scope kind (takeName inner).2)
      | _ => none
    | none, "export", [.string name, .list [.word w, .word index]] => do
      match Space.ofWord? w with
      | some (.item kind) =>
        let i ← resolve (scope.names.of (.item kind)) index
        return addExports m kind i [← String.fromUTF8? ⟨name.toArray⟩]
      | _ => none
    | none, "start", [.word index] => do
      if m.start.isSome then none
      else return { m with start := some (← resolve scope.names.funcs index) }
    | none, "elem", items => do
      return { m with elements := m.elements ++ [← elementSegment scope items] }
    | none, "data", items => do return { m with data := m.data ++ [← dataSegment scope items] }
    | _, _, _ => none
  | _ => none

/-- Read a module from its fields. -/
def ofFields (fields : List Sexp) : Option Module := do
  let names ← Names.collect ⟨[], [], [], [], []⟩ false fields
  let types ← types fields
  let scope : Scope := ⟨names, types, []⟩
  fields.foldlM (field scope) { Module.empty with types := types }

/-- Read a module from a text: either its fields behind the word `module`, or at least one field
alone. -/
def module? (text : String) : Option Module := do
  match ← trees text with
  | [] => none
  | [.list (.word "module" :: items)] => ofFields (takeName items).2
  | fields => ofFields fields

end WasmCall.Wasm.Text
