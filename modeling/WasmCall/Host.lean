import WasmCall.Instance

/-!
# The host

A host has an engine and any number of instances.  It gives every instance an identity and every
handle a number of its own.  An instance lives as long as the host keeps it.
-/

namespace WasmCall

/-- A host: its engine, the instances which live, how many were ever made, and the supply of
handles. -/
structure Host (M : Machine) where
  engine : Engine M
  instances : List (Instance M)
  made : Nat
  supply : HandleSupply

namespace Host

variable {M : Machine}

/-- A host without instances. -/
def ofEngine (e : Engine M) : Host M := ⟨e, [], 0, .full⟩

variable (h : Host M)

/-- The instance of an identity, if it lives. -/
def find? (id : InstanceId) : Option (Instance M) :=
  h.instances.find? (·.id == id)

/-- Put a changed instance in the place of the one which it was. -/
def put (i : Instance M) : Host M :=
  { h with instances := h.instances.map fun j => if j.id = i.id then i else j }

/-- Keep only instances of given identities. -/
def retain (ids : List InstanceId) : Host M :=
  { h with instances := h.instances.filter (ids.contains ·.id) }

/-- The instance for a module which was linked in a store. -/
def newInstance (s : Settings) (linked : M.Linked) (store : M.Store) : Instance M :=
  { id := ⟨h.made⟩
    linked := linked
    store := store
    budget := h.engine.budget s.execution
    metrics := .zero
    policy := s.call.overflow
    cache := .empty }

/-- Instantiate a module in a store of its own.  A fault of the machine is told by itself, without
its causes. -/
def instantiate (m : CompiledModule M) (s : Settings) :
    Reply (Host M) (Except Failure InstanceId) :=
  match h.engine.createStore s.execution with
  | .error e => .pure (.error e) h
  | .ok store =>
    match M.instantiate h.instances.length m.inner store with
    | .error e => .pure (.error (.instantiation e.text)) h
    | .ok (linked, store) =>
      let i := h.newInstance s linked store
      ⟨.ok i.id, { h with instances := h.instances ++ [i], made := h.made + 1 }, [.instantiated]⟩

/-- Look up a function of an instance. -/
def getFunction (id : InstanceId) (name : String) :
    Reply (Host M) (Except CallError (Callable FunctionRef)) :=
  match h.find? id with
  | none => .pure (.error (.notFound name)) h
  | some i => (i.getFunction name).mapState h.put

/-- Call a function, which takes some time.  One of an instance which does not live is not found. -/
def call (elapsed : Nat) (c : Callable FunctionRef) (args : List Value) :
    Reply (Host M) (Except CallError CallResult) :=
  match h.find? c.target.owner with
  | none => .pure (.error (.notFound c.name)) h
  | some i =>
    let put (s : Instance.Session (Instance M)) : Host M :=
      { h.put s.machine with supply := s.supply }
    (Instance.call elapsed c args ⟨i, h.supply⟩).mapState put

/-- The line of a listing for a name: the signature of the function, or why it has none. -/
def listingLine (name : String) : Except CallError (Callable FunctionRef) → String
  | .ok c => name ++ ": " ++ c.signature.text
  | .error e => name ++ ": <" ++ e.message ++ ">"

/-- The lines of a listing, with every name looked up in turn. -/
def listNames (id : InstanceId) : List String → Host M → Reply (Host M) (List String)
  | [], h => .pure [] h
  | name :: names, h =>
    let found := h.getFunction id name
    let rest := listNames id names found.state
    ⟨listingLine name found.result :: rest.result, rest.state, found.events ++ rest.events⟩

/-- A listing of the functions of an instance. -/
def list (id : InstanceId) : Reply (Host M) (List String) :=
  match h.find? id with
  | none => .pure [] h
  | some i => listNames id i.names h

end Host

end WasmCall
