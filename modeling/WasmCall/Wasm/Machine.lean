import WasmCall.Power
import WasmCall.Wasm.State

/-!
# The machine

The machine executes structured instructions step by step.  Its configuration holds

* the instructions which are next, up to the end of the innermost block,
* the values on the stack, down to the beginning of that block,
* the labels of the blocks around, each with what comes behind its block,
* the functions which wait for this one to return.

Instructions take fuel.  Whether it is used up is only looked at when a function is entered and
when control comes to the head of a loop.

The machine knows the instructions of `Instr`, which are a part of those that WebAssembly has, and
no functions of a host.
-/

namespace WasmCall.Wasm

/-- The functions of a module, by index. -/
structure Program where
  functions : Array Function
  deriving Inhabited

/-- The label of a block.

* `arity`: how many values a branch takes along.
* `head`: the body to go back to, if the block is a loop.
* `after`, `below`: the instructions behind the block, and the values below those in it. -/
structure Label where
  arity : Nat
  head : Option (List Instr)
  after : List Instr
  below : List Val

/-- A function which waits for another one to return. -/
structure Frame where
  code : List Instr
  stack : List Val
  labels : List Label
  locals : Array Val
  arity : Nat

/-- A configuration: the function which runs, those which wait, how many of them there are, the fuel
taken so far, and the state of the instance. -/
structure Config where
  code : List Instr
  stack : List Val
  labels : List Label
  locals : Array Val
  arity : Nat
  callers : List Frame
  depth : Nat
  spent : Nat
  state : State

/-- Why the machine stopped without a result.  A program which is not valid may come to a point where
no rule applies, and is stuck.  So is a call which does not fit the function. -/
inductive Halt where
  | trap (t : Trap)
  | stuck
  deriving DecidableEq, Inhabited

/-- What comes out of a step. -/
inductive Step where
  | running (c : Config)
  | finished (c : Config) (results : List Val)
  | halted (c : Config) (h : Halt)

/-- How many functions may wait at the same time. -/
def maxDepth : Nat := 16384

/-- More steps than the machine ever takes. -/
def maxSteps : Nat := pow2 62

/-- The local variables with which a function begins. -/
def Function.initialLocals (f : Function) (args : List Val) : Array Val :=
  (args ++ f.locals.map Val.zero).toArray

namespace Config

/-- Stop with a trap. -/
def trap (c : Config) (t : Trap) : Step := .halted c (.trap t)

/-- Stop because no rule applies. -/
def stuck (c : Config) : Step := .halted c .stuck

/-- Go on, unless the fuel is used up. -/
def metered (limit : Option Nat) (c : Config) : Step :=
  match limit with
  | some n => if n ≤ c.spent then c.trap .outOfFuel else .running c
  | none => .running c

/-- Go on with other values on the stack. -/
def withStack (c : Config) (stack : List Val) : Step :=
  .running { c with stack := stack }

/-- Put a value on given ones. -/
def push (c : Config) (v : Val) (stack : List Val) : Step :=
  c.withStack (v :: stack)

/-- Return from the function which runs. -/
def leave (c : Config) : Step :=
  match c.callers with
  | [] => .finished c (c.stack.take c.arity).reverse
  | f :: fs =>
    .running { c with
      code := f.code
      stack := c.stack.take c.arity ++ f.stack
      labels := f.labels
      locals := f.locals
      arity := f.arity
      callers := fs
      depth := c.depth - 1 }

/-- Go on behind the innermost block, or return if there is none. -/
def endBlock (c : Config) : Step :=
  match c.labels with
  | [] => c.leave
  | l :: ls =>
    .running { c with code := l.after, stack := c.stack ++ l.below, labels := ls }

/-- Branch to the label of a given depth.  A block is left, and a loop begins again.  The outermost
label is that of the function. -/
def branch (limit : Option Nat) (c : Config) (depth : Nat) : Step :=
  match c.labels.drop depth with
  | [] => if depth = c.labels.length then c.leave else c.stuck
  | l :: ls =>
    match l.head with
    | none =>
      .running { c with code := l.after, stack := c.stack.take l.arity ++ l.below, labels := ls }
    | some body =>
      metered limit { c with code := body, stack := c.stack.take l.arity, labels := l :: ls }

/-- Go into a block. -/
def enterBlock (c : Config) (type : FuncType) (arity : Nat) (head : Option (List Instr))
    (body : List Instr) : Config :=
  let n := type.params.length
  { c with
    code := body
    stack := c.stack.take n
    labels := ⟨arity, head, c.code, c.stack.drop n⟩ :: c.labels }

/-- Call a function with arguments from the stack. -/
def call (limit : Option Nat) (c : Config) (f : Function) : Step :=
  let n := f.type.params.length
  if c.depth < maxDepth then
    metered limit { c with
      code := f.body
      stack := []
      labels := []
      locals := f.initialLocals (c.stack.take n).reverse
      arity := f.type.results.length
      callers := ⟨c.code, c.stack.drop n, c.labels, c.locals, c.arity⟩ :: c.callers
      depth := c.depth + 1
      spent := c.spent + 1 }
  else c.trap .stackExhausted

/-- Call the function of a given index. -/
def callIndex (p : Program) (limit : Option Nat) (c : Config) (index : Nat) : Step :=
  match p.functions[index]? with
  | some f => c.call limit f
  | none => c.stuck

/-- Call the function at an index of a table.  It has to be there and to have the given type. -/
def callIndirect (p : Program) (limit : Option Nat) (c : Config) (table : Nat) (type : FuncType)
    (index : Nat) : Step :=
  match c.state.tables[table]? with
  | none => c.stuck
  | some t =>
    match t.get? index with
    | none => c.trap .tableBounds
    | some none => c.trap .uninitialized
    | some (some i) =>
      match p.functions[i]? with
      | none => c.stuck
      | some f => if f.type = type then c.call limit f else c.trap .badSignature

/-- Read from memory. -/
def load (c : Config) (width address : Nat) (stack : List Val) : Step :=
  match c.state.memories with
  | [] => c.stuck
  | m :: _ =>
    match m.read address width with
    | some bytes => c.push (.i32 (wordOfBytes bytes)) stack
    | none => c.trap .memoryBounds

/-- Write to memory. -/
def store (c : Config) (address : Nat) (value : UInt32) (stack : List Val) : Step :=
  match c.state.memories with
  | [] => c.stuck
  | m :: ms =>
    match m.write address (wordBytes value) with
    | some m => .running { c with stack := stack, state := { c.state with memories := m :: ms } }
    | none => c.trap .memoryBounds

/-- Compute with operands from the stack. -/
def compute (c : Config) (op : NumOp) : Step :=
  let n := op.params.length
  match op.eval (c.stack.take n).reverse with
  | some (.ok v) => c.push v (c.stack.drop n)
  | some (.error t) => c.trap t
  | none => c.stuck

/-- Execute an instruction, in a configuration from which it was taken. -/
def execute (p : Program) (limit : Option Nat) (c : Config) (i : Instr) : Step :=
  match i, c.stack with
  | .unreachable, _ => c.trap .unreachable
  | .nop, _ => .running c
  | .drop, _ :: vs => c.withStack vs
  | .select _, .i32 n :: b :: a :: vs => c.push (if n = 0 then b else a) vs
  | .localGet x, vs =>
    match c.locals[x]? with
    | some v => c.push v vs
    | none => c.stuck
  | .localSet x, v :: vs =>
    .running { c with locals := c.locals.setIfInBounds x v, stack := vs }
  | .localTee x, v :: vs =>
    .running { c with locals := c.locals.setIfInBounds x v, stack := v :: vs }
  | .globalGet x, vs =>
    match c.state.globals[x]? with
    | some v => c.push v vs
    | none => c.stuck
  | .globalSet x, v :: vs =>
    .running { c with
      stack := vs
      state := { c.state with globals := c.state.globals.setIfInBounds x v } }
  | .const v, vs => c.push v vs
  | .numeric op, _ => c.compute op
  | .memory .i32Load offset, .i32 a :: vs => c.load 4 (a.toNat + offset) vs
  | .memory .i32Load8U offset, .i32 a :: vs => c.load 1 (a.toNat + offset) vs
  | .memory .i32Store offset, .i32 v :: .i32 a :: vs => c.store (a.toNat + offset) v vs
  | .refNull t, vs => c.push (.zero t) vs
  | .refFunc x, vs => c.push (.func (some x)) vs
  | .refIsNull, .func x :: vs => c.push (.ofBool x.isNone) vs
  | .refIsNull, .external :: vs => c.push (.ofBool true) vs
  | .block t body, _ => .running (c.enterBlock t t.results.length none body)
  | .loop t body, _ => metered limit (c.enterBlock t t.params.length (some body) body)
  | .cond t yes no, .i32 n :: vs =>
    let body := if n = 0 then no else yes
    .running (enterBlock { c with stack := vs } t t.results.length none body)
  | .br depth, _ => c.branch limit depth
  | .brIf depth, .i32 n :: vs =>
    if n = 0 then c.withStack vs else branch limit { c with stack := vs } depth
  | .ret, _ => c.leave
  | .call f, _ => c.callIndex p limit f
  | .callIndirect table t, .i32 n :: vs =>
    callIndirect p limit { c with stack := vs } table t n.toNat
  | _, _ => c.stuck

/-- Take the next instruction and execute it. -/
def step (p : Program) (limit : Option Nat) (c : Config) : Step :=
  match c.code with
  | [] => c.endBlock
  | i :: rest => execute p limit { c with code := rest, spent := c.spent + i.cost } i

/-- Take at most so many steps. -/
def run (p : Program) (limit : Option Nat) : Nat → Config → Config × Except Halt (List Val)
  | 0, c => (c, .error .stuck)
  | n + 1, c =>
    match c.step p limit with
    | .running c => run p limit n c
    | .finished c results => (c, .ok results)
    | .halted c h => (c, .error h)

end Config

/-- What the machine comes to: the results of a function or why there are none, the fuel which it
took, and the state which it left behind. -/
structure Outcome where
  result : Except Halt (List Val)
  spent : Nat
  state : State

namespace Program

/-- The configuration in which a function is called from outside. -/
def start (f : Function) (args : List Val) (state : State) : Config :=
  { code := f.body
    stack := []
    labels := []
    locals := f.initialLocals args
    arity := f.type.results.length
    callers := []
    depth := 0
    spent := 1
    state := state }

/-- Results, if they are of the declared types. -/
def typed (declared : List ValType) (results : List Val) : Except Halt (List Val) :=
  if typesOf results = declared then .ok results else .error .stuck

/-- Run a function on arguments.  The fuel may be limited. -/
def invoke (p : Program) (limit : Option Nat) (index : Nat) (args : List Val) (state : State) :
    Outcome :=
  match p.functions[index]? with
  | none => ⟨.error .stuck, 0, state⟩
  | some f =>
    match (start f args state).metered limit with
    | .running c =>
      let (c, result) := c.run p limit maxSteps
      ⟨result.bind (typed f.type.results), c.spent, c.state⟩
    | .finished c results => ⟨typed f.type.results results, c.spent, c.state⟩
    | .halted c h => ⟨.error h, c.spent, c.state⟩

/-- Call a function from outside, with room for so many results.  Nothing is run unless the
arguments are of the types of the parameters and there is room for just the results. -/
def call (p : Program) (limit : Option Nat) (index slots : Nat) (args : List Val) (state : State) :
    Outcome :=
  match p.functions[index]? with
  | none => ⟨.error .stuck, 0, state⟩
  | some f =>
    if typesOf args = f.type.params ∧ f.type.results.length = slots then
      p.invoke limit index args state
    else ⟨.error .stuck, 0, state⟩

end Program

end WasmCall.Wasm
