import WasmCall.Coercion
import WasmCall.Event
import WasmCall.Signature
import WasmCall.Value.Text

/-!
# Callable functions

A `Callable` is a function which a host can call with its own values.  What the function really
is stays open: it is a *target* of any type, together with a way to run targets.

A call goes through four phases, and the first one which fails decides its error.

1. The number of arguments has to be that of the parameters.
2. Every argument has to be coerced to the kind of its parameter.
3. The target is run on the operands, once.  Its errors are passed on.
4. The operands which come back have to be those which the signature declares.

Nothing is run before the third phase, and nothing after it.
-/

namespace WasmCall

/-- A way to run a function on operands, in a state which it may change. -/
abbrev Invoker (σ : Type) : Type :=
  List Operand → σ → Reply σ (Except CallError (List Operand))

/-- The shape of the results of a function. -/
inductive ResultShape where
  | none
  | single
  | multiple
  deriving DecidableEq, Inhabited

/-- The shape for so many results. -/
def ResultShape.ofCount : Nat → ResultShape
  | 0 => none
  | 1 => single
  | _ => multiple

/-- What a call gives back: nothing, one value, or several. -/
inductive CallResult where
  | none
  | single (value : Value)
  | multiple (values : List Value)
  deriving Inhabited

namespace CallResult

/-- The result of a given shape which consists of given values. -/
def ofShape : ResultShape → List Value → CallResult
  | .none, _ => none
  | .single, [] => none
  | .single, v :: _ => single v
  | .multiple, vs => multiple vs

/-- The values of a result, in order. -/
def toList : CallResult → List Value
  | none => []
  | single v => [v]
  | multiple vs => vs

/-- Whether there are no values. -/
def isNone : CallResult → Bool
  | none => true
  | _ => false

/-- The value, if there is one and only one. -/
def single? : CallResult → Option Value
  | single v => some v
  | _ => Option.none

/-- The values, if there are several. -/
def multiple? : CallResult → Option (List Value)
  | multiple vs => some vs
  | _ => Option.none

/-- The name of the shape of a result. -/
def shape : CallResult → String
  | none => "none"
  | single _ => "single"
  | multiple _ => "multiple"

/-- Equality of results: of the same shape and with equal values. -/
def equal : CallResult → CallResult → Bool
  | none, none => true
  | single a, single b => a.equal b
  | multiple as, multiple bs => as == bs
  | _, _ => false

instance : BEq CallResult := ⟨equal⟩

/-- A result in diagnostics. -/
def debug : CallResult → String
  | none => "None"
  | single v => "Single(" ++ v.debug ++ ")"
  | multiple vs => "Multiple([" ++ ", ".intercalate (vs.map Value.debug) ++ "])"

end CallResult

/-- How the operands which came back differ from those which were declared. -/
inductive ResultFault where
  | count (returned declared : Nat)
  | kind (index : Nat) (returned declared : Kind)
  deriving DecidableEq, Inhabited

namespace ResultFault

/-- The text of a difference, for the function of a given name. -/
def message (name : String) : ResultFault → String
  | count returned declared =>
    s!"'{name}' returned {returned} values, signature declares {declared}"
  | kind index returned declared =>
    s!"'{name}' result {index} is {returned.name}, signature declares {declared.name}"

/-- The first operand, counted from an index, which is not of the kind declared for it. -/
def firstKind? (index : Nat) : List Kind → List Operand → Option ResultFault
  | declared :: kinds, operand :: operands =>
    if operand.kind = declared then firstKind? (index + 1) kinds operands
    else some (.kind index operand.kind declared)
  | _, _ => none

/-- The first difference between declared kinds and operands.  The count is looked at first. -/
def find? (declared : List Kind) (operands : List Operand) : Option ResultFault :=
  if operands.length = declared.length then firstKind? 0 declared operands
  else some (.count operands.length declared.length)

end ResultFault

/-- A function which a host can call, known by its target. -/
structure Callable (ι : Type) where
  name : String
  signature : Signature
  policy : OverflowPolicy
  target : ι

namespace Callable

variable {ι σ : Type}

/-- The shape of the results of a function, as its signature declares them. -/
def shape (c : Callable ι) : ResultShape :=
  .ofCount c.signature.results.length

/-- The operands for some arguments: the first two phases of a call. -/
def operands (c : Callable ι) (args : List Value) : Except CallError (List Operand) :=
  if args.length = c.signature.params.length then
    coerceAll c.policy c.signature.params args
  else
    .error (.arityMismatch c.signature.params.length args.length)

/-- The result for the operands which came back: the last phase of a call. -/
def decode (c : Callable ι) (operands : List Operand) : Except CallError CallResult :=
  match ResultFault.find? c.signature.results operands with
  | some fault => .error (.resultMismatch (fault.message c.name))
  | none => .ok (.ofShape c.shape (operands.map Operand.toValue))

/-- The event which follows the run of a function: a warning if it trapped. -/
def outcomeEvents (c : Callable ι) : Except CallError (List Operand) → List Event
  | .error e => if e.isTrap then [.callTrapped c.name e.message] else []
  | .ok _ => []

/-- Call a function, given a way to run its target. -/
def call (run : ι → Invoker σ) (c : Callable ι) (args : List Value) (state : σ) :
    Reply σ (Except CallError CallResult) :=
  match c.operands args with
  | .error e => .pure (.error e) state
  | .ok operands =>
    let ran := run c.target operands state
    { result := ran.result.bind c.decode
      state := ran.state
      events := .dispatching c.name args.length :: ran.events ++ c.outcomeEvents ran.result }

/-- A callable in diagnostics. -/
def debug (c : Callable ι) : String :=
  "Callable \x7b name: " ++ Text.quoted c.name ++ ", signature: \"" ++ c.signature.text ++
    "\", policy: " ++ c.policy.label ++ ", .. \x7d"

end Callable

end WasmCall
