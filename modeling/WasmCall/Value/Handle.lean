/-!
# Reference handles

A reference is opaque to the host: it is either null or a *handle* which stands for something
kept elsewhere.  What a handle stands for is its *payload*; which handle it is, is its number.

* Numbers are given out by a `HandleSupply`, each of them once.
* Copying a handle keeps its number, so copies are the same handle.
* Two handles with equal payloads are different handles if they were issued separately.
-/

namespace WasmCall

/-- The identity of an instance of a module.  No two instances share one. -/
structure InstanceId where
  number : Nat
  deriving DecidableEq, Inhabited

/-- What a handle stands for.

* `text` and `number` are values which the host keeps for itself.
* `function` is a function of an instance, given by its index in that instance. -/
inductive Payload where
  | text (value : String)
  | number (value : UInt32)
  | function (owner : InstanceId) (index : Nat)
  deriving DecidableEq, Inhabited

/-- The null reference, or a handle with its number and its payload. -/
inductive Handle where
  | null
  | held (number : Nat) (payload : Payload)
  deriving Inhabited

namespace Handle

/-- Whether a reference is null. -/
def isNull : Handle → Bool
  | null => true
  | held _ _ => false

/-- The text which a handle stands for, if it stands for a text. -/
def text? : Handle → Option String
  | held _ (.text s) => some s
  | _ => none

/-- The number which a handle stands for, if it stands for a number. -/
def number? : Handle → Option UInt32
  | held _ (.number n) => some n
  | _ => none

/-- Handles are compared by number alone, and null is equal to null only. -/
def same : Handle → Handle → Bool
  | null, null => true
  | held a _, held b _ => a == b
  | _, _ => false

instance : BEq Handle := ⟨same⟩

/-- A reference as it is printed among results. -/
def display : Handle → String
  | null => "null"
  | held _ _ => "<ref>"

/-- A reference in diagnostics. -/
def debug : Handle → String
  | null => "RefHandle(null)"
  | held _ _ => "RefHandle(..)"

@[simp]
theorem same_self (h : Handle) : h.same h = true := by
  cases h <;> simp [same]

theorem same_comm (a b : Handle) : a.same b = b.same a := by
  cases a <;> cases b <;> simp [same, Bool.beq_comm]

end Handle

/-- The numbers which are still free: `next` and everything above it. -/
structure HandleSupply where
  next : Nat
  deriving DecidableEq, Inhabited

namespace HandleSupply

/-- The supply from which nothing was taken yet. -/
def full : HandleSupply := ⟨0⟩

/-- Give out one number for a payload. -/
def issue (s : HandleSupply) (p : Payload) : Handle × HandleSupply :=
  (.held s.next p, ⟨s.next + 1⟩)

@[simp]
theorem issue_next (s : HandleSupply) (p : Payload) : (s.issue p).2.next = s.next + 1 := rfl

end HandleSupply

end WasmCall
