import WasmCall.Callable

/-!
# Looking up exported functions

A lookup asks a *resolver* for the function of a name and builds a callable out of the answer.
A function which was looked up once is remembered for good, so the resolver is asked again only
for names which failed so far.

* `Cache` holds the callables which were built, at most one for each name.
* `Exports.getFunction` is a lookup: find, else resolve, else insert if still absent.

The three steps of a lookup are functions of their own, because lookups of several callers on
one cache may interleave between them.
-/

namespace WasmCall

/-- A resolver's answer for a name: the signature of the function and its target. -/
structure Resolved (ι : Type) where
  signature : Signature
  target : ι

/-- Something which can be asked for functions by name.  It has a state, so that it may give
another answer to the same question later. -/
abbrev Resolver (ρ ι : Type) : Type :=
  String → ρ → Reply ρ (Except CallError (Resolved ι))

/-- Callables which were built, by name, in the order in which they were built. -/
structure Cache (ι : Type) where
  entries : List (String × Callable ι)

namespace Cache

variable {ι : Type}

/-- The cache of a surface which nothing was looked up on yet. -/
def empty : Cache ι := ⟨[]⟩

instance : Inhabited (Cache ι) := ⟨empty⟩

/-- The callable remembered for a name. -/
def find? (cache : Cache ι) (name : String) : Option (Callable ι) :=
  cache.entries.lookup name

/-- How many callables are remembered. -/
def size (cache : Cache ι) : Nat :=
  cache.entries.length

/-- Remember a callable unless there is one of that name, and give back the one which is
remembered afterwards. -/
def insertIfAbsent (cache : Cache ι) (name : String) (c : Callable ι) :
    Callable ι × Cache ι :=
  match cache.find? name with
  | some present => (present, cache)
  | none => (c, ⟨cache.entries ++ [(name, c)]⟩)

@[simp]
theorem find?_empty (name : String) : (empty : Cache ι).find? name = none := rfl

end Cache

namespace Exports

variable {ι ρ : Type}

/-- The callable for a resolver's answer. -/
def build (policy : OverflowPolicy) (name : String) (r : Resolved ι) : Callable ι :=
  ⟨name, r.signature, policy, r.target⟩

/-- The event for a callable which was built. -/
def builtEvent (name : String) (r : Resolved ι) : Event :=
  .callableBuilt name r.signature.text

/-- Look up a function.  The resolver is asked only if nothing is remembered for the name, and
its failures are passed on without being remembered. -/
def getFunction (resolve : Resolver ρ ι) (policy : OverflowPolicy) (name : String)
    (state : ρ) (cache : Cache ι) :
    Reply (ρ × Cache ι) (Except CallError (Callable ι)) :=
  match cache.find? name with
  | some c => .pure (.ok c) (state, cache)
  | none =>
    let answer := resolve name state
    match answer.result with
    | .error e => ⟨.error e, (answer.state, cache), answer.events⟩
    | .ok r =>
      let (c, cache) := cache.insertIfAbsent name (build policy name r)
      ⟨.ok c, (answer.state, cache), answer.events ++ [builtEvent name r]⟩

/-- Names in ascending order of their bytes, which is that of their characters. -/
def sortedNames (names : List String) : List String :=
  names.mergeSort fun a b => decide (a ≤ b)

/-- A surface in diagnostics. -/
def debug (policy : OverflowPolicy) (cache : Cache ι) : String :=
  "Exports \x7b policy: " ++ policy.label ++ s!", cached: {cache.size}, .. \x7d"

end Exports

end WasmCall
