import WasmCall.Kind

/-!
# What can go wrong

There are two levels of errors.

* A `CallError` is what a lookup or a call of a function may end with.
* A `Failure` is what anything else may end with: reading a file, setting up the engine, compiling
  or instantiating a module.  A call error is also a failure.

Each error keeps its cause.  The wording is in `CallError.message` and `Failure.message`.
-/

namespace WasmCall

/-- Why a lookup or a call failed.

* `notFound`: no function is exported under the name.
* `arityMismatch`: the call has too few or too many arguments.
* `typeMismatch`: an argument has a type which the parameter's kind does not take.
* `unsupportedArgumentType`: an argument has a type which no kind takes.
* `argumentOutOfRange`: an integer does not fit into the parameter.
* `trap`: the machine stopped the function; the code names the cause if it is a known one.
* `unsupportedSignature`: the function takes or gives values which have no kind.
* `resultMismatch`: what came back is not what the signature declares. -/
inductive CallError where
  | notFound (name : String)
  | arityMismatch (expected actual : Nat)
  | typeMismatch (index : Nat) (expected : Kind) (actual : String)
  | unsupportedArgumentType (index : Nat) (typeName : String)
  | argumentOutOfRange (index : Nat) (expected : Kind) (value : String)
  | trap (message : String) (code : Option String)
  | unsupportedSignature (name reason : String)
  | resultMismatch (reason : String)
  deriving DecidableEq, Inhabited

/-- Why something other than a call failed. -/
inductive Failure where
  | compilation (reason : String)
  | instantiation (reason : String)
  | configuration (reason : String)
  | io (reason : String)
  | call (error : CallError)
  deriving DecidableEq, Inhabited

/-- The trap code of a call which used up its fuel. -/
def outOfFuelCode : String := "OutOfFuel"

namespace CallError

/-- The text of a call error. -/
def message : CallError → String
  | notFound name => s!"Export not found: {name}"
  | arityMismatch expected actual =>
    s!"Arity mismatch: expected {expected} arguments, got {actual}"
  | typeMismatch index expected actual =>
    s!"Type mismatch at argument {index}: expected {expected.name}, got {actual}"
  | unsupportedArgumentType index typeName =>
    s!"Unsupported argument type at argument {index}: {typeName}"
  | argumentOutOfRange index expected value =>
    s!"Argument {index} out of range for {expected.name}: {value}"
  | trap message _ => s!"Wasm trap: {message}"
  | unsupportedSignature name reason => s!"Unsupported signature for '{name}': {reason}"
  | resultMismatch reason => s!"Result mismatch: {reason}"

/-- The name of the cause. -/
def kindName : CallError → String
  | notFound _ => "NotFound"
  | arityMismatch _ _ => "ArityMismatch"
  | typeMismatch _ _ _ => "TypeMismatch"
  | unsupportedArgumentType _ _ => "UnsupportedArgumentType"
  | argumentOutOfRange _ _ _ => "ArgumentOutOfRange"
  | trap _ _ => "Trap"
  | unsupportedSignature _ _ => "UnsupportedSignature"
  | resultMismatch _ => "ResultMismatch"

/-- Whether the name was not found. -/
def isNotFound : CallError → Bool
  | notFound _ => true
  | _ => false

/-- Whether the machine stopped the function. -/
def isTrap : CallError → Bool
  | trap _ _ => true
  | _ => false

/-- Whether the machine stopped the function because its fuel was used up. -/
def isOutOfFuel : CallError → Bool
  | trap _ (some code) => code == outOfFuelCode
  | _ => false

/-- Whether the arguments are to blame. -/
def isArgumentError : CallError → Bool
  | arityMismatch _ _ => true
  | typeMismatch _ _ _ => true
  | unsupportedArgumentType _ _ => true
  | argumentOutOfRange _ _ _ => true
  | _ => false

/-- Running out of fuel is a trap. -/
theorem isTrap_of_isOutOfFuel {e : CallError} (h : e.isOutOfFuel = true) : e.isTrap = true := by
  cases e <;> simp_all [isOutOfFuel, isTrap]

end CallError

namespace Failure

/-- The text of a failure. -/
def message : Failure → String
  | compilation reason => s!"Compilation failed: {reason}"
  | instantiation reason => s!"Instantiation failed: {reason}"
  | configuration reason => s!"Invalid configuration: {reason}"
  | io reason => s!"IO error: {reason}"
  | call error => error.message

/-- The name of the cause. -/
def kindName : Failure → String
  | compilation _ => "CompilationFailed"
  | instantiation _ => "InstantiationFailed"
  | configuration _ => "InvalidConfig"
  | io _ => "Io"
  | call error => error.kindName

/-- Whether the failure is that of a lookup of an unknown name. -/
def isNotFound : Failure → Bool
  | call error => error.isNotFound
  | _ => false

/-- The texts of a failure and of what caused it, from the outside in.  A failed read has the
text of the system as its cause. -/
def chain : Failure → List String
  | io reason => [message (io reason), reason]
  | f => [f.message]

end Failure

/-- A chain of texts, each of which explains the one before it, on one line. -/
def chainText (texts : List String) : String :=
  ": ".intercalate texts

end WasmCall
