import WasmCall.Kind

/-!
# Signatures

A signature lists the kinds of the parameters and the kinds of the results of a function, each in
declaration order.  Its text is that of both lists in parentheses with an arrow in between.
-/

namespace WasmCall

/-- The parameter kinds and the result kinds of a function. -/
structure Signature where
  params : List Kind
  results : List Kind
  deriving DecidableEq, Inhabited

namespace Signature

/-- Kinds by name, with a comma and a space between any two of them. -/
def kindsText : List Kind → String
  | [] => ""
  | [k] => k.name
  | k :: ks => k.name ++ ", " ++ kindsText ks

/-- The text of a signature, such as `(i32, i64) -> ()`. -/
def text (s : Signature) : String :=
  "(" ++ kindsText s.params ++ ") -> (" ++ kindsText s.results ++ ")"

/-- A signature in diagnostics. -/
def debug (s : Signature) : String :=
  let labels (ks : List Kind) : String := ", ".intercalate (ks.map Kind.label)
  "Signature \x7b params: [" ++ labels s.params ++ "], results: [" ++ labels s.results ++ "] \x7d"

end Signature

end WasmCall
