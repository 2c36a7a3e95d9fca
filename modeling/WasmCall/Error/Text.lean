import WasmCall.Error.Basic
import WasmCall.Text.Quoted

/-!
# Errors in diagnostics

Where `CallError.message` is meant to be read, `CallError.debug` shows the error with its fields.
-/

namespace WasmCall.CallError

open Text

/-- A name in front of labelled fields in braces. -/
def record (name : String) (fields : List (String × String)) : String :=
  let field (f : String × String) : String := f.1 ++ ": " ++ f.2
  name ++ " \x7b " ++ ", ".intercalate (fields.map field) ++ " \x7d"

/-- An optional text in diagnostics. -/
def optionText : Option String → String
  | none => "None"
  | some s => "Some(" ++ quoted s ++ ")"

/-- A call error with its fields. -/
def debug (e : CallError) : String :=
  record e.kindName <|
    match e with
    | notFound name => [("name", quoted name)]
    | arityMismatch expected actual =>
      [("expected", toString expected), ("actual", toString actual)]
    | typeMismatch index expected actual =>
      [("index", toString index), ("expected", expected.label), ("actual", quoted actual)]
    | unsupportedArgumentType index typeName =>
      [("index", toString index), ("type_name", quoted typeName)]
    | argumentOutOfRange index expected value =>
      [("index", toString index), ("expected", expected.label), ("value", quoted value)]
    | trap message code => [("message", quoted message), ("code", optionText code)]
    | unsupportedSignature name reason => [("name", quoted name), ("reason", quoted reason)]
    | resultMismatch reason => [("reason", quoted reason)]

end WasmCall.CallError
