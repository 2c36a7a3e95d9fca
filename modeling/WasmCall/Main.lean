import WasmCall.Command
import WasmCall.EventLine
import WasmCall.Wasm.Interpreter

/-!
# The program

The words of the command line, three variables of the environment and two files come in; lines of
output, lines of the log and an exit code go out.  All in between is `Command.run`, on the machine
which interprets modules.  Nothing which goes out tells how long a call took, so none is measured.
-/

namespace WasmCall.Program

/-- The fault behind an error of the system.  Error numbers come with either sign. -/
def faultOf : IO.Error → FileFault
  | .noFileOrDirectory .. => .missing
  | .inappropriateType _ code details =>
    if code = 20 ∨ code = 0 - 20 then .notFolder
    else if code = 21 ∨ code = 0 - 21 then .isFolder
    else .refused details
  | e => .refused (toString e)

/-- Read the files a command line may ask for, and leave a reader of just these. -/
def readerFor (paths : List String) : IO FileReader := do
  let entries ← paths.mapM fun (path : String) => do
    match ← (IO.FS.readBinFile path).toBaseIO with
    | .ok bytes => return (path, Except.ok bytes.toList)
    | .error e => return (path, Except.error (faultOf e))
  return fun path => (entries.lookup path).getD (.error .missing)

/-- The variables of the environment which count. -/
def environment : IO CommandLine.Environment := do
  return ⟨← IO.getEnv "WASM_INVOKE_CONFIG", ← IO.getEnv "WASM_INVOKE_JSON_LOGS",
    ← IO.getEnv "RUST_LOG"⟩

/-- Follow a command line, and write down what comes of it. -/
def follow (env : CommandLine.Environment) (line : CommandLine) : IO UInt32 := do
  let files ← readerFor (line.config.toList ++ [line.module])
  let report := Command.run Wasm.interpreter 0 files env line
  for e in report.events do
    IO.eprintln (e.line report.json)
  IO.print report.output
  if let .error text := report.result then
    IO.eprintln s!"error: {text}"
  return report.exitCode

/-- The program, given the words of the command line. -/
def start (words : List String) : IO UInt32 := do
  let env ← environment
  match CommandLine.parse env words with
  | .ok line => follow env line
  | .error .help =>
    IO.print CommandLine.helpText
    return 0
  | .error .version =>
    IO.print CommandLine.versionText
    return 0
  | .error fault =>
    IO.eprintln s!"error: {fault.name}"
    return 2

end WasmCall.Program

/-- The program. -/
def main (words : List String) : IO UInt32 :=
  WasmCall.Program.start words
