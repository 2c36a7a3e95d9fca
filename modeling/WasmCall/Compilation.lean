import WasmCall.Digest
import WasmCall.Engine
import WasmCall.Files

/-!
# Compilation

A module is compiled from a text, from bytes, or from a file with either of them.  What a module is,
and whether it is valid, is up to the machine; only the first bytes are looked at before.
-/

namespace WasmCall

/-- A module which was compiled, with the digest of its source. -/
structure CompiledModule (M : Machine) where
  inner : M.Module
  digest : String

namespace CompiledModule

variable {M : Machine} (m : CompiledModule M)

/-- The names of the exported functions, in the order in which they are declared. -/
def functionExports : List String :=
  ((M.moduleExports m.inner).filter (·.kind = .func)).map Machine.Extern.name

/-- A compiled module in diagnostics. -/
def debug : String :=
  "CompiledModule \x7b content_hash: \"" ++ m.digest ++ "\", .. \x7d"

end CompiledModule

/-- The bytes which a binary module begins with. -/
def wasmMagic : List UInt8 := [0x00, 0x61, 0x73, 0x6d]

/-- Whether bytes begin as those of a binary module do. -/
def hasMagic (source : List UInt8) : Bool :=
  wasmMagic.isPrefixOf source

namespace Engine

variable {M : Machine} (e : Engine M)

/-- Compile a module, and say in which context that failed or by which event it succeeded. -/
def compile (source : List UInt8) (context : String) (event : String → Event) :
    Reply Unit (Except Failure (CompiledModule M)) :=
  match M.compile e.inner source with
  | .error fault => .pure (.error (.compilation s!"{context}: {fault.text}")) ()
  | .ok m =>
    let digest := Digest.ofBytes source
    ⟨.ok ⟨m, digest⟩, (), [event digest]⟩

/-- Compile a module from a text.  The bytes of the text may also be those of a binary module. -/
def compileText (text : String) : Reply Unit (Except Failure (CompiledModule M)) :=
  e.compile text.toUTF8.toList "WAT compilation failed" .textCompiled

/-- Compile a module from bytes. -/
def compileBytes (source : List UInt8) : Reply Unit (Except Failure (CompiledModule M)) :=
  let refuse (reason : String) : Reply Unit (Except Failure (CompiledModule M)) :=
    .pure (.error (.compilation reason)) ()
  if source.length < 8 then refuse "Invalid Wasm: file too small"
  else if hasMagic source then
    e.compile source "Core module compilation failed" .binaryCompiled
  else refuse "Invalid Wasm: bad magic number"

/-- Compile a module from a file.  The first bytes tell the two forms apart. -/
def compileFile (files : FileReader) (path : String) :
    Reply Unit (Except Failure (CompiledModule M)) :=
  match files path with
  | .error fault => .pure (.error (.io fault.message)) ()
  | .ok source =>
    if hasMagic source then e.compileBytes source
    else
      match textOf? source with
      | some text => e.compileText text
      | none => .pure (.error (.compilation "Neither binary Wasm nor UTF-8 WAT text")) ()

end Engine

end WasmCall
