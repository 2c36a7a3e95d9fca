import WasmCall.Compilation

/-!
# Compiled modules

However a module is compiled, its source comes to the machine in the end (`Compiled.exists_source`).
So whatever holds of all modules which the machine compiles holds of a compiled module.
-/

namespace WasmCall

variable {M : Machine} {e : Engine M} {m : CompiledModule M}

/-- A module which was compiled by some engine, from a text, from bytes or from a file. -/
inductive Compiled (m : CompiledModule M) : Prop
  | text (e : Engine M) (text : String) (h : (e.compileText text).result = .ok m)
  | bytes (e : Engine M) (source : List UInt8) (h : (e.compileBytes source).result = .ok m)
  | file (e : Engine M) (files : FileReader) (path : String)
      (h : (e.compileFile files path).result = .ok m)

namespace Engine

theorem compile_eq_ok {source : List UInt8} {context : String} {event : String → Event}
    (h : (e.compile source context event).result = .ok m) :
    ∃ source, M.compile e.inner source = .ok m.inner := by
  unfold compile at h
  split at h
  · cases h
  · rename_i inner hinner
    cases h
    exact ⟨source, hinner⟩

theorem compileText_eq_ok {text : String} (h : (e.compileText text).result = .ok m) :
    ∃ source, M.compile e.inner source = .ok m.inner :=
  compile_eq_ok h

theorem compileBytes_eq_ok {source : List UInt8} (h : (e.compileBytes source).result = .ok m) :
    ∃ source, M.compile e.inner source = .ok m.inner := by
  unfold compileBytes at h
  split at h
  · cases h
  · split at h
    · exact compile_eq_ok h
    · cases h

theorem compileFile_eq_ok {files : FileReader} {path : String}
    (h : (e.compileFile files path).result = .ok m) :
    ∃ source, M.compile e.inner source = .ok m.inner := by
  unfold compileFile at h
  split at h
  · cases h
  · split at h
    · exact compileBytes_eq_ok h
    · split at h
      · exact compileText_eq_ok h
      · cases h

/-- Bytes of a binary module are compiled if the machine compiles them. -/
theorem compileBytes_of_compile {source : List UInt8} {inner : M.Module}
    (hmagic : hasMagic source = true) (hsize : 8 ≤ source.length)
    (hcompile : M.compile e.inner source = .ok inner) :
    (e.compileBytes source).result = .ok ⟨inner, Digest.ofBytes source⟩ := by
  simp only [compileBytes, if_neg (Nat.not_lt.2 hsize), hmagic, if_true, compile, hcompile]

/-- A file with a binary module is compiled as its bytes are. -/
theorem compileFile_of_binary {files : FileReader} {path : String} {source : List UInt8}
    (hfile : files path = .ok source) (hmagic : hasMagic source = true) :
    e.compileFile files path = e.compileBytes source := by
  simp only [compileFile, hfile, hmagic, if_true]

end Engine

/-- Every way to compile a module is the machine's. -/
theorem Compiled.exists_source (h : Compiled m) :
    ∃ (e : M.Engine) (source : List UInt8), M.compile e source = .ok m.inner := by
  cases h with
  | text e text h => exact ⟨e.inner, Engine.compileText_eq_ok h⟩
  | bytes e source h => exact ⟨e.inner, Engine.compileBytes_eq_ok h⟩
  | file e files path h => exact ⟨e.inner, Engine.compileFile_eq_ok h⟩

end WasmCall
