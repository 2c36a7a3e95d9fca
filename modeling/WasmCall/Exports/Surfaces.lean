import WasmCall.Exports

/-!
# Surfaces over one resolver

Any number of surfaces may stand over the same resolver, each of them with its own policy and its
own cache.  A copy of a surface shares the cache with it, so a surface and all its copies are one
*family*, known by its number.
-/

namespace WasmCall

/-- What a surface shares with its copies. -/
structure Family (ι : Type) where
  policy : OverflowPolicy
  cache : Cache ι

/-- A resolver and the families of surfaces over it. -/
structure Surfaces (ρ ι : Type) where
  resolver : ρ
  families : List (Family ι)

namespace Surfaces

variable {ρ ι : Type}

/-- A resolver without surfaces. -/
def ofResolver (resolver : ρ) : Surfaces ρ ι := ⟨resolver, []⟩

/-- Put a surface over the resolver.  It begins a family, whose number is given back. -/
def create (s : Surfaces ρ ι) (policy : OverflowPolicy) : Nat × Surfaces ρ ι :=
  (s.families.length, { s with families := s.families ++ [⟨policy, .empty⟩] })

/-- Change the resolver. -/
def change (s : Surfaces ρ ι) (f : ρ → ρ) : Surfaces ρ ι :=
  { s with resolver := f s.resolver }

/-- Look up a function on a surface, given the number of its family. -/
def getFunction (resolve : Resolver ρ ι) (s : Surfaces ρ ι) (family : Nat) (name : String) :
    Reply (Surfaces ρ ι) (Except CallError (Callable ι)) :=
  match s.families[family]? with
  | none => .pure (.error (.notFound name)) s
  | some f =>
    let r := Exports.getFunction resolve f.policy name s.resolver f.cache
    let put (after : ρ × Cache ι) : Surfaces ρ ι :=
      ⟨after.1, s.families.set family { f with cache := after.2 }⟩
    r.mapState put

end Surfaces

end WasmCall
