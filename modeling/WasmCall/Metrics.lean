/-!
# Call metrics

An instance counts the calls which entered its machine.  Each of them is recorded once, when it
is over, with its duration, the fuel it used and whether it trapped.  The counters are words of 64
bits; the sum of the fuel stops at the largest of them.
-/

namespace WasmCall

/-- The counters of an instance.  Durations are in microseconds, and there is none before the
first call. -/
structure Metrics where
  calls : UInt64
  traps : UInt64
  fuelConsumed : UInt64
  lastDuration : Option Nat
  deriving DecidableEq

/-- What is recorded for a call. -/
structure CallRecord where
  duration : Nat
  fuel : UInt64
  trapped : Bool
  deriving DecidableEq

namespace Metrics

/-- The counters before the first call. -/
def zero : Metrics := ⟨0, 0, 0, none⟩

instance : Inhabited Metrics := ⟨zero⟩

/-- Addition which stops at the largest word. -/
def addSaturating (a b : UInt64) : UInt64 :=
  UInt64.ofNat (min (UInt64.size - 1) (a.toNat + b.toNat))

/-- Record a call. -/
def record (m : Metrics) (r : CallRecord) : Metrics :=
  { calls := m.calls + 1
    traps := if r.trapped then m.traps + 1 else m.traps
    fuelConsumed := addSaturating m.fuelConsumed r.fuel
    lastDuration := some r.duration }

/-- Record calls one after another. -/
def recordAll (m : Metrics) (rs : List CallRecord) : Metrics :=
  rs.foldl record m

theorem toNat_addSaturating (a b : UInt64) :
    (addSaturating a b).toNat = min (UInt64.size - 1) (a.toNat + b.toNat) := by
  simp only [addSaturating, UInt64.toNat_ofNat', UInt64.size]
  omega

theorem recordAll_cons (m : Metrics) (r : CallRecord) (rs : List CallRecord) :
    m.recordAll (r :: rs) = (m.record r).recordAll rs := rfl

theorem recordAll_append (m : Metrics) (rs rs' : List CallRecord) :
    m.recordAll (rs ++ rs') = (m.recordAll rs).recordAll rs' :=
  List.foldl_append

end Metrics

end WasmCall
