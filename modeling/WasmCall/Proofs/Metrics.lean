import WasmCall.Metrics

/-!
# Counters and what they count

`Tallied` relates the counters to numbers which have no bound: how many calls were recorded, how many
of them trapped, and how much fuel they used together.  The counters of calls go round at the end of
their range, while that of the fuel stops there, so the numbers determine the counters at any time
(`Tallied.record`), and the counters are the numbers as long as calls are few.
-/

namespace WasmCall.Metrics

/-- The counters behind so many calls, so many of which trapped, and which used so much fuel. -/
structure Tallied (called trapped spent : Nat) (m : Metrics) : Prop where
  calls : m.calls = UInt64.ofNat called
  traps : m.traps = UInt64.ofNat trapped
  fuel : m.fuelConsumed.toNat = min (UInt64.size - 1) spent
  duration : m.lastDuration = none ↔ called = 0

variable {called trapped spent : Nat} {m : Metrics}

theorem tallied_zero : Tallied 0 0 0 zero where
  calls := rfl
  traps := rfl
  fuel := by simp [zero]
  duration := by simp [zero]

/-- One more call. -/
theorem Tallied.record (h : Tallied called trapped spent m) (r : CallRecord) :
    Tallied (called + 1) (trapped + if r.trapped then 1 else 0) (spent + r.fuel.toNat)
      (m.record r) where
  calls := by
    simp only [Metrics.record, h.calls, UInt64.ofNat_add]
    rfl
  traps := by
    rw [Metrics.record, h.traps]
    cases r.trapped with
    | true => simp [UInt64.ofNat_add]
    | false => simp
  fuel := by
    simp only [Metrics.record, toNat_addSaturating, h.fuel]
    omega
  duration := by simp [Metrics.record]

/-- The counter of calls has not gone round. -/
theorem Tallied.toNat_calls (h : Tallied called trapped spent m) (hfew : called < UInt64.size) :
    m.calls.toNat = called := by
  rw [h.calls, UInt64.toNat_ofNat_of_lt' hfew]

theorem Tallied.toNat_traps (h : Tallied called trapped spent m) (hfew : trapped < UInt64.size) :
    m.traps.toNat = trapped := by
  rw [h.traps, UInt64.toNat_ofNat_of_lt' hfew]

/-- There is a last call if and only if there was a call. -/
theorem Tallied.lastDuration_eq_none_iff (h : Tallied called trapped spent m)
    (hfew : called < UInt64.size) : m.lastDuration = none ↔ m.calls = 0 := by
  rw [h.duration, ← UInt64.toNat_inj, h.toNat_calls hfew, UInt64.toNat_zero]

end WasmCall.Metrics
