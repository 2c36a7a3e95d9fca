import WasmCall.Proofs.Metrics

/-!
# Counters as totals

Calls are recorded one after another, in words of 64 bits.  `Totals` says what the counters behind a
list of calls are in terms of the list alone: its length, the number of its traps, the sum of its fuel,
as far as a word can hold it, and the duration of its last call.

The counters keep their relation to numbers without a bound for as many calls as there are
(`Tallied.recordAll`).  For the fuel this carries through the point where the sum leaves the range,
since a sum which stopped there stays there whatever is added.  The numbers do not depend on the order
of the calls, so neither do the counters (`Totals.counters_eq`), except for the last duration.
-/

namespace WasmCall.Metrics

variable {called trapped spent : Nat} {m m' : Metrics} {rs rs' : List CallRecord}

/-- The fuel which calls used together, without a bound. -/
def totalFuel : List CallRecord → Nat
  | [] => 0
  | r :: rs => r.fuel.toNat + totalFuel rs

theorem totalFuel_perm (h : rs.Perm rs') : totalFuel rs = totalFuel rs' := by
  induction h with
  | nil => rfl
  | cons r _ ih => rw [totalFuel, totalFuel, ih]
  | swap r r' rs => simp only [totalFuel, Nat.add_left_comm]
  | trans _ _ ih ih' => exact ih.trans ih'

/-- Any number of further calls. -/
theorem Tallied.recordAll (h : Tallied called trapped spent m) (rs : List CallRecord) :
    Tallied (called + rs.length) (trapped + rs.countP (·.trapped)) (spent + totalFuel rs)
      (m.recordAll rs) := by
  induction rs generalizing called trapped spent m with
  | nil => exact h
  | cons r rs ih =>
      have hrest := ih (h.record r)
      rw [recordAll_cons, List.length_cons, List.countP_cons, totalFuel]
      simpa only [Nat.add_assoc, Nat.add_comm, Nat.add_left_comm] using hrest

/-- The last duration is that of the last call, if there is one. -/
theorem lastDuration_recordAll (m : Metrics) (rs : List CallRecord) :
    (m.recordAll rs).lastDuration = (rs.getLast?.map (·.duration)).or m.lastDuration := by
  induction rs generalizing m with
  | nil => rfl
  | cons r rs ih =>
      rw [recordAll_cons, ih, List.getLast?_cons]
      cases rs.getLast? with
      | none => rfl
      | some last => rfl

/-- A call never takes from the fuel which is counted: a sum beyond the range stops at its end. -/
theorem fuelConsumed_le_record (m : Metrics) (r : CallRecord) :
    m.fuelConsumed ≤ (m.record r).fuelConsumed := by
  have hrange := m.fuelConsumed.toNat_lt_size
  rw [UInt64.le_iff_toNat_le, record, toNat_addSaturating]
  omega

theorem fuelConsumed_le_recordAll (m : Metrics) (rs : List CallRecord) :
    m.fuelConsumed ≤ (m.recordAll rs).fuelConsumed := by
  induction rs generalizing m with
  | nil => exact UInt64.le_refl _
  | cons r rs ih => exact UInt64.le_trans (fuelConsumed_le_record m r) (ih (m.record r))

/-- Nothing is above the end of the range, so the sum stays there. -/
theorem fuelConsumed_recordAll_of_full
    (hfull : m.fuelConsumed.toNat = UInt64.size - 1) (rs : List CallRecord) :
    (m.recordAll rs).fuelConsumed.toNat = UInt64.size - 1 := by
  have hle := UInt64.le_iff_toNat_le.1 (fuelConsumed_le_recordAll m rs)
  have hrange := (m.recordAll rs).fuelConsumed.toNat_lt_size
  omega

/-- The counters are the totals of the calls. -/
structure Totals (rs : List CallRecord) (m : Metrics) : Prop where
  calls : m.calls.toNat = rs.length
  traps : m.traps.toNat = rs.countP (·.trapped)
  fuel : m.fuelConsumed.toNat = min (UInt64.size - 1) (totalFuel rs)
  duration : m.lastDuration = rs.getLast?.map (·.duration)

/-- Neither counter of calls has gone round as long as calls are few. -/
theorem totals_recordAll (hfew : rs.length < UInt64.size) : Totals rs (zero.recordAll rs) := by
  have htally : Tallied rs.length (rs.countP (·.trapped)) (totalFuel rs) (zero.recordAll rs) := by
    simpa only [Nat.zero_add] using tallied_zero.recordAll rs
  have htraps : rs.countP (·.trapped) < UInt64.size :=
    Nat.lt_of_le_of_lt List.countP_le_length hfew
  refine ⟨htally.toNat_calls hfew, htally.toNat_traps htraps, htally.fuel, ?_⟩
  rw [lastDuration_recordAll]
  exact Option.or_none

/-- The order of the calls does not matter to what is counted of them. -/
theorem Totals.counters_eq (h : Totals rs m) (h' : Totals rs' m') (hperm : rs.Perm rs') :
    m.calls = m'.calls ∧ m.traps = m'.traps ∧ m.fuelConsumed = m'.fuelConsumed := by
  refine ⟨UInt64.toNat_inj.1 ?_, UInt64.toNat_inj.1 ?_, UInt64.toNat_inj.1 ?_⟩
  · rw [h.calls, h'.calls, hperm.length_eq]
  · rw [h.traps, h'.traps, hperm.countP_eq]
  · rw [h.fuel, h'.fuel, totalFuel_perm hperm]

/-- A further call is counted by a word which has room for it. -/
theorem Totals.room (h : Totals rs m) (hfew : rs.length + 1 < UInt64.size) :
    m.calls.toNat + 1 < UInt64.size ∧ m.traps.toNat + 1 < UInt64.size := by
  have htraps : rs.countP (·.trapped) ≤ rs.length := List.countP_le_length
  rw [h.calls, h.traps]
  omega

/-- The counters behind fewer calls than a word can count.

* They are the totals of the calls.
* Calls, traps and fuel are the same for the calls in any order.
* No counter of calls is at the end of its range when a call is recorded.
* The fuel behind the first of the calls is never more than behind all of them, and if it is at the end
  of its range there, it stays there. -/
theorem counters_are_totals (hfew : rs.length < UInt64.size) :
    Totals rs (zero.recordAll rs) ∧
      (∀ rs', rs'.Perm rs → (zero.recordAll rs').calls = (zero.recordAll rs).calls ∧
        (zero.recordAll rs').traps = (zero.recordAll rs).traps ∧
        (zero.recordAll rs').fuelConsumed = (zero.recordAll rs).fuelConsumed) ∧
      (∀ before r, before ++ [r] <+: rs → (zero.recordAll before).calls.toNat + 1 < UInt64.size ∧
        (zero.recordAll before).traps.toNat + 1 < UInt64.size) ∧
      ∀ before, before <+: rs →
        (zero.recordAll before).fuelConsumed ≤ (zero.recordAll rs).fuelConsumed ∧
        ((zero.recordAll before).fuelConsumed.toNat = UInt64.size - 1 →
          (zero.recordAll rs).fuelConsumed.toNat = UInt64.size - 1) := by
  have htotals := totals_recordAll hfew
  refine ⟨htotals, ?order, ?room, ?fuel⟩
  case order =>
    intro rs' hperm
    have hfew' : rs'.length < UInt64.size := by rwa [hperm.length_eq]
    exact (totals_recordAll hfew').counters_eq htotals hperm
  case room =>
    intro before r hbefore
    have hlength : before.length + 1 ≤ rs.length := by simpa using hbefore.length_le
    have hroom : before.length + 1 < UInt64.size := Nat.lt_of_le_of_lt hlength hfew
    exact (totals_recordAll (Nat.lt_of_succ_lt hroom)).room hroom
  case fuel =>
    rintro before ⟨after, rfl⟩
    rw [recordAll_append]
    exact ⟨fuelConsumed_le_recordAll _ after,
      fun hfull => fuelConsumed_recordAll_of_full hfull after⟩

/-- The second of three calls, which traps, takes the fuel past the end of its range. -/
def overspent : List CallRecord :=
  [⟨2000, 18446744073709551565, false⟩, ⟨1000, 100, true⟩, ⟨4000, 7, false⟩]

/-- The fuel is at the end of its range behind two calls and behind all three, also if the calls come
the other way round. -/
theorem totals_overspent :
    overspent.length < UInt64.size ∧ Totals overspent (zero.recordAll overspent) ∧
      totalFuel overspent = UInt64.size + 56 ∧
      (zero.recordAll (overspent.take 2)).fuelConsumed.toNat = UInt64.size - 1 ∧
      (zero.recordAll overspent).fuelConsumed.toNat = UInt64.size - 1 ∧
      (zero.recordAll overspent.reverse).fuelConsumed =
        (zero.recordAll overspent).fuelConsumed := by
  have hfew : overspent.length < UInt64.size := by decide
  obtain ⟨htotals, horder, -, hfuel⟩ := counters_are_totals hfew
  have hfull : (zero.recordAll (overspent.take 2)).fuelConsumed.toNat = UInt64.size - 1 := rfl
  exact ⟨hfew, htotals, rfl, hfull, (hfuel _ (List.take_prefix 2 overspent)).2 hfull,
    (horder _ (List.reverse_perm overspent)).2.2⟩

end WasmCall.Metrics
