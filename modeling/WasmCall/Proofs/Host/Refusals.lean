import WasmCall.Proofs.Host.Run

/-!
# What fails leaves no trace

A lookup which fails and a call whose arguments are refused leave the host as it was: the state, the
fuel, the metrics and the cache of every instance, and the supply of handles.  Any other call enters
the machine of its instance exactly once, if this can be refuelled and is typed.  The error tells the
two apart (`Accountable`).

Arguments are refused at three places, and a coercion which fails is noticed before any reference is
looked at.
-/

namespace WasmCall.Host

variable {M : Machine} {h : Host M} {i : Instance M} {past : List (Step M)}
  {c : Callable FunctionRef} {elapsed : Nat} {args : List Value}

/-- What the error of a call tells about the call.

* `blamed`: the arguments are to blame exactly if no machine was entered.
* `untouched`: if they are, then nothing has changed.
* `trapped`: if they are not, then the machine was entered once and trapped.
* `coerced`: among arguments of the right number, the first which cannot be coerced decides. -/
structure Accountable (h : Host M) (elapsed : Nat) (c : Callable FunctionRef) (args : List Value) :
    Prop where
  blamed : ∀ e, (h.call elapsed c args).result = .error e →
    (e.isArgumentError = true ↔ h.entries elapsed c args = [])
  untouched : ∀ e, (h.call elapsed c args).result = .error e → e.isArgumentError = true →
    (h.call elapsed c args).state = h
  trapped : ∀ e, (h.call elapsed c args).result = .error e → e.isArgumentError = false →
    (h.entries elapsed c args).length = 1 ∧ e.isTrap = true
  coerced : args.length = c.signature.params.length →
    (∃ k e, c.coercion? args k = some (.error e)) →
    ∃ k e, c.coercion? args k = some (.error e) ∧
      (∀ j < k, ∃ r, c.coercion? args j = some (.ok r)) ∧ (h.call elapsed c args).result = .error e

/-- Accepted arguments have been coerced, every one of them. -/
theorem coercion?_ne_error {operands : List Operand} (haccepted : c.Accepts args operands) (k : Nat)
    (e : CallError) : c.coercion? args k ≠ some (.error e) := by
  rw [haccepted.coerced k]
  cases operands[k]? with
  | none => simp
  | some r => simp

/-- The first coercion which fails decides, whatever the references are. -/
theorem call_of_coercion_error (hi : h.find? c.target.owner = some i)
    (hcount : args.length = c.signature.params.length) {k : Nat} {e : CallError}
    (hfails : c.coercion? args k = some (.error e)) :
    ∃ k e, c.coercion? args k = some (.error e) ∧
      (∀ j < k, ∃ r, c.coercion? args j = some (.ok r)) ∧
      (h.call elapsed c args).result = .error e := by
  -- A reference is looked at only where all arguments were accepted.
  cases hoperands : c.operands args with
  | ok operands =>
      have haccepted := (Callable.operands_eq_ok_iff c args operands).1 hoperands
      exact absurd hfails (coercion?_ne_error haccepted k e)
  | error e' =>
      have hresult : (h.call elapsed c args).result = .error e' := by
        rw [result_of_find? hi, Instance.callIn_of_operands_error _ hoperands]
        rfl
      cases (Callable.operands_eq_error_iff c args e').1 hoperands with
      | arity hne => exact absurd hcount hne
      | coercion _ k' _ hfails' hleast => exact ⟨k', e', hfails', hleast, hresult⟩

theorem WellFormed.accountable (hh : h.WellFormed) (hi : h.find? c.target.owner = some i)
    (hc : i.Offers c) (hrefuels : M.Refuels) (htyped : M.Typed) (elapsed : Nat)
    (args : List Value) : Accountable h elapsed c args where
  blamed := by
    intro e he
    rcases hh.call_error_cases hi hc hrefuels htyped he with
      ⟨hblame, hentries, -⟩ | ⟨hblame, hentries, -⟩
    · simp [hblame, hentries]
    · have hne : h.entries elapsed c args ≠ [] := by
        intro hnil
        simp [hnil] at hentries
      simp [hblame, hne]
  untouched := by
    intro e he hblame
    rcases hh.call_error_cases hi hc hrefuels htyped he with ⟨-, -, hstate⟩ | ⟨hno, -, -⟩
    · exact hstate
    · rw [hblame] at hno
      cases hno
  trapped := by
    intro e he hblame
    rcases hh.call_error_cases hi hc hrefuels htyped he with ⟨hyes, -, -⟩ | ⟨-, hentries, htrap⟩
    · rw [hblame] at hyes
      cases hyes
    · exact ⟨hentries, htrap⟩
  coerced := by
    rintro hcount ⟨k, e, hfails⟩
    exact call_of_coercion_error hi hcount hfails

/-- In every run, a lookup which fails and a call whose arguments are refused leave no trace. -/
theorem Run.failures_leave_no_trace {e : Engine M} (hrun : Run e past h) (hrefuels : M.Refuels)
    (htyped : M.Typed) :
    (∀ id name e, (h.getFunction id name).result = .error e →
      (h.getFunction id name).state = h ∧
        (e = .notFound name ∨ ∃ reason, e = .unsupportedSignature name reason)) ∧
      ∀ c, (∃ step ∈ past, step.Obtains c) → (∃ i, h.find? c.target.owner = some i) →
        ∀ elapsed args, Accountable h elapsed c args := by
  have hs := hrun.sound
  constructor
  · intro id name e he
    exact hs.wellFormed.getFunction_eq_error he
  · rintro c hobtained ⟨i, hi⟩ elapsed args
    exact hs.wellFormed.accountable hi (hs.offers hobtained hi) hrefuels htyped elapsed args

/-- A name which the module `relay` does not export, and an argument which is no reference. -/
theorem no_trace_relay :
    ((relayState 5).2.getFunction ⟨1⟩ "lost").state = (relayState 5).2 ∧
      Accountable (relayState 5).2 3 relayTake [.bool true] := by
  obtain ⟨hlookups, hcalls⟩ := run_relay.failures_leave_no_trace
    Wasm.Interpreter.refuels Wasm.Interpreter.typed
  constructor
  · exact (hlookups ⟨1⟩ "lost" (.notFound "lost") rfl).1
  · exact hcalls relayTake obtains_relayTake ⟨_, rfl⟩ 3 [.bool true]

end WasmCall.Host
