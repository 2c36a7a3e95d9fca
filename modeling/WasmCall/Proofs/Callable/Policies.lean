import WasmCall.Proofs.Callable.Dispatch
import WasmCall.Proofs.Coercion.Numbers

/-!
# Calls under the two policies

A call which truncates accepts all arguments which a call that rejects does, and treats them in the
same way.  It differs where an integer does not fit, and there it goes on with the next argument.

* `Relaxes`: what becomes of one argument under the two policies.
* `Refines`: what becomes of a call, from what is written down about the runs of its target.
* `truncate_refines_reject`: the call which truncates refines the one which rejects.
-/

namespace WasmCall

/-- An error which blames the type of the argument at an index, and not what it is worth. -/
inductive CallError.Unfit (index : Nat) : CallError → Prop
  | mismatch (k : Kind) (name : String) : Unfit index (.typeMismatch index k name)
  | unsupported (name : String) : Unfit index (.unsupportedArgumentType index name)

/-- What becomes of an argument where integers which do not fit are rejected, and what becomes of it
where they are truncated. -/
inductive Relaxes (index : Nat) : Except CallError Operand → Except CallError Operand → Prop
  | same (r : Operand) : Relaxes index (.ok r) (.ok r)
  | unfit (e : CallError) (he : e.Unfit index) : Relaxes index (.error e) (.error e)
  | relaxed (k : Kind) (text : String) (r : Operand) :
      Relaxes index (.error (.argumentOutOfRange index k text)) (.ok r)

theorem relaxes_coerce (index : Nat) (k : Kind) (v : Value) :
    Relaxes index (coerce .reject index k v) (coerce .truncate index k v) := by
  have hstrict := coerced_coerce .reject index k v
  generalize coerce .reject index k v = strict at hstrict ⊢
  cases hstrict with
  | integer k v width n hk hv strict hstrict =>
      cases hstrict with
      | fits hn r hr =>
          rw [(coerce_eq_iff_narrows hk hv).2 (.fits hn r hr)]
          exact .same r
      | truncated hpolicy => cases hpolicy
      | rejected _ hn text htext =>
          obtain ⟨r, -, hr, -⟩ := (narrows_coerce hk hv .truncate index).exists_stands
          rw [hr]
          exact .relaxed k text r
  -- Whatever is not an integer of the right kind is treated alike under both policies.
  | f32 bits => exact .same (.f32 bits)
  | f64 bits => exact .same (.f64 bits)
  | ref g => exact .same (.ref g)
  | bool k b => exact .unfit _ (.unsupported "bool")
  | string k s => exact .unfit _ (.unsupported "string")
  | integerMismatch k v n hk hv =>
      rw [coerce_integer_mismatch hk hv]
      exact .unfit _ (.mismatch k v.typeName)
  | f32Mismatch k bits hk =>
      rw [(Coerced.f32Mismatch k bits hk).coerce_eq]
      exact .unfit _ (.mismatch k "f32")
  | f64Mismatch k bits hk =>
      rw [(Coerced.f64Mismatch k bits hk).coerce_eq]
      exact .unfit _ (.mismatch k "f64")
  | refMismatch k g hk =>
      rw [(Coerced.refMismatch k g hk).coerce_eq]
      exact .unfit _ (.mismatch k "ref")

namespace Callable

variable {ι σ : Type}

/-- A function under another policy. -/
def withPolicy (c : Callable ι) (policy : OverflowPolicy) : Callable ι :=
  { c with policy := policy }

section Arguments

variable {c : Callable ι} {args : List Value} {operands : List Operand} {e : CallError}

/-- Where there is a parameter and an argument for it, the two policies treat it as one argument, and
elsewhere there is nothing to coerce. -/
theorem coercion?_withPolicy (c : Callable ι) (args : List Value) (i : Nat) :
    ((c.withPolicy .reject).coercion? args i = none ∧
        (c.withPolicy .truncate).coercion? args i = none) ∨
      ∃ strict lenient, (c.withPolicy .reject).coercion? args i = some strict ∧
        (c.withPolicy .truncate).coercion? args i = some lenient ∧ Relaxes i strict lenient := by
  simp only [coercion?, withPolicy]
  cases c.signature.params[i]? with
  | none => exact .inl ⟨rfl, rfl⟩
  | some k =>
      cases args[i]? with
      | none => exact .inl ⟨rfl, rfl⟩
      | some v => exact .inr ⟨_, _, rfl, rfl, relaxes_coerce i k v⟩

/-- An argument which is coerced where integers are rejected is coerced to the same operand where they
are truncated. -/
theorem coercion?_truncate_of_ok {i : Nat} {r : Operand}
    (h : (c.withPolicy .reject).coercion? args i = some (.ok r)) :
    (c.withPolicy .truncate).coercion? args i = some (.ok r) := by
  rcases coercion?_withPolicy c args i with ⟨hnone, -⟩ | ⟨strict, lenient, hs, hl, hrelaxes⟩
  · rw [hnone] at h
    cases h
  · rw [hs] at h
    cases h
    cases hrelaxes
    exact hl

/-- An error where integers are truncated blames a type, and it is the error where they are rejected. -/
theorem coercion?_truncate_eq_error {i : Nat}
    (h : (c.withPolicy .truncate).coercion? args i = some (.error e)) :
    e.Unfit i ∧ (c.withPolicy .reject).coercion? args i = some (.error e) := by
  rcases coercion?_withPolicy c args i with ⟨-, hnone⟩ | ⟨strict, lenient, hs, hl, hrelaxes⟩
  · rw [hnone] at h
    cases h
  · rw [hl] at h
    cases h
    cases hrelaxes with
    | unfit _ he => exact ⟨he, hs⟩

theorem coercion?_reject_eq_error {i : Nat}
    (h : (c.withPolicy .reject).coercion? args i = some (.error e)) :
    (c.withPolicy .truncate).coercion? args i = some (.error e) ∨
      ∃ k text r, e = .argumentOutOfRange i k text ∧
        (c.withPolicy .truncate).coercion? args i = some (.ok r) := by
  rcases coercion?_withPolicy c args i with ⟨hnone, -⟩ | ⟨strict, lenient, hs, hl, hrelaxes⟩
  · rw [hnone] at h
    cases h
  · rw [hs] at h
    cases h
    cases hrelaxes with
    | unfit _ he => exact .inl hl
    | relaxed k text r => exact .inr ⟨k, text, r, rfl, hl⟩

/-- Accepted arguments stay accepted, as the same operands. -/
theorem Accepts.truncate (h : (c.withPolicy .reject).Accepts args operands) :
    (c.withPolicy .truncate).Accepts args operands := by
  refine ⟨h.count, fun i => ?_⟩
  have hi := h.coerced i
  cases hoperand : operands[i]? with
  | none =>
      rw [hoperand] at hi
      rcases coercion?_withPolicy c args i with ⟨-, hnone⟩ | ⟨strict, lenient, hs, -⟩
      · exact hnone
      · rw [hs] at hi
        cases hi
  | some r =>
      rw [hoperand] at hi
      exact coercion?_truncate_of_ok hi

/-- Where integers are truncated an error blames the count or a type, and never a number. -/
theorem Refuses.ne_outOfRange (h : (c.withPolicy .truncate).Refuses args e) (i : Nat) (k : Kind)
    (text : String) : e ≠ .argumentOutOfRange i k text := by
  rintro rfl
  cases h with
  | coercion _ j _ hfails _ => cases (coercion?_truncate_eq_error hfails).1

/-- Refused arguments stay refused for the same reason, or a number was the reason and now there is
none but further on. -/
theorem Refuses.truncate (h : (c.withPolicy .reject).Refuses args e) :
    (c.withPolicy .truncate).Refuses args e ∨
      ∃ i k text, e = .argumentOutOfRange i k text ∧
        ∀ e', (c.withPolicy .truncate).Refuses args e' → ∃ j > i, e'.Unfit j := by
  cases h with
  | arity hcount => exact .inl (.arity hcount)
  | coercion hcount i _ hfails hleast =>
      have hbefore : ∀ j < i, ∃ r, (c.withPolicy .truncate).coercion? args j = some (.ok r) := by
        intro j hj
        obtain ⟨r, hr⟩ := hleast j hj
        exact ⟨r, coercion?_truncate_of_ok hr⟩
      rcases coercion?_reject_eq_error hfails with hsame | ⟨k, text, r, rfl, hr⟩
      · have hcount' : args.length = (c.withPolicy .truncate).signature.params.length := hcount
        exact .inl (.coercion hcount' i e hsame hbefore)
      · refine .inr ⟨i, k, text, rfl, fun e' he' => ?_⟩
        cases he' with
        | arity hne => exact absurd hcount hne
        | coercion _ j _ hfails' _ =>
            refine ⟨j, ?_, (coercion?_truncate_eq_error hfails').1⟩
            -- Up to the index and at it every argument is coerced.
            by_contra hj
            rcases Nat.lt_or_eq_of_le (Nat.le_of_not_lt hj) with hlt | rfl
            · obtain ⟨r', hr'⟩ := hbefore j hlt
              cases hfails'.symm.trans hr'
            · cases hfails'.symm.trans hr

end Arguments

section Calls

/-- Behind a call the record has one run more, of this target on these operands. -/
def Dispatched (target : ι) (record : List (Ran ι)) (operands : List Operand)
    (reply : Reply (σ × List (Ran ι)) (Except CallError CallResult)) : Prop :=
  reply.state.2 = record ++ [⟨target, operands⟩]

/-- A call has failed, and nothing was run, changed or reported. -/
def Withheld (s : σ) (record : List (Ran ι)) (e : CallError)
    (reply : Reply (σ × List (Ran ι)) (Except CallError CallResult)) : Prop :=
  reply = .pure (.error e) (s, record)

/-- What a lenient call comes to, compared with a strict one.

* `dispatched`: if the strict call runs the target, the lenient one runs it on the same operands, and
  the whole reply is the same.
* `kept`: if the strict call fails without a run, for another reason than a number, the lenient one
  fails in the same way.
* `relaxed`: if the strict call fails for a number, the lenient one runs the target, or it fails
  without a run and blames the type of an argument further on.
* `unbounded`: the lenient call does not fail for a number, unless the target does. -/
structure Refines (target : ι) (s : σ) (record : List (Ran ι))
    (strict lenient : Reply (σ × List (Ran ι)) (Except CallError CallResult)) : Prop where
  dispatched : ∀ operands, Dispatched target record operands strict → lenient = strict
  kept : ∀ e, Withheld s record e strict → (∀ i k text, e ≠ .argumentOutOfRange i k text) →
    Withheld s record e lenient
  relaxed : ∀ i k text, Withheld s record (.argumentOutOfRange i k text) strict →
    (∃ operands, Dispatched target record operands lenient) ∨
      ∃ j > i, ∃ e, e.Unfit j ∧ Withheld s record e lenient
  unbounded : ∀ i k text, lenient.result = .error (.argumentOutOfRange i k text) →
    ∃ operands, Dispatched target record operands lenient

variable {c : Callable ι} {args : List Value} {operands : List Operand} {e : CallError}

theorem dispatched_of_accepts (run : ι → Invoker σ) (h : c.Accepts args operands) (s : σ)
    (record : List (Ran ι)) :
    Dispatched c.target record operands (c.call (recording run) args (s, record)) := by
  rw [call_of_accepts _ h]
  rfl

theorem withheld_of_refuses (run : ι → Invoker σ) (h : c.Refuses args e) (s : σ)
    (record : List (Ran ι)) : Withheld s record e (c.call (recording run) args (s, record)) :=
  call_of_refuses _ h (s, record)

theorem Withheld.not_dispatched {target : ι} {s : σ} {record : List (Ran ι)}
    {reply : Reply (σ × List (Ran ι)) (Except CallError CallResult)}
    (h : Withheld s record e reply) : ¬ Dispatched target record operands reply := by
  rw [h]
  intro hrecord
  exact absurd (congrArg List.length hrecord) (by simp [Reply.pure])

/-- The error of a call which was withheld. -/
theorem Withheld.error_eq {s : σ} {record : List (Ran ι)} {e' : CallError}
    {reply : Reply (σ × List (Ran ι)) (Except CallError CallResult)}
    (h : Withheld s record e reply) (hresult : reply.result = .error e') : e = e' := by
  rw [h] at hresult
  exact Except.error.inj hresult

/-- A call which is withheld refuses its arguments. -/
theorem Withheld.refuses {run : ι → Invoker σ} {s : σ} {record : List (Ran ι)}
    (h : Withheld s record e (c.call (recording run) args (s, record))) : c.Refuses args e := by
  rcases accepts_or_refuses c args with ⟨operands, haccepts⟩ | ⟨e', hrefuses⟩
  · exact absurd (dispatched_of_accepts run haccepts s record) h.not_dispatched
  · obtain rfl := h.error_eq (congrArg Reply.result (withheld_of_refuses run hrefuses s record))
    exact hrefuses

/-- The arguments decide whether the target is run. -/
theorem dispatched_or_withheld (run : ι → Invoker σ) (c : Callable ι) (args : List Value) (s : σ)
    (record : List (Ran ι)) :
    (∃ operands, Dispatched c.target record operands (c.call (recording run) args (s, record))) ∨
      ∃ e, Withheld s record e (c.call (recording run) args (s, record)) := by
  rcases accepts_or_refuses c args with ⟨operands, haccepts⟩ | ⟨e, hrefuses⟩
  · exact .inl ⟨operands, dispatched_of_accepts run haccepts s record⟩
  · exact .inr ⟨e, withheld_of_refuses run hrefuses s record⟩

/-- On the same operands a call does the same under both policies. -/
theorem call_withPolicy_eq (run : ι → Invoker σ)
    (h : (c.withPolicy .reject).Accepts args operands) (s : σ) :
    (c.withPolicy .truncate).call run args s = (c.withPolicy .reject).call run args s := by
  rw [call_of_accepts run h, call_of_accepts run h.truncate]
  rfl

theorem refines_withPolicy (run : ι → Invoker σ) (c : Callable ι) (args : List Value) (s : σ)
    (record : List (Ran ι)) :
    Refines c.target s record ((c.withPolicy .reject).call (recording run) args (s, record))
      ((c.withPolicy .truncate).call (recording run) args (s, record)) where
  dispatched := by
    intro operands hdispatched
    rcases accepts_or_refuses (c.withPolicy .reject) args with ⟨_, haccepts⟩ | ⟨e, hrefuses⟩
    · exact call_withPolicy_eq (recording run) haccepts (s, record)
    · exact absurd hdispatched (withheld_of_refuses run hrefuses s record).not_dispatched
  kept := by
    intro e hwithheld hother
    rcases hwithheld.refuses.truncate with hsame | ⟨i, k, text, he, -⟩
    · exact withheld_of_refuses run hsame s record
    · exact absurd he (hother i k text)
  relaxed := by
    intro i k text hwithheld
    rcases accepts_or_refuses (c.withPolicy .truncate) args with ⟨operands, haccepts⟩ | ⟨e, hrefuses⟩
    · exact .inl ⟨operands, dispatched_of_accepts run haccepts s record⟩
    · rcases hwithheld.refuses.truncate with hsame | ⟨_, _, _, he, hfurther⟩
      · exact absurd rfl (hsame.ne_outOfRange i k text)
      · cases he
        obtain ⟨j, hj, hunfit⟩ := hfurther e hrefuses
        exact .inr ⟨j, hj, e, hunfit, withheld_of_refuses run hrefuses s record⟩
  unbounded := by
    intro i k text hresult
    rcases accepts_or_refuses (c.withPolicy .truncate) args with ⟨operands, haccepts⟩ | ⟨e, hrefuses⟩
    · exact ⟨operands, dispatched_of_accepts run haccepts s record⟩
    · obtain rfl := (withheld_of_refuses run hrefuses s record).error_eq hresult
      exact absurd rfl (hrefuses.ne_outOfRange i k text)

/-- A call which truncates refines the call which rejects and is the same otherwise, whatever the
target and its state are.

* A record of the runs changes nothing about either call.
* Either call runs the target once on some operands or is withheld.
* The two calls are related as `Refines` says. -/
theorem truncate_refines_reject (run : ι → Invoker σ) (c : Callable ι) (args : List Value) (s : σ)
    (record : List (Ran ι)) :
    (∀ policy, ((c.withPolicy policy).call (recording run) args (s, record)).mapState Prod.fst =
      (c.withPolicy policy).call run args s) ∧
      (∀ policy, (∃ operands, Dispatched c.target record operands
          ((c.withPolicy policy).call (recording run) args (s, record))) ∨
        ∃ e, Withheld s record e ((c.withPolicy policy).call (recording run) args (s, record))) ∧
      Refines c.target s record ((c.withPolicy .reject).call (recording run) args (s, record))
        ((c.withPolicy .truncate).call (recording run) args (s, record)) := by
  refine ⟨fun policy => ?_, fun policy => ?_, refines_withPolicy run c args s record⟩
  · exact call_mapState Prod.fst run (recording run) (fun _ _ _ => rfl) (c.withPolicy policy) args
      (s, record)
  · exact dispatched_or_withheld run (c.withPolicy policy) args s record

end Calls

end Callable

end WasmCall
