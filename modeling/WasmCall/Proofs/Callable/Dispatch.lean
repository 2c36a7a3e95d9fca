import WasmCall.Proofs.Callable.Phases

/-!
# What a call does

A call is determined by its target, which may be anything and may keep a state of its own.  To see
how often it is run and on what, the target is given a record: `recording run` does what `run` does
and writes down every run, with the target and the operands.

* `call_mapState`: a call commutes with every view of the state which the target commutes with, so
  a record changes nothing.
* `Conducted`: what a call may come to, with the record which it leaves behind.  Either the
  arguments are refused and nothing is run, or the target is run once, on the coerced arguments,
  and its error or what becomes of its results is passed on.
* `call_conducted`: a call comes to exactly this.
-/

namespace WasmCall.Callable

variable {ι σ τ : Type}

/-- The target of a call does not run unless the arguments are accepted. -/
theorem call_of_operands_error (run : ι → Invoker σ) {c : Callable ι} {args : List Value}
    {e : CallError} (h : c.operands args = .error e) (s : σ) :
    c.call run args s = .pure (.error e) s := by
  simp only [call, h]

/-- If the arguments are accepted, the target runs on the operands and decides the rest. -/
theorem call_of_operands_ok (run : ι → Invoker σ) {c : Callable ι} {args : List Value}
    {operands : List Operand} (h : c.operands args = .ok operands) (s : σ) :
    c.call run args s =
      ⟨(run c.target operands s).result.bind c.decode, (run c.target operands s).state,
        .dispatching c.name args.length :: (run c.target operands s).events ++
          c.outcomeEvents (run c.target operands s).result⟩ := by
  simp only [call, h]

theorem call_of_refuses (run : ι → Invoker σ) {c : Callable ι} {args : List Value} {e : CallError}
    (h : c.Refuses args e) (s : σ) : c.call run args s = .pure (.error e) s :=
  call_of_operands_error run ((operands_eq_error_iff c args e).2 h) s

theorem call_of_accepts (run : ι → Invoker σ) {c : Callable ι} {args : List Value}
    {operands : List Operand} (h : c.Accepts args operands) (s : σ) :
    c.call run args s =
      ⟨(run c.target operands s).result.bind c.decode, (run c.target operands s).state,
        .dispatching c.name args.length :: (run c.target operands s).events ++
          c.outcomeEvents (run c.target operands s).result⟩ :=
  call_of_operands_ok run ((operands_eq_ok_iff c args operands).2 h) s

/-- A call looks at the state of its target only through the target: if two ways to run targets
agree up to a view of the state, so do the calls. -/
theorem call_mapState (view : τ → σ) (run : ι → Invoker σ) (detailed : ι → Invoker τ)
    (hview : ∀ f operands t,
      (detailed f operands t).mapState view = run f operands (view t))
    (c : Callable ι) (args : List Value) (t : τ) :
    (c.call detailed args t).mapState view = c.call run args (view t) := by
  cases hoperands : c.operands args with
  | error e =>
      rw [call_of_operands_error detailed hoperands, call_of_operands_error run hoperands]
      rfl
  | ok operands =>
      -- The view is used on both sides of the run, but nothing behind it looks at the state.
      rw [call_of_operands_ok detailed hoperands, call_of_operands_ok run hoperands,
        ← hview c.target operands t]
      rfl

/-- A run of a target which was written down. -/
structure Ran (ι : Type) where
  target : ι
  operands : List Operand

/-- Run targets as before, and write down every run behind those which are written down already. -/
def recording (run : ι → Invoker σ) : ι → Invoker (σ × List (Ran ι)) :=
  fun target operands s =>
    (run target operands s.1).mapState fun t => (t, s.2 ++ [⟨target, operands⟩])

/-- What a call may come to, and the record behind it. -/
inductive Conducted (run : ι → Invoker σ) (c : Callable ι) (args : List Value) (s : σ)
    (record : List (Ran ι)) : Reply (σ × List (Ran ι)) (Except CallError CallResult) → Prop
  | refused (e : CallError) (hrefused : c.Refuses args e) :
      Conducted run c args s record ⟨.error e, (s, record), []⟩
  | failed (operands : List Operand) (haccepted : c.Accepts args operands) (e : CallError) (t : σ)
      (events : List Event) (hrun : run c.target operands s = ⟨.error e, t, events⟩) :
      Conducted run c args s record
        ⟨.error e, (t, record ++ [⟨c.target, operands⟩]),
          .dispatching c.name args.length :: events ++ c.outcomeEvents (.error e)⟩
  | returned (operands : List Operand) (haccepted : c.Accepts args operands)
      (values : List Operand) (t : σ) (events : List Event)
      (hrun : run c.target operands s = ⟨.ok values, t, events⟩)
      (result : Except CallError CallResult) (hdelivered : c.Delivers values result) :
      Conducted run c args s record
        ⟨result, (t, record ++ [⟨c.target, operands⟩]), .dispatching c.name args.length :: events⟩

/-- A call comes to something which it may come to. -/
theorem conducted_call (run : ι → Invoker σ) (c : Callable ι) (args : List Value) (s : σ)
    (record : List (Ran ι)) :
    Conducted run c args s record (c.call (recording run) args (s, record)) := by
  rcases accepts_or_refuses c args with ⟨operands, haccepted⟩ | ⟨e, hrefused⟩
  · rw [call_of_accepts _ haccepted]
    cases hrun : run c.target operands s with
    | mk result t events =>
        simp only [recording, hrun, Reply.mapState]
        cases result with
        | error e => exact .failed operands haccepted e t events hrun
        | ok values =>
            have hdelivered := (decode_eq_iff c values _).1 rfl
            have hreturned : Conducted run c args s record _ :=
              .returned operands haccepted values t events hrun _ hdelivered
            simpa [outcomeEvents, Except.bind] using hreturned
  · rw [call_of_refuses _ hrefused]
    exact .refused e hrefused

/-- Whatever a call may come to, it does. -/
theorem Conducted.call_eq {run : ι → Invoker σ} {c : Callable ι} {args : List Value} {s : σ}
    {record : List (Ran ι)} {reply : Reply (σ × List (Ran ι)) (Except CallError CallResult)}
    (h : Conducted run c args s record reply) :
    c.call (recording run) args (s, record) = reply := by
  cases h with
  | refused e hrefused =>
      rw [call_of_refuses _ hrefused]
      rfl
  | failed operands haccepted e t events hrun =>
      rw [call_of_accepts _ haccepted]
      simp only [recording, hrun, Reply.mapState]
      rfl
  | returned operands haccepted values t events hrun result hdelivered =>
      rw [call_of_accepts _ haccepted]
      have hdecode := (decode_eq_iff c values result).2 hdelivered
      simp [recording, hrun, Reply.mapState, outcomeEvents, Except.bind, hdecode]

/-- A call comes to exactly what it may come to, whatever the target and its state are.  In
particular the target runs at most once, and it runs if and only if the arguments are accepted. -/
theorem call_conducted (run : ι → Invoker σ) (c : Callable ι) (args : List Value) (s : σ)
    (record : List (Ran ι)) :
    (c.call (recording run) args (s, record)).mapState Prod.fst = c.call run args s ∧
      ∀ reply, c.call (recording run) args (s, record) = reply ↔
        Conducted run c args s record reply := by
  refine ⟨call_mapState Prod.fst run (recording run) (fun _ _ _ => rfl) c args (s, record), ?_⟩
  intro reply
  constructor
  · rintro rfl
    exact conducted_call run c args s record
  · exact Conducted.call_eq

end WasmCall.Callable
