import WasmCall.Proofs.Instance.Isolation

/-!
# Many callers

Any number of callers may call functions of an instance and read its counters, all at the same
time.  They share the instance, and a lock: who does not have the lock neither changes the instance
nor looks at it.  A call goes through these stages, of which the middle five are under the lock:

* *wanted*, and *converted*: its arguments are values of the machine now,
* *locked*, *refuelled*, *ran*, *recorded*, *raised*: it has the lock, the fuel is full, the
  function has come to an end, this is counted, and the results have their handles,
* *released*, and *returned*: it has let go of the lock, and has built its result.

A call whose arguments are refused goes from *wanted* to *returned*, and one whose fuel cannot be set
from *locked* to *raised*.  Whoever reads the counters takes the lock for this as well.

* `advance`: one step of a call or of a reader.
* `advances_wanted`: all steps of a call, with nothing in between, are `Instance.call`.
* `Crowd`: callers at an instance, and how far each of them has come.
* `Crowd.Run`: what a crowd comes to in steps which the lock admits.
-/

namespace WasmCall.Instance

open Wasm

/-- How far a call has come. -/
inductive CallStage where
  | wanted
  | converted (values : List Val)
  | locked (values : List Val)
  | refuelled (values : List Val)
  | ran (answer : Except CallError (List Val))
  | recorded (answer : Except CallError (List Val))
  | raised (answer : Except CallError (List Operand))
  | released (answer : Except CallError (List Operand))
  | returned (result : Except CallError CallResult)

/-- How far a reader of the counters has come. -/
inductive ReadStage where
  | wanted
  | locked
  | copied (m : Metrics)
  | shown (m : Metrics)

/-- What somebody is about: a call, or to read the counters. -/
inductive Task where
  | call (r : Request) (stage : CallStage)
  | read (stage : ReadStage)

namespace Task

/-- The next step takes the lock. -/
def waits : Task → Bool
  | call _ (.converted _) => true
  | read .wanted => true
  | _ => false

/-- The lock is held. -/
def holds : Task → Bool
  | call _ (.locked _) | call _ (.refuelled _) | call _ (.ran _) => true
  | call _ (.recorded _) | call _ (.raised _) => true
  | read .locked | read (.copied _) => true
  | _ => false

/-- There is nothing left to do. -/
def finished : Task → Bool
  | call _ (.returned _) => true
  | read (.shown _) => true
  | _ => false

end Task

/-- A call which got the lock: the place of its caller's task, and what was asked for. -/
structure Turn where
  index : Nat
  request : Request

variable {M : Machine}

/-- What callers share: the instance with the supply of handles, the lock with the place of the task
which holds it, and, for the record only, the calls which got the lock, in order. -/
structure Shared (M : Machine) where
  session : Session (Instance M)
  lock : Option Nat
  turns : List Turn

/-- Change the instance. -/
def Shared.mapMachine (f : Instance M → Instance M) (w : Shared M) : Shared M :=
  { w with session := ⟨f w.session.machine, w.session.supply⟩ }

/-- The arguments of a call as values for the machine of an instance. -/
def Request.convert (owner : InstanceId) (r : Request) : Except CallError (List Val) :=
  (r.callable.operands r.args).bind (Boundary.lowerAll owner)

/-- The operands for what a machine gave back. -/
def raiseAnswer (owner : InstanceId) (supply : HandleSupply) :
    Except CallError (List Val) → Except CallError (List Operand) × HandleSupply
  | .error e => (.error e, supply)
  | .ok values => Boundary.raiseAll owner supply values

/-- The next step of a call of an instance, which is the task at a place. -/
def advanceCall (owner : InstanceId) (k : Nat) (r : Request) (w : Shared M) :
    CallStage → CallStage × Shared M
  | .wanted =>
    match r.convert owner with
    | .error e => (.returned (.error e), w)
    | .ok values => (.converted values, w)
  | .converted values =>
    (.locked values, { w with lock := some k, turns := w.turns ++ [⟨k, r⟩] })
  | .locked values =>
    match w.session.machine.refuel with
    | .error e => (.raised (.error e), w)
    | .ok full => (.refuelled values, w.mapMachine fun _ => full)
  | .refuelled values =>
    let ran := w.session.machine.run r.callable.target values
    (.ran (ran.result.mapError CallError.ofFault),
      w.mapMachine fun i => { i with store := ran.store })
  | .ran answer => (.recorded answer, w.mapMachine (record · r.elapsed (!answer.isOk)))
  | .recorded answer =>
    let (operands, supply) := raiseAnswer owner w.session.supply answer
    (.raised operands, { w with session := ⟨w.session.machine, supply⟩ })
  | .raised answer => (.released answer, { w with lock := none })
  | .released answer => (.returned (answer.bind r.callable.decode), w)
  | .returned result => (.returned result, w)

/-- The next step of a reader of the counters. -/
def advanceRead (k : Nat) (w : Shared M) : ReadStage → ReadStage × Shared M
  | .wanted => (.locked, { w with lock := some k })
  | .locked => (.copied w.session.machine.metrics, w)
  | .copied m => (.shown m, { w with lock := none })
  | .shown m => (.shown m, w)

/-- The next step of a task. -/
def advance (owner : InstanceId) (k : Nat) (w : Shared M) : Task → Task × Shared M
  | .call r stage =>
    let next := advanceCall owner k r w stage
    (.call r next.1, next.2)
  | .read stage =>
    let next := advanceRead k w stage
    (.read next.1, next.2)

section Whole

variable {s : Session (Instance M)} {r : Request} {values : List Val}

/-- A machine which is refuelled is entered by the two steps of running and recording. -/
theorem enter_eq (i : Instance M) (elapsed : Nat) (f : FunctionRef) (values : List Val) :
    (i.enter elapsed f values).result = (i.run f values).result.mapError CallError.ofFault ∧
      (i.enter elapsed f values).state = record { i with store := (i.run f values).store } elapsed
        (!((i.run f values).result.mapError CallError.ofFault).isOk) := by
  refine ⟨rfl, ?_⟩
  cases hrun : (i.run f values).result <;> simp only [enter, hrun] <;> rfl

/-- Arguments are converted by coercing and by lowering them. -/
theorem Request.convert_eq_ok {owner : InstanceId} (h : r.convert owner = .ok values) :
    ∃ operands, r.callable.operands r.args = .ok operands ∧
      Boundary.lowerAll owner operands = .ok values := by
  unfold convert at h
  cases hoperands : r.callable.operands r.args with
  | error e => rw [hoperands] at h; cases h
  | ok operands =>
      rw [hoperands] at h
      exact ⟨operands, rfl, h⟩

/-- A call whose arguments are not converted has done nothing, in any session. -/
theorem call_of_convert_error {e : CallError} (h : r.convert s.machine.id = .error e) :
    (r.reply s).result = .error e ∧ (r.reply s).state = s := by
  unfold Request.reply call
  cases hoperands : r.callable.operands r.args with
  | error e' =>
      rw [Request.convert, hoperands] at h
      cases h
      rw [callIn_of_operands_error _ hoperands]
      exact ⟨rfl, rfl⟩
  | ok operands =>
      rw [Request.convert, hoperands] at h
      have hlowered : Boundary.lowerAll s.machine.id operands = .error e := h
      rw [callIn_of_lowerAll_error _ hoperands hlowered]
      exact ⟨rfl, rfl⟩

/-- A call whose arguments are converted but whose fuel cannot be set has done nothing either. -/
theorem call_of_refuel_error (h : r.convert s.machine.id = .ok values) {e : CallError}
    (hrefuel : s.machine.refuel = .error e) :
    (r.reply s).result = .error e ∧ (r.reply s).state = s := by
  obtain ⟨operands, hoperands, hlowered⟩ := Request.convert_eq_ok h
  have hentry : (entry r.elapsed).refuel s.machine = .error e := hrefuel
  unfold Request.reply call
  rw [callIn_of_refuel_error _ hoperands hlowered hentry]
  exact ⟨rfl, rfl⟩

/-- A call whose arguments are converted enters the machine with full fuel, and its result is built
out of what that gives back. -/
theorem call_of_refuel_ok (h : r.convert s.machine.id = .ok values) {full : Instance M}
    (hrefuel : s.machine.refuel = .ok full) :
    let ran := full.enter r.elapsed r.callable.target values
    let answer := raiseAnswer s.machine.id s.supply ran.result
    (r.reply s).result = answer.1.bind r.callable.decode ∧
      (r.reply s).state = ⟨ran.state, answer.2⟩ := by
  obtain ⟨operands, hoperands, hlowered⟩ := Request.convert_eq_ok h
  have hentry : (entry r.elapsed).refuel s.machine = .ok full := hrefuel
  unfold Request.reply call
  cases henter : ((entry r.elapsed).enter full r.callable.target values).result with
  | error e =>
      rw [callIn_of_enter_error _ hoperands hlowered hentry henter]
      change (full.enter r.elapsed r.callable.target values).result = .error e at henter
      simp only [henter]
      exact ⟨rfl, rfl⟩
  | ok results =>
      rw [callIn_of_enter_ok _ hoperands hlowered hentry henter]
      change (full.enter r.elapsed r.callable.target values).result = .ok results at henter
      simp only [henter]
      exact ⟨rfl, rfl⟩

/-- So many steps of a call, with nothing in between. -/
def advances (owner : InstanceId) (k : Nat) (r : Request) :
    Nat → CallStage × Shared M → CallStage × Shared M
  | 0, at_ => at_
  | n + 1, at_ => advances owner k r n (advanceCall owner k r at_.2 at_.1)

/-- A call consists of eight steps at most. -/
theorem advances_wanted (k : Nat) (r : Request) (s : Session (Instance M)) (turns : List Turn) :
    advances s.machine.id k r 8 (.wanted, ⟨s, none, turns⟩) =
      (.returned (r.reply s).result,
        ⟨(r.reply s).state, none, turns ++ if (r.convert s.machine.id).isOk then [⟨k, r⟩] else []⟩) := by
  cases hconvert : r.convert s.machine.id with
  | error e =>
      obtain ⟨hresult, hstate⟩ := call_of_convert_error hconvert
      rw [hresult, hstate]
      simp [advances, advanceCall, hconvert, Except.isOk, Except.toBool]
  | ok values =>
      cases hrefuel : s.machine.refuel with
      | error e =>
          obtain ⟨hresult, hstate⟩ := call_of_refuel_error hconvert hrefuel
          rw [hresult, hstate]
          simp [advances, advanceCall, hconvert, hrefuel, Except.isOk, Except.toBool, Except.bind]
      | ok full =>
          obtain ⟨hresult, hstate⟩ := call_of_refuel_ok hconvert hrefuel
          obtain ⟨hanswer, hmachine⟩ := enter_eq full r.elapsed r.callable.target values
          rw [hresult, hstate, hmachine, hanswer]
          simp [advances, advanceCall, hconvert, hrefuel, Except.isOk, Except.toBool,
            Shared.mapMachine]

end Whole

/-- What a caller is about. -/
structure Job where
  caller : Nat
  task : Task

/-- What callers share, and what they are about, in the order in which they have begun. -/
structure Crowd (M : Machine) where
  shared : Shared M
  jobs : List Job

namespace Crowd

/-- What can happen in a crowd: a caller begins a call, or begins to read the counters, or the task
at a place takes its next step. -/
inductive Move where
  | call (caller : Nat) (r : Request)
  | read (caller : Nat)
  | advance (k : Nat)

/-- The crowd behind a move, at an instance. -/
def perform (owner : InstanceId) (y : Crowd M) : Move → Crowd M
  | .call caller r => { y with jobs := y.jobs ++ [⟨caller, .call r .wanted⟩] }
  | .read caller => { y with jobs := y.jobs ++ [⟨caller, .read .wanted⟩] }
  | .advance k =>
    match y.jobs[k]? with
    | none => y
    | some job =>
      let next := Instance.advance owner k y.shared job.task
      ⟨next.2, y.jobs.set k { job with task := next.1 }⟩

/-- A caller is about one thing at a time.  A task takes steps until it is finished, and the one
which takes the lock only while nobody has it. -/
def allows (y : Crowd M) : Move → Bool
  | .call caller _ | .read caller => y.jobs.all fun job => job.caller != caller || job.task.finished
  | .advance k =>
    match y.jobs[k]? with
    | none => false
    | some job => !job.task.finished && (!job.task.waits || y.shared.lock.isNone)

/-- What a crowd comes to, from a session in which nobody has begun anything. -/
inductive Run (start : Session (Instance M)) : Crowd M → Prop
  | start : Run start ⟨⟨start, none, []⟩, []⟩
  | step {y : Crowd M} (hrun : Run start y) (m : Move) (hallowed : y.allows m = true) :
      Run start (y.perform start.machine.id m)

/-- The crowd behind some moves, if all of them are allowed. -/
def follow (owner : InstanceId) : List Move → Crowd M → Option (Crowd M)
  | [], y => some y
  | m :: ms, y => if y.allows m then follow owner ms (y.perform owner m) else none

/-- Allowed moves go on with a run. -/
theorem Run.follow {start : Session (Instance M)} {ms : List Move} {y z : Crowd M}
    (hrun : Run start y) (h : Crowd.follow start.machine.id ms y = some z) : Run start z := by
  induction ms generalizing y with
  | nil =>
      cases h
      exact hrun
  | cons m ms ih =>
      unfold Crowd.follow at h
      split at h
      · rename_i hallowed
        exact ih (hrun.step m hallowed) h
      · cases h

end Crowd

end WasmCall.Instance
