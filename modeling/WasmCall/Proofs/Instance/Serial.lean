import WasmCall.Proofs.Instance.Crowd

/-!
# One call after another

What a crowd of callers does to an instance is what its calls do one after another, in the order in
which they got the lock.

* `Reached`: how far a call has come under the lock, told by the session in which it got the lock.
* `Standing`: where a task stands, told by the calls which got the lock.
* `Sound`: the invariant of all runs, and `Sound.perform`: every move preserves it.
* `Serialized`: what this comes to, and `Run.serialized`.
-/

namespace WasmCall.Instance

open Wasm

variable {M : Machine}

/-- The session behind calls which were made one after another. -/
def through (turns : List Turn) (s : Session (Instance M)) : Session (Instance M) :=
  turns.foldl (fun s t => (t.request.reply s).state) s

section Through

variable {s : Session (Instance M)} {r : Request}

theorem through_append (turns turns' : List Turn) (s : Session (Instance M)) :
    through (turns ++ turns') s = through turns' (through turns s) :=
  List.foldl_append

/-- Behind calls there is the same instance, at a later time. -/
theorem continues_through (turns : List Turn) (s : Session (Instance M)) :
    s.machine.Continues (through turns s).machine := by
  induction turns generalizing s with
  | nil => exact .refl _
  | cons turn turns ih => exact (⟨s, turn.request⟩ : Call M).called.continues.1.trans (ih _)

theorem id_through (turns : List Turn) (s : Session (Instance M)) :
    (through turns s).machine.id = s.machine.id :=
  (continues_through turns s).id

/-- The calls which got the lock, made one after another. -/
def serial (turns : List Turn) (s : Session (Instance M)) : List (Call M) :=
  calls (turns.map Turn.request) s

/-- A call is made behind all those which got the lock before it. -/
theorem getElem?_serial (turns : List Turn) (s : Session (Instance M)) (n : Nat) :
    (serial turns s)[n]? =
      turns[n]?.map fun turn => ⟨through (turns.take n) s, turn.request⟩ := by
  induction turns generalizing s n with
  | nil => rfl
  | cons turn turns ih =>
      cases n with
      | zero => rfl
      | succ n => exact ih _ n

theorem take_serial (n : Nat) (turns : List Turn) (s : Session (Instance M)) :
    (serial turns s).take n = serial (turns.take n) s := by
  induction turns generalizing s n with
  | nil => rw [List.take_nil]; exact List.take_nil
  | cons turn turns ih =>
      cases n with
      | zero => rfl
      | succ n => exact congrArg (List.cons _) (ih n _)

/-- The counters behind calls have what was recorded of each of them. -/
theorem metrics_through (turns : List Turn) (s : Session (Instance M)) :
    (through turns s).machine.metrics =
      s.machine.metrics.recordAll ((serial turns s).flatMap Call.records) := by
  induction turns generalizing s with
  | nil => rfl
  | cons turn turns ih =>
      have hfirst := (⟨s, turn.request⟩ : Call M).metrics_reply
      have hrest := ih (turn.request.reply s).state
      have hrecords : (serial (turn :: turns) s).flatMap Call.records =
          Call.records ⟨s, turn.request⟩ ++
            (serial turns (turn.request.reply s).state).flatMap Call.records := rfl
      rw [hrecords, Metrics.recordAll_append]
      exact hrest.trans (congrArg (fun m => Metrics.recordAll m _) hfirst)

/-- A call whose arguments are converted enters the machine once, unless the fuel cannot be set, which
is then its result. -/
theorem Call.entered_of_convert {a : Call M} {values : List Val}
    (h : a.request.convert a.session.machine.id = .ok values) :
    a.entered.length = 1 ∨ ∃ e, a.session.machine.refuel = .error e ∧ a.entered = [] ∧
      a.reply.result = .error e ∧ a.reply.state = a.session := by
  obtain ⟨operands, hoperands, hlowered⟩ := Request.convert_eq_ok h
  cases hrefuel : a.session.machine.refuel with
  | error e =>
      have hentry :
          (recording (entry a.request.elapsed) a.session.machine.id).refuel
            (a.session.machine, []) = .error e :=
        recording_refuel_error _ _ _ hrefuel
      have hcall : a.recorded = _ := callIn_of_refuel_error _ hoperands hlowered hentry
      rw [← a.recorded_eq_reply, Call.entered, hcall]
      exact .inr ⟨e, rfl, rfl, rfl, rfl⟩
  | ok full =>
      have hentered : a.entered = _ :=
        entered_of_lowerAll hoperands hlowered hrefuel a.session.supply
      rw [hentered]
      exact .inl rfl

end Through

/-- How far a call has come which got the lock in a session, and what it has made of it. -/
inductive Reached (r : Request) (s : Session (Instance M)) : CallStage → Session (Instance M) → Prop
  | locked (values : List Val) (hvalues : r.convert s.machine.id = .ok values) :
      Reached r s (.locked values) s
  | refuelled (values : List Val) (hvalues : r.convert s.machine.id = .ok values)
      (full : Instance M) (hrefuel : s.machine.refuel = .ok full) :
      Reached r s (.refuelled values) ⟨full, s.supply⟩
  | ran (values : List Val) (hvalues : r.convert s.machine.id = .ok values)
      (full : Instance M) (hrefuel : s.machine.refuel = .ok full) :
      Reached r s
        (.ran ((full.run r.callable.target values).result.mapError CallError.ofFault))
        ⟨{ full with store := (full.run r.callable.target values).store }, s.supply⟩
  | recorded (values : List Val) (hvalues : r.convert s.machine.id = .ok values)
      (full : Instance M) (hrefuel : s.machine.refuel = .ok full) :
      Reached r s (.recorded (full.enter r.elapsed r.callable.target values).result)
        ⟨(full.enter r.elapsed r.callable.target values).state, s.supply⟩
  | raised (answer : Except CallError (List Operand))
      (hresult : answer.bind r.callable.decode = (r.reply s).result) :
      Reached r s (.raised answer) (r.reply s).state

/-- A call under the lock takes its next step. -/
theorem Reached.advance {r : Request} {s t : Session (Instance M)} {stage : CallStage}
    (h : Reached r s stage t) (hraised : ∀ answer, stage ≠ .raised answer) (k : Nat) (w : Shared M)
    (hsession : w.session = t) :
    Reached r s (advanceCall s.machine.id k r w stage).1
        (advanceCall s.machine.id k r w stage).2.session ∧
      (advanceCall s.machine.id k r w stage).2.lock = w.lock ∧
      (advanceCall s.machine.id k r w stage).2.turns = w.turns := by
  subst hsession
  obtain ⟨session, lock, turns⟩ := w
  cases h with
  | locked values hvalues =>
      cases hrefuel : session.machine.refuel with
      | error e =>
          -- There is nothing to run, so the stages in between are left out.
          obtain ⟨hresult, hstate⟩ := call_of_refuel_error hvalues hrefuel
          have hstep := Reached.raised (r := r) (s := session) (.error e) hresult.symm
          rw [hstate] at hstep
          have hnext : advanceCall session.machine.id k r ⟨session, lock, turns⟩ (.locked values) =
              (.raised (.error e), ⟨session, lock, turns⟩) := by
            simp only [advanceCall, hrefuel]
          rw [hnext]
          exact ⟨hstep, rfl, rfl⟩
      | ok full =>
          have hnext : advanceCall session.machine.id k r ⟨session, lock, turns⟩ (.locked values) =
              (.refuelled values, ⟨⟨full, session.supply⟩, lock, turns⟩) := by
            simp only [advanceCall, hrefuel, Shared.mapMachine]
          rw [hnext]
          exact ⟨.refuelled values hvalues full hrefuel, rfl, rfl⟩
  | refuelled values hvalues full hrefuel => exact ⟨.ran values hvalues full hrefuel, rfl, rfl⟩
  | ran values hvalues full hrefuel =>
      refine ⟨?_, rfl, rfl⟩
      obtain ⟨hanswer, hmachine⟩ := enter_eq full r.elapsed r.callable.target values
      have hrecorded := Reached.recorded (r := r) (s := s) values hvalues full hrefuel
      rw [hanswer, hmachine] at hrecorded
      exact hrecorded
  | recorded values hvalues full hrefuel =>
      -- From here on the session is the one behind the whole call.
      refine ⟨?_, rfl, rfl⟩
      obtain ⟨hresult, hstate⟩ := call_of_refuel_ok hvalues hrefuel
      have hstep := Reached.raised (r := r) (s := s) _ hresult.symm
      rw [hstate] at hstep
      exact hstep
  | raised answer hresult => exact absurd rfl (hraised answer)

/-- Where the task at a place stands, in a crowd which started in a session.

* `wanted`, `converted`, `refused`: a call which has not had the lock.
* `inside`: the call which has the lock, and which was the last to get it.
* `released`, `returned`: a call which got the lock behind so many others, and what came of it.
* `waiting`, `reading`, `copied`, `shown`: a reader.  It sees the counters behind so many calls. -/
inductive Standing (start : Session (Instance M)) (w : Shared M) (k : Nat) : Task → Prop
  | wanted (r : Request) (hnew : k ∉ w.turns.map Turn.index) : Standing start w k (.call r .wanted)
  | converted (r : Request) (hnew : k ∉ w.turns.map Turn.index) (values : List Val)
      (hvalues : r.convert start.machine.id = .ok values) :
      Standing start w k (.call r (.converted values))
  | refused (r : Request) (hnew : k ∉ w.turns.map Turn.index) (e : CallError)
      (herror : r.convert start.machine.id = .error e) :
      Standing start w k (.call r (.returned (.error e)))
  | inside (r : Request) (stage : CallStage) (front : List Turn) (hlock : w.lock = some k)
      (hturns : w.turns = front ++ [⟨k, r⟩])
      (hreached : Reached r (through front start) stage w.session) :
      Standing start w k (.call r stage)
  | released (r : Request) (answer : Except CallError (List Operand)) (n : Nat)
      (hturn : w.turns[n]? = some ⟨k, r⟩)
      (hresult : answer.bind r.callable.decode = (r.reply (through (w.turns.take n) start)).result) :
      Standing start w k (.call r (.released answer))
  | returned (r : Request) (result : Except CallError CallResult) (n : Nat)
      (hturn : w.turns[n]? = some ⟨k, r⟩)
      (hresult : result = (r.reply (through (w.turns.take n) start)).result) :
      Standing start w k (.call r (.returned result))
  | waiting : Standing start w k (.read .wanted)
  | reading (hlock : w.lock = some k) (hsession : w.session = through w.turns start) :
      Standing start w k (.read .locked)
  | copied (hlock : w.lock = some k) (hsession : w.session = through w.turns start) :
      Standing start w k (.read (.copied w.session.machine.metrics))
  | shown (n : Nat) (hn : n ≤ w.turns.length) :
      Standing start w k (.read (.shown (through (w.turns.take n) start).machine.metrics))

section Standing

variable {start : Session (Instance M)} {w w' : Shared M} {k j : Nat} {task : Task}

/-- Who does not have the lock is where it was, whatever the one who has it does. -/
theorem Standing.other (h : Standing start w j task) (hlock : w.lock ≠ some j) (more : List Turn)
    (hturns : w'.turns = w.turns ++ more) (hmore : j ∉ more.map Turn.index) :
    Standing start w' j task := by
  have hnew : j ∉ w.turns.map Turn.index → j ∉ w'.turns.map Turn.index := by
    intro hold
    rw [hturns, List.map_append, List.mem_append]
    rintro (hmem | hmem)
    · exact hold hmem
    · exact hmore hmem
  -- Turns of before keep their places, and so does what came of the calls in front of them.
  have htake : ∀ n ≤ w.turns.length, w'.turns.take n = w.turns.take n := by
    intro n hn
    rw [hturns, List.take_append_of_le_length hn]
  have hget : ∀ (n : Nat) (turn : Turn), w.turns[n]? = some turn →
      n ≤ w.turns.length ∧ w'.turns[n]? = some turn := by
    intro n turn hturn
    have hlt := (List.getElem?_eq_some_iff.1 hturn).1
    rw [hturns, List.getElem?_append_left hlt]
    exact ⟨Nat.le_of_lt hlt, hturn⟩
  cases h with
  | wanted r hold => exact .wanted r (hnew hold)
  | converted r hold values hvalues => exact .converted r (hnew hold) values hvalues
  | refused r hold e herror => exact .refused r (hnew hold) e herror
  | inside r stage front hheld => exact absurd hheld hlock
  | released r answer n hturn hresult =>
      obtain ⟨hn, hturn'⟩ := hget n _ hturn
      exact .released r answer n hturn' (by rw [htake n hn]; exact hresult)
  | returned r result n hturn hresult =>
      obtain ⟨hn, hturn'⟩ := hget n _ hturn
      exact .returned r result n hturn' (by rw [htake n hn]; exact hresult)
  | waiting => exact .waiting
  | reading hheld => exact absurd hheld hlock
  | copied hheld => exact absurd hheld hlock
  | shown n hn =>
      rw [← htake n hn]
      refine .shown n ?_
      rw [hturns, List.length_append]
      omega

/-- What a step of the task at a place comes to.

* `held`: the lock is held by whoever has held it before, or by the task.
* `others`: the tasks at other places stand where they stood.
* `turns`: at most this task has got the lock, for the first time, and for converted arguments.
* `kept`: a call goes on with what was asked for. -/
structure Stepped (start : Session (Instance M)) (k : Nat) (w w' : Shared M) (task task' : Task) :
    Prop where
  standing : Standing start w' k task'
  free : w'.lock = none → w'.session = through w'.turns start
  held : ∀ j, w'.lock = some j → (j = k ∧ task'.holds = true) ∨ (j ≠ k ∧ w.lock = some j)
  others : ∀ j ≠ k, ∀ other, Standing start w j other → Standing start w' j other
  turns : w'.turns = w.turns ∨ ∃ r stage, task' = .call r stage ∧ k ∉ w.turns.map Turn.index ∧
    (∃ values, r.convert start.machine.id = .ok values) ∧ w'.turns = w.turns ++ [⟨k, r⟩]
  kept : ∀ r stage, task = .call r stage → ∃ stage', task' = .call r stage'

/-- A step which nobody else notices. -/
theorem Stepped.quiet {task' : Task} (hstanding : Standing start w k task')
    (hfree : w.lock = none → w.session = through w.turns start) (hother : w.lock ≠ some k)
    (hkept : ∀ r stage, task = .call r stage → ∃ stage', task' = .call r stage') :
    Stepped start k w w task task' where
  standing := hstanding
  free := hfree
  held := fun _ hj => .inr ⟨fun h => hother (h ▸ hj), hj⟩
  others := fun _ _ _ h => h
  turns := .inl rfl
  kept := hkept

/-- A step under the lock, which is kept. -/
theorem Stepped.locked {task' : Task} (hheld : w.lock = some k)
    (hstanding : Standing start w' k task') (hlock : w'.lock = w.lock) (hturns : w'.turns = w.turns)
    (hholds : task'.holds = true)
    (hkept : ∀ r stage, task = .call r stage → ∃ stage', task' = .call r stage') :
    Stepped start k w w' task task' where
  standing := hstanding
  free := by simp [hlock, hheld]
  held := by
    intro _ hj
    rw [hlock, hheld] at hj
    cases hj
    exact .inl ⟨rfl, hholds⟩
  others := by
    intro j hne other hother
    refine hother.other (by simp [hheld, Ne.symm hne]) [] ?_ (by simp)
    rw [hturns, List.append_nil]
  turns := .inl hturns
  kept := hkept

/-- A step which lets go of the lock. -/
theorem Stepped.unlocked {task' : Task} (hheld : w.lock = some k)
    (hsession : w.session = through w.turns start)
    (hstanding : Standing start { w with lock := none } k task')
    (hkept : ∀ r stage, task = .call r stage → ∃ stage', task' = .call r stage') :
    Stepped start k w { w with lock := none } task task' where
  standing := hstanding
  free := fun _ => hsession
  held := by simp
  others := by
    intro j hne other hother
    exact hother.other (by simp [hheld, Ne.symm hne]) [] (by simp) (by simp)
  turns := .inl rfl
  kept := hkept

theorem Reached.holds {r : Request} {s t : Session (Instance M)} {stage : CallStage}
    (h : Reached r s stage t) : (Task.call r stage).holds = true := by
  cases h <;> rfl

theorem Reached.session_of_raised {r : Request} {s t : Session (Instance M)}
    {answer : Except CallError (List Operand)} (h : Reached r s (.raised answer) t) :
    t = (r.reply s).state ∧ answer.bind r.callable.decode = (r.reply s).result := by
  cases h with
  | raised _ hresult => exact ⟨rfl, hresult⟩

/-- A call whose arguments were converted takes the lock. -/
theorem stepped_converted {r : Request} (hnew : k ∉ w.turns.map Turn.index) {values : List Val}
    (hvalues : r.convert start.machine.id = .ok values) (hnone : w.lock = none)
    (hfree : w.session = through w.turns start) :
    Stepped start k w (advance start.machine.id k w (.call r (.converted values))).2
      (.call r (.converted values))
      (advance start.machine.id k w (.call r (.converted values))).1 := by
  have hreached : Reached r (through w.turns start) (.locked values) w.session := by
    rw [hfree]
    exact .locked values (by rw [id_through]; exact hvalues)
  refine ⟨.inside r _ w.turns rfl rfl hreached, by simp [advance, advanceCall], ?_, ?_, ?_, ?_⟩
  · intro j hj
    cases hj
    exact .inl ⟨rfl, rfl⟩
  · intro j hne other hstands
    exact hstands.other (by simp [hnone]) [⟨k, r⟩] rfl (by simp [hne])
  · exact .inr ⟨r, _, rfl, hnew, ⟨values, hvalues⟩, rfl⟩
  · rintro r' stage' heq
    cases heq
    exact ⟨_, rfl⟩

/-- A call under the lock goes on, and lets go of the lock once its results have their handles. -/
theorem stepped_inside {r : Request} {stage : CallStage} {front : List Turn}
    (hlock : w.lock = some k) (hturns : w.turns = front ++ [⟨k, r⟩])
    (hreached : Reached r (through front start) stage w.session) :
    Stepped start k w (advance start.machine.id k w (.call r stage)).2 (.call r stage)
      (advance start.machine.id k w (.call r stage)).1 := by
  have hkept : ∀ r' stage', Task.call r stage = .call r' stage' →
      ∃ stage'', (advance start.machine.id k w (.call r stage)).1 = .call r' stage'' := by
    rintro r' stage' heq
    cases heq
    exact ⟨_, rfl⟩
  by_cases hraised : ∃ answer, stage = .raised answer
  · obtain ⟨answer, rfl⟩ := hraised
    obtain ⟨hsession, hresult⟩ := hreached.session_of_raised
    refine .unlocked hlock ?_ ?_ hkept
    · rw [hsession, hturns, through_append]
      rfl
    · refine .released r answer front.length ?_ ?_
      · rw [hturns, List.getElem?_append_right (Nat.le_refl _), Nat.sub_self]
        rfl
      · rw [hturns, List.take_left']
        · exact hresult
        · rfl
  · have hstep := hreached.advance (fun answer h => hraised ⟨answer, h⟩) k w rfl
    rw [id_through] at hstep
    obtain ⟨hreached', hlock', hturns'⟩ := hstep
    refine .locked hlock ?_ hlock' hturns' hreached'.holds hkept
    exact .inside r _ front (hlock'.trans hlock) (hturns'.trans hturns) hreached'

/-- What one step of a task does. -/
theorem stepped_advance (hstanding : Standing start w k task)
    (hfree : w.lock = none → w.session = through w.turns start)
    (hheld : w.lock = some k → task.holds = true) (hwaits : task.waits = true → w.lock = none) :
    Stepped start k w (advance start.machine.id k w task).2 task
      (advance start.machine.id k w task).1 := by
  have hkept : ∀ r stage, task = .call r stage →
      ∃ stage', (advance start.machine.id k w task).1 = .call r stage' := by
    rintro r stage rfl
    exact ⟨_, rfl⟩
  have hother : task.holds = false → w.lock ≠ some k := by
    intro hno hlock
    rw [hheld hlock] at hno
    cases hno
  -- Only who takes the lock or has it changes what is shared.
  cases hstanding with
  | wanted r hnew =>
      cases hconvert : r.convert start.machine.id with
      | error e =>
          simp only [advance, advanceCall, hconvert] at hkept ⊢
          exact .quiet (.refused r hnew e hconvert) hfree (hother rfl) hkept
      | ok values =>
          simp only [advance, advanceCall, hconvert] at hkept ⊢
          exact .quiet (.converted r hnew values hconvert) hfree (hother rfl) hkept
  | converted r hnew values hvalues =>
      have hnone := hwaits rfl
      exact stepped_converted hnew hvalues hnone (hfree hnone)
  | refused r hnew e herror => exact .quiet (.refused r hnew e herror) hfree (hother rfl) hkept
  | inside r stage front hlock hturns hreached =>
      exact stepped_inside hlock hturns hreached
  | released r answer n hturn hresult =>
      exact .quiet (.returned r _ n hturn hresult) hfree (hother rfl) hkept
  | returned r result n hturn hresult =>
      exact .quiet (.returned r result n hturn hresult) hfree (hother rfl) hkept
  | waiting =>
      have hnone := hwaits rfl
      refine ⟨.reading rfl (hfree hnone), by simp [advance, advanceRead], ?_, ?_, .inl rfl, hkept⟩
      · intro j hj
        cases hj
        exact .inl ⟨rfl, rfl⟩
      · intro j hne other hstands
        exact hstands.other (by simp [hnone]) [] (List.append_nil _).symm (by simp)
  | reading hlock hsession =>
      exact .locked hlock (.copied hlock hsession) rfl rfl rfl hkept
  | copied hlock hsession =>
      -- What was copied are the counters behind all turns so far.
      refine .unlocked hlock hsession ?_ hkept
      have hshown : Standing start { w with lock := none } k
          (.read (.shown (through (w.turns.take w.turns.length) start).machine.metrics)) :=
        .shown w.turns.length (Nat.le_refl _)
      rw [List.take_length, ← hsession] at hshown
      exact hshown
  | shown n hn => exact .quiet (.shown n hn) hfree (hother rfl) hkept

end Standing

namespace Crowd

/-- The invariant of a run.

* `standing`: every task stands somewhere.
* `free`: while nobody has the lock, the session is the one behind all calls which got it.
* `held`: whoever has the lock is at a stage which holds it.
* `turns`, `distinct`, `converted`: the calls which got the lock are tasks of callers, each of them
  once, and their arguments were converted. -/
structure Sound (start : Session (Instance M)) (y : Crowd M) : Prop where
  standing : ∀ k job, y.jobs[k]? = some job → Standing start y.shared k job.task
  free : y.shared.lock = none → y.shared.session = through y.shared.turns start
  held : ∀ k, y.shared.lock = some k → ∃ job, y.jobs[k]? = some job ∧ job.task.holds = true
  turns : ∀ turn ∈ y.shared.turns, ∃ job stage,
    y.jobs[turn.index]? = some job ∧ job.task = .call turn.request stage
  distinct : (y.shared.turns.map Turn.index).Nodup
  converted : ∀ turn ∈ y.shared.turns, ∃ values,
    turn.request.convert start.machine.id = .ok values

variable {start : Session (Instance M)} {y : Crowd M}

theorem sound_start (start : Session (Instance M)) : Sound start ⟨⟨start, none, []⟩, []⟩ :=
  ⟨by simp, fun _ => rfl, by simp, by simp, by simp, by simp⟩

/-- The place of a task which has just begun is that of no turn. -/
theorem Sound.length_not_mem (hs : Sound start y) :
    y.jobs.length ∉ y.shared.turns.map Turn.index := by
  intro hmem
  obtain ⟨turn, hturn, hindex⟩ := List.mem_map.1 hmem
  obtain ⟨job, stage, hjob, -⟩ := hs.turns turn hturn
  have hlt := (List.getElem?_eq_some_iff.1 hjob).1
  omega

/-- A caller begins something. -/
theorem Sound.begin (hs : Sound start y) {job : Job}
    (hnew : Standing start y.shared y.jobs.length job.task) :
    Sound start { y with jobs := y.jobs ++ [job] } where
  standing := by
    intro k other hother
    rw [List.getElem?_append] at hother
    split at hother
    · exact hs.standing k other hother
    · rename_i hge
      have hk : k = y.jobs.length := by
        have hlt := (List.getElem?_eq_some_iff.1 hother).1
        rw [List.length_singleton] at hlt
        omega
      subst hk
      obtain rfl : job = other := by simpa using hother
      exact hnew
  free := hs.free
  held := by
    intro k hk
    obtain ⟨other, hother, hholds⟩ := hs.held k hk
    refine ⟨other, ?_, hholds⟩
    rw [List.getElem?_append_left (List.getElem?_eq_some_iff.1 hother).1]
    exact hother
  turns := by
    intro turn hturn
    obtain ⟨other, stage, hother, hstage⟩ := hs.turns turn hturn
    refine ⟨other, stage, ?_, hstage⟩
    rw [List.getElem?_append_left (List.getElem?_eq_some_iff.1 hother).1]
    exact hother
  distinct := hs.distinct
  converted := hs.converted

/-- The task at a place takes a step. -/
theorem Sound.advance (hs : Sound start y) {k : Nat} {job : Job} (hjob : y.jobs[k]? = some job)
    {w : Shared M} {task : Task} (hstep : Stepped start k y.shared w job.task task) :
    Sound start ⟨w, y.jobs.set k { job with task := task }⟩ := by
  have hlt := (List.getElem?_eq_some_iff.1 hjob).1
  have hself : (y.jobs.set k { job with task := task })[k]? = some { job with task := task } :=
    List.getElem?_set_self hlt
  have hother : ∀ j ≠ k, (y.jobs.set k { job with task := task })[j]? = y.jobs[j]? :=
    fun j hne => List.getElem?_set_ne (Ne.symm hne)
  -- A turn of before goes on as the call which it was.
  have hturns : ∀ turn ∈ y.shared.turns, ∃ job' stage,
      (y.jobs.set k { job with task := task })[turn.index]? = some job' ∧
        job'.task = .call turn.request stage := by
    intro turn hturn
    obtain ⟨job', stage, hjob', hstage⟩ := hs.turns turn hturn
    by_cases hindex : turn.index = k
    · rw [hindex, hjob] at hjob'
      cases hjob'
      obtain ⟨stage', hstage'⟩ := hstep.kept _ _ hstage
      exact ⟨_, stage', by rw [hindex, hself], hstage'⟩
    · exact ⟨job', stage, by rw [hother _ hindex, hjob'], hstage⟩
  refine ⟨?_, hstep.free, ?_, ?_, ?_, ?_⟩
  · intro j job' hjob'
    by_cases hj : j = k
    · subst hj
      rw [hself] at hjob'
      cases hjob'
      exact hstep.standing
    · rw [hother j hj] at hjob'
      exact hstep.others j hj _ (hs.standing j job' hjob')
  · intro j hj
    rcases hstep.held j hj with ⟨rfl, hholds⟩ | ⟨hne, hold⟩
    · exact ⟨_, hself, hholds⟩
    · rw [hother j hne]
      exact hs.held j hold
  · intro turn hturn
    rcases hstep.turns with hsame | ⟨r, stage, htask, -, -, hmore⟩
    · exact hturns turn (hsame ▸ hturn)
    · rw [hmore, List.mem_append, List.mem_singleton] at hturn
      rcases hturn with hold | rfl
      · exact hturns turn hold
      · exact ⟨_, stage, hself, htask⟩
  · rcases hstep.turns with hsame | ⟨r, stage, -, hnew, -, hmore⟩
    · rw [hsame]
      exact hs.distinct
    · rw [hmore, List.map_append, List.nodup_append]
      refine ⟨hs.distinct, by simp, ?_⟩
      rintro a ha b hb rfl
      obtain rfl : a = k := by simpa using hb
      exact hnew ha
  · intro turn hturn
    rcases hstep.turns with hsame | ⟨r, stage, -, -, hconverted, hmore⟩
    · exact hs.converted turn (hsame ▸ hturn)
    · rw [hmore, List.mem_append, List.mem_singleton] at hturn
      rcases hturn with hold | rfl
      · exact hs.converted turn hold
      · exact hconverted

/-- Every move which is allowed preserves the invariant. -/
theorem Sound.perform (hs : Sound start y) {m : Move} (hallowed : y.allows m = true) :
    Sound start (y.perform start.machine.id m) := by
  cases m with
  | call caller r => exact hs.begin (.wanted r hs.length_not_mem)
  | read caller => exact hs.begin .waiting
  | advance k =>
      cases hjob : y.jobs[k]? with
      | none => simp [allows, hjob] at hallowed
      | some job =>
          have hfree : job.task.waits = true → y.shared.lock = none := by
            intro hwaits
            simp only [allows, hjob, hwaits, Bool.and_eq_true, Bool.not_true, Bool.false_or,
              Option.isNone_iff_eq_none] at hallowed
            exact hallowed.2
          have hheld : y.shared.lock = some k → job.task.holds = true := by
            intro hlock
            obtain ⟨job', hjob', hholds⟩ := hs.held k hlock
            rw [hjob] at hjob'
            cases hjob'
            exact hholds
          have hstep := stepped_advance (hs.standing k job hjob) hs.free hheld hfree
          simp only [Crowd.perform, hjob]
          exact hs.advance hjob hstep

/-- The invariant holds of every run. -/
theorem Run.sound (hrun : Run start y) : Sound start y := by
  induction hrun with
  | start => exact sound_start start
  | step _ m hallowed ih => exact ih.perform hallowed

/-- A crowd does what its calls do one after another, in the order in which they got the lock.

* `turns`, `once`: a turn is a call of some caller, and no call has two of them.
* `exclusive`: only one task at a time is at a stage which holds the lock.
* `results`: a call which has returned either had a turn, and its result is the one which it has
  when the calls are made one after another; or it had none, and its arguments are refused at any
  time.
* `ended`, `counted`: while nobody has the lock, the session is the one behind these calls, and the
  counters have one record of each of them.
* `entered`: each of these calls enters the machine once and has one record, unless fuel cannot be
  set.  Then it has no record, and leaves everything as it is.
* `refuelled`: it does so with the whole budget, and is charged for what it uses of that.
* `fuelled`: the whole budget is there when a call is about to run, whatever others have left of it.
* `copied`: a reader copies the counters with the records of all calls which had a turn until then.
* `reads`: so what it shows are the counters with the records of so many whole calls. -/
structure Serialized (start : Session (Instance M)) (y : Crowd M) : Prop where
  turns : ∀ turn ∈ y.shared.turns, ∃ job stage,
    y.jobs[turn.index]? = some job ∧ job.task = .call turn.request stage
  once : (y.shared.turns.map Turn.index).Nodup
  exclusive : ∀ (k : Nat) (job : Job), y.jobs[k]? = some job → job.task.holds = true →
    y.shared.lock = some k
  results : ∀ (k : Nat) (job : Job) (r : Request) (result : Except CallError CallResult),
    y.jobs[k]? = some job → job.task = .call r (.returned result) →
      (∃ (n : Nat) (a : Call M), y.shared.turns[n]? = some ⟨k, r⟩ ∧
        (serial y.shared.turns start)[n]? = some a ∧ a.request = r ∧ a.reply.result = result) ∨
      (k ∉ y.shared.turns.map Turn.index ∧ ∀ s : Session (Instance M),
        s.machine.id = start.machine.id → (r.reply s).result = result ∧ (r.reply s).state = s)
  ended : (∀ job ∈ y.jobs, job.task.holds = false) →
    y.shared.session = through y.shared.turns start
  counted : (∀ job ∈ y.jobs, job.task.holds = false) →
    y.shared.session.machine.metrics =
      start.machine.metrics.recordAll ((serial y.shared.turns start).flatMap Call.records)
  entered : ∀ a ∈ serial y.shared.turns start, (a.entered.length = 1 ∧ a.records.length = 1) ∨
    ∃ e, a.session.machine.refuel = .error e ∧ a.entered = [] ∧ a.records = [] ∧
      a.reply.result = .error e ∧ a.reply.state = a.session
  refuelled : ∀ a ∈ serial y.shared.turns start, Refuelled start.machine.budget a
  fuelled : ∀ (k : Nat) (job : Job) (r : Request) (values : List Val), y.jobs[k]? = some job →
    job.task = .call r (.refuelled values) → ∀ n, start.machine.budget = some n →
      M.fuel y.shared.session.machine.store = .ok n
  copied : ∀ (k : Nat) (job : Job) (m : Metrics), y.jobs[k]? = some job →
    job.task = .read (.copied m) →
      m = start.machine.metrics.recordAll ((serial y.shared.turns start).flatMap Call.records)
  reads : ∀ (k : Nat) (job : Job) (m : Metrics), y.jobs[k]? = some job →
    job.task = .read (.shown m) →
      ∃ n ≤ y.shared.turns.length, m = start.machine.metrics.recordAll
        (((serial y.shared.turns start).take n).flatMap Call.records)

namespace Sound

variable {k : Nat} {job : Job} {r : Request}

/-- The result of a call is that of its turn, or its arguments are refused. -/
theorem result_cases (hs : Sound start y) {result : Except CallError CallResult}
    (hjob : y.jobs[k]? = some job) (htask : job.task = .call r (.returned result)) :
    (∃ (n : Nat) (a : Call M), y.shared.turns[n]? = some ⟨k, r⟩ ∧
      (serial y.shared.turns start)[n]? = some a ∧ a.request = r ∧ a.reply.result = result) ∨
    (k ∉ y.shared.turns.map Turn.index ∧ ∀ s : Session (Instance M),
      s.machine.id = start.machine.id → (r.reply s).result = result ∧ (r.reply s).state = s) := by
  have hstanding := hs.standing k job hjob
  rw [htask] at hstanding
  cases hstanding with
  | refused _ hnew e herror =>
      refine .inr ⟨hnew, ?_⟩
      intro s hid
      exact call_of_convert_error (by rw [hid]; exact herror)
  | inside _ _ front hlock hturns hreached => cases hreached
  | returned _ _ n hturn hresult =>
      refine .inl ⟨n, ⟨through (y.shared.turns.take n) start, r⟩, hturn, ?_, rfl, hresult.symm⟩
      rw [getElem?_serial, hturn]
      rfl

/-- The lock is free if no task holds it. -/
theorem lock_eq_none (hs : Sound start y) (hfree : ∀ job ∈ y.jobs, job.task.holds = false) :
    y.shared.lock = none := by
  cases hlock : y.shared.lock with
  | none => rfl
  | some k =>
      obtain ⟨job, hjob, hholds⟩ := hs.held k hlock
      rw [hfree job (List.mem_of_getElem? hjob)] at hholds
      cases hholds

/-- Every call which got the lock enters the machine, unless fuel cannot be set. -/
theorem entered_serial (hs : Sound start y) {a : Call M}
    (ha : a ∈ serial y.shared.turns start) :
    a.entered.length = 1 ∨ ∃ e, a.session.machine.refuel = .error e ∧ a.entered = [] ∧
      a.reply.result = .error e ∧ a.reply.state = a.session := by
  obtain ⟨n, hn⟩ := List.getElem?_of_mem ha
  rw [getElem?_serial, Option.map_eq_some_iff] at hn
  obtain ⟨turn, hturn, rfl⟩ := hn
  obtain ⟨values, hvalues⟩ := hs.converted turn (List.mem_of_getElem? hturn)
  exact Call.entered_of_convert (by rw [id_through]; exact hvalues)

/-- A call which is about to run has the whole budget. -/
theorem fuel_of_refuelled (hs : Sound start y) (hoverwrites : M.Overwrites)
    (hstart : M.Running start.machine.budget.isSome start.machine.linked start.machine.store)
    {values : List Val} (hjob : y.jobs[k]? = some job)
    (htask : job.task = .call r (.refuelled values)) {n : UInt64}
    (hn : start.machine.budget = some n) :
    M.fuel y.shared.session.machine.store = .ok n := by
  have hstanding := hs.standing k job hjob
  rw [htask] at hstanding
  cases hstanding with
  | inside _ _ front hlock hturns hreached =>
      have hcontinues := continues_through front start
      have hrunning := hcontinues.running _ hstart
      rw [← hcontinues.budget, ← hcontinues.linked] at hrunning
      generalize y.shared.session = session at hreached
      cases hreached with
      | refuelled _ hvalues full hrefuel =>
          have hbudget := hcontinues.budget.trans hn
          exact ((refuel_full hoverwrites hrunning hrefuel).1 n hbudget).2

theorem lock_of_holds (hs : Sound start y) (hjob : y.jobs[k]? = some job)
    (hholds : job.task.holds = true) : y.shared.lock = some k := by
  have hstanding := hs.standing k job hjob
  generalize job.task = task at hstanding hholds
  cases hstanding with
  | inside r stage front hlock => exact hlock
  | reading hlock => exact hlock
  | copied hlock => exact hlock
  | _ => cases hholds

theorem metrics_of_copied (hs : Sound start y) {m : Metrics} (hjob : y.jobs[k]? = some job)
    (htask : job.task = .read (.copied m)) :
    m = start.machine.metrics.recordAll ((serial y.shared.turns start).flatMap Call.records) := by
  have hstanding := hs.standing k job hjob
  rw [htask] at hstanding
  cases hstanding with
  | copied hlock hsession => rw [hsession, metrics_through]

theorem reads_of_shown (hs : Sound start y) {m : Metrics} (hjob : y.jobs[k]? = some job)
    (htask : job.task = .read (.shown m)) :
    ∃ n ≤ y.shared.turns.length, m = start.machine.metrics.recordAll
      (((serial y.shared.turns start).take n).flatMap Call.records) := by
  have hstanding := hs.standing k job hjob
  rw [htask] at hstanding
  cases hstanding with
  | shown n hn => exact ⟨n, hn, by rw [metrics_through, take_serial]⟩

end Sound

/-- In every run of a crowd at an instance, whichever way the steps of its callers fall together,
the calls which got the lock were made one after another. -/
theorem Run.serialized (hrun : Run start y) (hoverwrites : M.Overwrites)
    (hstart : M.Running start.machine.budget.isSome start.machine.linked start.machine.store) :
    Serialized start y where
  turns := hrun.sound.turns
  once := hrun.sound.distinct
  exclusive := fun _ _ hjob hholds => hrun.sound.lock_of_holds hjob hholds
  results := fun _ _ _ _ hjob htask => hrun.sound.result_cases hjob htask
  ended := fun hfree => hrun.sound.free (hrun.sound.lock_eq_none hfree)
  counted := by
    intro hfree
    rw [hrun.sound.free (hrun.sound.lock_eq_none hfree)]
    exact metrics_through _ _
  entered := by
    intro a ha
    rcases hrun.sound.entered_serial ha with honce | ⟨e, hrefuel, hnone, hresult, hstate⟩
    · exact .inl ⟨honce, by rw [Call.records, List.length_map, honce]⟩
    · exact .inr ⟨e, hrefuel, hnone, by rw [Call.records, hnone, List.map_nil], hresult, hstate⟩
  refuelled := refuelled_calls hoverwrites _ rfl hstart
  fuelled := fun _ _ _ _ hjob htask _ hn =>
    hrun.sound.fuel_of_refuelled hoverwrites hstart hjob htask hn
  copied := fun _ _ _ hjob htask => hrun.sound.metrics_of_copied hjob htask
  reads := fun _ _ _ hjob htask => hrun.sound.reads_of_shown hjob htask

section Bustle

/-- A module with a function which gives back a reference to itself. -/
def tickModule : CompiledModule interpreter :=
  { inner := { Wasm.Module.empty with
      functions := [⟨⟨[], [.funcref]⟩, [], [.refFunc 0]⟩]
      exports := [⟨"tick", .func, 0⟩] }
    digest := "" }

/-- A call of this function, with some arguments, which takes so long. -/
def tick (elapsed : Nat) (args : List Value) : Request :=
  ⟨⟨"tick", ⟨[], [.ref]⟩, .reject, ⟨⟨0⟩, 0, 1⟩⟩, args, elapsed⟩

/-- The store of the module, with its first fuel. -/
def tickStore : interpreter.Store :=
  (⟨EngineSettings.default.config, some 1000000, .empty⟩ : Interpreter.Store)

/-- The first instance of the module, at the start. -/
def tickSession : Session (Instance interpreter) :=
  ⟨(Host.ofEngine .interpreting).newInstance .default tickModule.inner tickStore, .full⟩

/-- Two callers call the function, another one gives it an argument which it does not take, and the
counters are read behind the first of the calls. -/
def bustle : List Move :=
  [.call 0 (tick 5 []), .call 1 (tick 8 []), .call 2 (tick 1 [.bool true]), .read 3, .advance 1,
    .advance 0, .advance 2, .advance 0, .advance 0, .advance 0, .advance 0, .advance 0, .advance 0,
    .advance 3, .advance 3, .advance 0, .advance 3, .advance 1, .advance 1, .advance 1, .advance 1,
    .advance 1, .advance 1, .advance 1]

/-- All of these moves are allowed, and what they come to is serialized. -/
theorem serialized_bustle : ∃ y, follow ⟨0⟩ bustle ⟨⟨tickSession, none, []⟩, []⟩ = some y ∧
    y.shared.turns = [⟨0, tick 5 []⟩, ⟨1, tick 8 []⟩] ∧
    y.shared.session.machine.metrics.calls = 2 ∧
    interpreter.Running tickSession.machine.budget.isSome tickSession.machine.linked
      tickSession.machine.store ∧
    Serialized tickSession y := by
  obtain ⟨y, hy⟩ : ∃ y, follow ⟨0⟩ bustle ⟨⟨tickSession, none, []⟩, []⟩ = some y := ⟨_, rfl⟩
  have hrun : Run tickSession y := Run.start.follow hy
  have hmade : interpreter.newEngine EngineSettings.default.config =
      .ok EngineSettings.default.config := rfl
  have hlinked : interpreter.instantiate 0 tickModule.inner tickStore =
      .ok (tickModule.inner, tickStore) := rfl
  have hrunning : interpreter.Running true tickModule.inner tickStore :=
    .linked (.fuelled (n := 1000000) (.made hmade) rfl) hlinked
  refine ⟨y, hy, ?_, ?_, hrunning, hrun.serialized Interpreter.overwrites hrunning⟩
  · cases hy
    rfl
  · cases hy
    rfl

end Bustle

end Crowd

end WasmCall.Instance
