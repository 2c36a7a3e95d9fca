import WasmCall.Command
import WasmCall.Proofs.Argument
import WasmCall.Proofs.Display
import WasmCall.Proofs.Host.Origin
import WasmCall.Proofs.Host.Typing

/-!
# Calls with texts as arguments

The arguments of a command line go through two stages.  The texts are read as the kinds of the
parameters ask for, and what was read is passed to the call, which looks at it again.  A wrong
number of texts is left to the second stage.

* `callExportRecording`: a call with texts, with a record of how it enters the machine.
* `Comes`: what a call comes to whose texts were all read.  Two kinds of errors are left to it.
* `Answered`, `answered_callExport`: how every call with texts is answered.
-/

namespace WasmCall.Command

open Instance (Entered)

section Progress

variable {α β : Type} {p : Progress α} {next : α → Progress β}

/-- A step which failed ends the run. -/
theorem bind_of_error {text : String} (h : p.result = .error text) :
    p >>= next = ⟨.error text, (), p.events⟩ := by
  change p.andThen next = _
  rw [Progress.andThen, h]

/-- A run goes on with what a step gave. -/
theorem bind_of_ok {a : α} (h : p.result = .ok a) :
    p >>= next = ⟨(next a).result, (), p.events ++ (next a).events⟩ := by
  change p.andThen next = _
  rw [Progress.andThen, h]

/-- What came to an end without an error did so step by step. -/
theorem exists_of_bind {b : β} (h : (p >>= next).result = .ok b) :
    ∃ a, p.result = .ok a ∧ (next a).result = .ok b := by
  cases hp : p.result with
  | error text =>
      rw [bind_of_error hp] at h
      cases h
  | ok a =>
      rw [bind_of_ok hp] at h
      exact ⟨a, rfl, h⟩

end Progress

section CallExport

variable {M : Machine} {elapsed : Nat} {id : InstanceId} {h : Host M} {name : String}
  {args : List String} {c : Callable FunctionRef}

/-- An export which is not found ends the run. -/
theorem callExport_of_not_found {e : CallError} (hfound : (h.getFunction id name).result = .error e)
    (args : List String) :
    callExport elapsed id h name args = ⟨.error e.message, (), (h.getFunction id name).events⟩ := by
  have hreply : (Progress.ofReply CallError.message (h.getFunction id name)).result =
      .error e.message := by
    rw [Progress.ofReply, hfound]
    rfl
  exact bind_of_error hreply

/-- A text which cannot be read ends the run before the call. -/
theorem callExport_of_misread (hfound : (h.getFunction id name).result = .ok c)
    {e : Argument.Invalid} (hread : Argument.readAll c.signature.params args = .error e) :
    callExport elapsed id h name args = ⟨.error e.message, (), (h.getFunction id name).events⟩ := by
  simp [callExport, bind, Progress.andThen, Progress.ofReply, Progress.ofExcept, hfound, hread,
    Except.mapError, Except.map, Reply.pure]

/-- The events behind a call: one if there is a result. -/
def finishedEvents (result : Except CallError CallResult) : List Event :=
  match result with
  | .ok _ => [.callFinished]
  | .error _ => []

/-- What a call leaves to print: a line for each result, or the text of its error. -/
def printed (c : Callable FunctionRef) (result : Except CallError CallResult) :
    Except String (List String) :=
  (result.mapError (callText c)).map (·.toList.map Value.display)

/-- What was read is passed to the call, which decides what comes of the run. -/
theorem callExport_of_read (hfound : (h.getFunction id name).result = .ok c) {values : List Value}
    (hread : Argument.readAll c.signature.params args = .ok values) :
    callExport elapsed id h name args =
      ⟨printed c ((h.getFunction id name).state.call elapsed c values).result, (),
        (h.getFunction id name).events ++ .callingExport ::
          ((h.getFunction id name).state.call elapsed c values).events ++
            finishedEvents ((h.getFunction id name).state.call elapsed c values).result⟩ := by
  cases hcalled : ((h.getFunction id name).state.call elapsed c values).result <;>
    simp [callExport, bind, pure, Progress.andThen, Progress.ofReply, Progress.ofExcept,
      Progress.emit, hfound, hread, hcalled, Except.mapError, Except.map, Reply.pure,
      finishedEvents, printed]

/-- Call a function with arguments given as texts, and write down how the call enters the machine.
-/
def callExportRecording (elapsed : Nat) (id : InstanceId) (h : Host M) (name : String)
    (args : List String) : Reply (List Entered) (Except String (List String)) :=
  let found := h.getFunction id name
  match found.result with
  | .error e => ⟨.error e.message, [], found.events⟩
  | .ok c =>
    match Argument.readAll c.signature.params args with
    | .error e => ⟨.error e.message, [], found.events⟩
    | .ok values =>
      let called := found.state.callRecording elapsed c values
      ⟨printed c called.result, called.state.2,
        found.events ++ .callingExport :: called.events ++ finishedEvents called.result⟩

/-- A call is the same whether it is written down or not. -/
theorem callExportRecording_eq_callExport (elapsed : Nat) (id : InstanceId) (h : Host M)
    (name : String) (args : List String) :
    (callExportRecording elapsed id h name args).mapState (fun _ => ()) =
      callExport elapsed id h name args := by
  cases hfound : (h.getFunction id name).result with
  | error e =>
      rw [callExport_of_not_found hfound, callExportRecording]
      simp only [hfound]
      rfl
  | ok c =>
      cases hread : Argument.readAll c.signature.params args with
      | error e =>
          rw [callExport_of_misread hfound hread, callExportRecording]
          simp only [hfound, hread]
          rfl
      | ok values =>
          rw [callExport_of_read hfound hread, callExportRecording, ← Host.callRecording_eq_call]
          simp only [hfound, hread]
          rfl

end CallExport

section Answer

variable {M : Machine} {elapsed : Nat} {id : InstanceId} {h : Host M} {name : String}
  {texts : List String} {c : Callable FunctionRef} {values : List Value}

/-- What a call comes to whose texts were all read.

* `returned`: the arguments are admissible, and there is a value for each result which is declared,
  each on one line.
* `exceeded`: integers are not truncated, and the least one which exceeds its parameter is
  complained about.  The machine is not entered.
* `trapped`: the arguments are admissible, but the machine has trapped. -/
inductive Comes (c : Callable FunctionRef) (texts : List String) :
    Except CallError CallResult → List Entered → Prop
  | returned (hadmissible : Argument.Admissible c.policy c.signature.params texts) (r : CallResult)
      (hcarries : List.Forall₂ Host.Carries (c.signature.results.map Boundary.typeOf) r.toList)
      (hlines : ∀ v ∈ r.toList, OneLine v.display) (entry : Entered) :
      Comes c texts (.ok r) [entry]
  | exceeded (hpolicy : c.policy = .reject) (i : Nat) (k : Kind) (n : Int)
      (hexceeds : Argument.Exceeds c.signature.params texts i k n)
      (hleast : ∀ j < i, ∀ k' n', ¬ Argument.Exceeds c.signature.params texts j k' n') :
      Comes c texts (.error (.argumentOutOfRange i k (toString n))) []
  | trapped (hadmissible : Argument.Admissible c.policy c.signature.params texts) (message : String)
      (code : Option String) (entry : Entered) :
      Comes c texts (.error (.trap message code)) [entry]

/-- The machine is entered if and only if the arguments are admissible. -/
theorem Comes.entered {result : Except CallError CallResult} {entries : List Entered}
    (h : Comes c texts result entries) :
    entries ≠ [] ↔ Argument.Admissible c.policy c.signature.params texts := by
  cases h with
  | returned hadmissible r hcarries hlines entry => exact ⟨fun _ => hadmissible, by simp⟩
  | exceeded hpolicy i k n hexceeds hleast =>
      refine ⟨fun hne => absurd rfl hne, ?_⟩
      rintro ⟨-, -, hfits⟩
      exact absurd hexceeds (hfits hpolicy i k n)
  | trapped hadmissible message code entry => exact ⟨fun _ => hadmissible, by simp⟩

theorem Comes.once {result : Except CallError CallResult} {entries : List Entered}
    (h : Comes c texts result entries) : entries.length ≤ 1 := by
  cases h <;> simp

/-- How a call with texts as arguments is answered, and how it enters the machine, where `call` is
the call with values for them.

* `entered`, `once`: the machine is entered if there are as many texts as parameters, all of them
  are read, and no integer exceeds its parameter unless integers are truncated; and only
  once.
* `counted`: a wrong number of texts is complained about, whatever they are.
* `misread`: a text which cannot be read is complained about, at the least place there is, whatever
  was read before it.
* `called`: if all texts are read, the call decides, and there is a line for each of its values. -/
structure Answered (c : Callable FunctionRef) (texts : List String)
    (call : List Value → Except CallError CallResult) (result : Except String (List String))
    (entries : List Entered) : Prop where
  entered : entries ≠ [] ↔ Argument.Admissible c.policy c.signature.params texts
  once : entries.length ≤ 1
  counted : texts.length ≠ c.signature.params.length →
    let e := CallError.arityMismatch c.signature.params.length texts.length
    call (texts.map .string) = .error e ∧ result = .error (callText c e)
  misread : texts.length = c.signature.params.length →
    (∃ i e, Argument.Misreads c.signature.params texts i e) →
      ∃ i e, Argument.Misreads c.signature.params texts i e ∧
        (∀ j < i, ∃ k v, Argument.Reads c.signature.params texts j k v) ∧
        result = .error e.message
  called : texts.length = c.signature.params.length →
    (∀ i < c.signature.params.length, ∃ k v, Argument.Reads c.signature.params texts i k v) →
      ∃ values, Argument.readAll c.signature.params texts = .ok values ∧
        Comes c texts (call values) entries ∧ result = printed c (call values)

/-- A callable which was found is offered by an instance of the host behind the lookup. -/
theorem offers_of_found (hh : h.WellFormed) (hfound : (h.getFunction id name).result = .ok c) :
    (h.getFunction id name).state.WellFormed ∧
      ∃ i, (h.getFunction id name).state.find? c.target.owner = some i ∧ i.Offers c := by
  have hcontinues := Host.continues_getFunction h id name
  have hbehind := hh.continues hcontinues
  refine ⟨hbehind, ?_⟩
  obtain ⟨i, hi, hoffers⟩ := hh.getFunction_eq_ok hfound
  -- The instance is there behind the lookup as well.
  obtain ⟨j, hj, hcontinued⟩ := hh.find?_continues hcontinues hi
  refine ⟨j, ?_, hcontinued.offers hoffers⟩
  rw [hoffers.owner, (Host.mem_of_find? hi).2]
  exact hj

/-- A wrong number of texts, which the call complains about. -/
theorem answered_of_count (call : List Value → Except CallError CallResult)
    (hcount : texts.length ≠ c.signature.params.length)
    (hcall : call (texts.map .string) =
      .error (.arityMismatch c.signature.params.length texts.length)) :
    Answered c texts call (printed c (call (texts.map .string))) [] where
  entered := by
    refine ⟨fun h => absurd rfl h, ?_⟩
    rintro ⟨heq, -⟩
    exact absurd heq hcount
  once := Nat.zero_le 1
  counted := fun _ => ⟨hcall, by rw [hcall]; rfl⟩
  misread := fun heq => absurd heq hcount
  called := fun heq => absurd heq hcount

/-- A text which cannot be read.  There is no call. -/
theorem answered_of_misread (call : List Value → Except CallError CallResult)
    (hcount : texts.length = c.signature.params.length) {e : Argument.Invalid}
    (hread : Argument.readAll c.signature.params texts = .error e) :
    Answered c texts call (.error e.message) [] := by
  obtain ⟨i, hmisread, hleast⟩ := (Argument.readAll_eq_error_iff hcount).1 hread
  -- Not all texts are read, as one of them is misread.
  have hnot : ¬ ∀ i < c.signature.params.length,
      ∃ k v, Argument.Reads c.signature.params texts i k v := by
    intro hall
    obtain ⟨k, v, hreads⟩ := hall i (hmisread.lt_length)
    exact hreads.not_misreads e hmisread
  refine ⟨⟨fun h => absurd rfl h, ?_⟩, Nat.zero_le 1, fun hne => absurd hcount hne, ?_, ?_⟩
  · rintro ⟨-, hall, -⟩
    exact absurd hall hnot
  · intro _ _
    exact ⟨i, e, hmisread, hleast, rfl⟩
  · intro _ hall
    exact absurd hall hnot

/-- All texts are read, and the call decides. -/
theorem answered_of_read (call : List Value → Except CallError CallResult)
    {entries : List Entered} (hcount : texts.length = c.signature.params.length)
    (hread : Argument.readAll c.signature.params texts = .ok values)
    (hcomes : Comes c texts (call values) entries) :
    Answered c texts call (printed c (call values)) entries where
  entered := hcomes.entered
  once := hcomes.once
  counted := fun hne => absurd hcount hne
  misread := by
    rintro _ ⟨i, e, hmisread⟩
    obtain ⟨k, v, hreads⟩ := Argument.reads_of_readAll hcount hread i (hmisread.lt_length)
    exact absurd hmisread (hreads.not_misreads e)
  called := fun _ _ => ⟨values, hread, hcomes, rfl⟩

/-- What a call comes to which was given what was read, on a typed machine which can be refuelled. -/
theorem comes_of_called (hrefuels : M.Refuels) (htyped : M.Typed) {i : Instance M}
    (hi : i.WellMade) (hc : i.Exported c) {supply : HandleSupply}
    {result : Except CallError CallResult} {s : Instance.Session (Instance M)}
    {entries : List Entered} (hcount : texts.length = c.signature.params.length)
    (hread : Argument.readAll c.signature.params texts = .ok values)
    (hcalled : i.Called elapsed supply c values result s entries) :
    Comes c texts result entries := by
  cases hcalled with
  | refused e hrefused =>
      obtain ⟨hpolicy, k, kind, n, hexceeds, rfl, hleast⟩ :=
        Argument.refuses_of_readAll hcount hread hrefused
      exact .exceeded hpolicy k kind n hexceeds hleast
  | foreign operands haccepted k g hg hforeign hleast =>
      -- The only reference which was read is null, which every instance takes.
      obtain ⟨-, hnull⟩ := Argument.accepts_of_readAll hcount hread haccepted
      cases g with
      | null => exact absurd (.inl rfl) hforeign
      | held number payload => exact absurd hg (hnull k number payload)
  | stalled operands haccepted args hlowered e hrefuel =>
      obtain ⟨full, hfull⟩ := hi.exists_refuel hrefuels
      rw [hfull] at hrefuel
      cases hrefuel
  | trapped operands haccepted args hlowered full hrefuel e henter =>
      obtain ⟨hadmissible, -⟩ := Argument.accepts_of_readAll hcount hread haccepted
      obtain ⟨fault, -, rfl⟩ := Instance.exists_fault_of_enter henter
      exact .trapped hadmissible _ _ _
  | mismatched operands haccepted args hlowered full hrefuel results henter hmistyped =>
      exact absurd (hi.typesOf_of_enter htyped hc hrefuel henter) hmistyped
  | returned operands haccepted args hlowered full hrefuel results henter raised behind hraised
      hkinds r hshape hvalues =>
      obtain ⟨hadmissible, -⟩ := Argument.accepts_of_readAll hcount hread haccepted
      refine .returned hadmissible r ?_ ?_ _
      · rw [hvalues]
        exact Host.forall₂_carries hkinds
      · intro v hv
        rw [hvalues] at hv
        obtain ⟨operand, -, rfl⟩ := List.mem_map.1 hv
        exact oneLine_display operand

/-- A call which was given texts of a wrong number complains about their number. -/
theorem arityMismatch_of_called {i : Instance M} {supply : HandleSupply}
    {result : Except CallError CallResult} {s : Instance.Session (Instance M)}
    {entries : List Entered} (hcount : texts.length ≠ c.signature.params.length)
    (hcalled : i.Called elapsed supply c (texts.map .string) result s entries) :
    result = .error (.arityMismatch c.signature.params.length texts.length) ∧ entries = [] := by
  have hlength : (texts.map Value.string).length ≠ c.signature.params.length := by
    rw [List.length_map]
    exact hcount
  cases hcalled with
  | refused e hrefused =>
      cases hrefused with
      | arity _ =>
          rw [List.length_map]
          exact ⟨rfl, rfl⟩
      | coercion heq => exact absurd heq hlength
  | foreign operands haccepted => exact absurd haccepted.count hlength
  | stalled operands haccepted => exact absurd haccepted.count hlength
  | trapped operands haccepted => exact absurd haccepted.count hlength
  | mismatched operands haccepted => exact absurd haccepted.count hlength
  | returned operands haccepted => exact absurd haccepted.count hlength

/-- How a function is called which was found. -/
theorem answered_callExport (hh : h.WellFormed) (hrefuels : M.Refuels) (htyped : M.Typed)
    (hfound : (h.getFunction id name).result = .ok c) :
    Answered c texts (fun values => ((h.getFunction id name).state.call elapsed c values).result)
      (callExportRecording elapsed id h name texts).result
      (callExportRecording elapsed id h name texts).state := by
  obtain ⟨hbehind, i, hi, hoffers⟩ := offers_of_found hh hfound
  have hwell := hbehind.wellMade i (Host.mem_of_find? hi).1
  have hresult : ∀ values,
      ((h.getFunction id name).state.callRecording elapsed c values).result =
        ((h.getFunction id name).state.call elapsed c values).result :=
    fun values => congrArg Reply.result (Host.callRecording_eq_call _ elapsed c values)
  simp only [callExportRecording, hfound]
  by_cases hcount : texts.length = c.signature.params.length
  · cases hread : Argument.readAll c.signature.params texts with
    | error e => exact answered_of_misread _ hcount hread
    | ok values =>
        obtain ⟨s, hcalled, -⟩ := Host.called_call hi elapsed values
        simp only [hresult]
        exact answered_of_read _ hcount hread
          (comes_of_called hrefuels htyped hwell hoffers.exported hcount hread hcalled)
  · obtain ⟨s, hcalled, -⟩ := Host.called_call hi elapsed (texts.map .string)
    obtain ⟨hmismatch, hentries⟩ := arityMismatch_of_called hcount hcalled
    rw [Argument.readAll_of_length_ne hcount]
    simp only [hresult]
    rw [Host.entries] at hentries
    rw [hentries]
    exact answered_of_count _ hcount hmismatch

end Answer

end WasmCall.Command
