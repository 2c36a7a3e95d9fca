import WasmCall.Proofs.Callable.Policies
import WasmCall.Proofs.RoundTrip
import WasmCall.Stub

/-!
# One call after another

The result of a call is nothing, one value of the host or several.  These values are arguments
for any function which declares the same kinds as parameters, and they are never converted: behind a
conversion which an argument went through on the way in, an operand has the type of its kind.

* `exists_values_of_call`: what came back in a call which gave a result.
* `accepts_toList_of_decode`: the operands of a result are accepted as what they are, under any policy.
* `Echoes`: a target which gives back its operands.  For such a target the values of a result lead to
  the same result again, although the first arguments may have been other values.
* `call_toList_of_call`: what becomes of a result in a second call.
-/

namespace WasmCall.Callable

variable {ι κ σ τ : Type}

/-- A way to run one function which gives back the operands, whatever the state is. -/
def Echoes (invoke : Invoker σ) : Prop :=
  ∀ operands s, (invoke operands s).result = .ok operands

section Results

variable {c : Callable ι} {d : Callable κ} {args : List Value} {r : CallResult}
  {values : List Operand}

/-- A call which gives a result has run its target, and the result is made of what came back. -/
theorem exists_values_of_call {run : ι → Invoker σ} {s : σ}
    (hresult : (c.call run args s).result = .ok r) :
    ∃ operands values, c.Accepts args operands ∧
      (run c.target operands s).result = .ok values ∧ c.decode values = .ok r := by
  rcases accepts_or_refuses c args with ⟨operands, haccepts⟩ | ⟨e, hrefuses⟩
  · rw [call_of_accepts run haccepts] at hresult
    cases hvalues : (run c.target operands s).result with
    | error e =>
        simp only [hvalues] at hresult
        cases hresult
    | ok values =>
        simp only [hvalues] at hresult
        exact ⟨operands, values, haccepts, hvalues, hresult⟩
  · rw [call_of_refuses run hrefuses] at hresult
    cases hresult

/-- The values of a result are accepted where the kinds of the results are declared as parameters,
and they become the operands which the result is made of. -/
theorem accepts_toList_of_decode (hdecode : c.decode values = .ok r)
    (hfit : c.signature.results = d.signature.params) : d.Accepts r.toList values := by
  cases (decode_eq_iff c values (.ok r)).1 hdecode with
  | result hkinds _ hshape htoList =>
      rw [htoList, ← operands_eq_ok_iff]
      exact operands_toValue (hkinds.trans hfit)

/-- Called on its own result, a function which echoes its operands gives this result. -/
theorem call_toList_of_echoes {run : ι → Invoker σ} (hechoes : Echoes (run c.target))
    (hsame : c.signature.results = c.signature.params) (hdecode : c.decode values = .ok r) (t : σ) :
    (c.call run r.toList t).result = .ok r := by
  have haccepts : c.Accepts r.toList values := accepts_toList_of_decode hdecode hsame
  calc (c.call run r.toList t).result
      = (run c.target values t).result.bind c.decode := by rw [call_of_accepts run haccepts]
    _ = c.decode values := by rw [hechoes values t]; rfl
    _ = .ok r := hdecode

end Results

/-- What a call hands to a second one, which is called on the values of the result.

* `accepted`: the arguments of the first call are accepted as operands.
* `returned`: on these the first target gives back values.
* `passed`: the second call accepts the values of the result, and as operands it takes what the first
  target gave back.
* `dispatched`: the second target is run once, on these.
* `result`: its answer decides the second call. -/
structure HandsOn (run : ι → Invoker σ) (run' : κ → Invoker τ) (c : Callable ι) (d : Callable κ)
    (args : List Value) (s : σ) (r : CallResult) (operands values : List Operand) : Prop where
  accepted : c.Accepts args operands
  returned : (run c.target operands s).result = .ok values
  passed : d.Accepts r.toList values
  dispatched : ∀ (t : τ) (record : List (Ran κ)),
    Dispatched d.target record values (d.call (recording run') r.toList (t, record))
  result : ∀ t : τ, (d.call run' r.toList t).result = (run' d.target values t).result.bind d.decode

/-- Results are arguments, without a loss: of two functions of which the second one declares as
parameters what the first one declares as results, the second one is run on exactly the operands
which the first one gave back, whatever the policies are.  In particular a function which echoes its
operands gives the same result again, in any state. -/
theorem call_toList_of_call (run : ι → Invoker σ) (run' : κ → Invoker τ) {c : Callable ι}
    {d : Callable κ} (hfit : c.signature.results = d.signature.params) {args : List Value} {s : σ}
    {r : CallResult} (hresult : (c.call run args s).result = .ok r) :
    (∃ operands values, HandsOn run run' c d args s r operands values) ∧
      (Echoes (run c.target) → c.signature.results = c.signature.params →
        ∀ t, (c.call run r.toList t).result = .ok r) := by
  obtain ⟨operands, values, haccepts, hreturned, hdecode⟩ := exists_values_of_call hresult
  constructor
  · have hpassed : d.Accepts r.toList values := accepts_toList_of_decode hdecode hfit
    refine ⟨operands, values, haccepts, hreturned, hpassed, dispatched_of_accepts run' hpassed, ?_⟩
    intro t
    rw [call_of_accepts run' hpassed]
  · intro hechoes hsame t
    exact call_toList_of_echoes hechoes hsame hdecode t

/-- A function which gives back a number, a float and two references, and truncates. -/
def echoFour : Callable Stub :=
  ⟨"echo", ⟨[.i32, .f64, .ref, .ref], [.i32, .f64, .ref, .ref]⟩, .truncate, .echo⟩

/-- A function which takes the same, gives back the last two and the number, and rejects. -/
def pickThree : Callable Stub :=
  ⟨"pick", ⟨[.i32, .f64, .ref, .ref], [.ref, .ref, .i32]⟩, .reject, .pick [2, 3, 0]⟩

/-- A number with 32 bits too many, a NaN with a payload, and the two sorts of references. -/
def fourArguments : List Value :=
  [.u64 0xFFFFFFFFFFFFFFFF, .f64 0x7FF0000000000001, .ref .null, .ref (.held 7 (.text "kept"))]

/-- The number has another type now, and is negative. -/
def fourResults : CallResult :=
  .multiple [.i32 (-1), .f64 0x7FF0000000000001, .ref .null, .ref (.held 7 (.text "kept"))]

/-- A call which rejects takes what is left of a number which was truncated. -/
theorem echoFour_hands_on :
    (echoFour.call Stub.run fourArguments 0).result = .ok fourResults ∧
      echoFour.signature.results = pickThree.signature.params ∧
      (∃ operands values,
        HandsOn Stub.run Stub.run echoFour pickThree fourArguments 0 fourResults operands values) ∧
      Echoes (Stub.run .echo) ∧
      ∀ t, (echoFour.call Stub.run fourResults.toList t).result = .ok fourResults := by
  have hresult : (echoFour.call Stub.run fourArguments 0).result = .ok fourResults := rfl
  have hfit : echoFour.signature.results = pickThree.signature.params := rfl
  have hechoes : Echoes (Stub.run .echo) := fun _ _ => rfl
  obtain ⟨hhands, hagain⟩ := call_toList_of_call Stub.run Stub.run hfit hresult
  exact ⟨hresult, hfit, hhands, hechoes, hagain hechoes rfl⟩

end WasmCall.Callable
