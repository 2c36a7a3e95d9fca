import WasmCall.Callable
import WasmCall.Proofs.Coercion

/-!
# The phases of a call

Each phase of `Callable.call` is described by a relation which says what may come out of it, without
saying how it is computed.

* `Accepts` and `Refuses`: what becomes of the arguments.  An error of the count comes before an
  error of an argument, and among those the least index decides.
* `Delivers`: what becomes of the operands which came back.  An error of the count comes before an
  error of a kind, and among those the least index decides.

Main statements: `operands_eq_ok_iff`, `operands_eq_error_iff` and `decode_eq_iff` say that the
phases compute these relations and nothing else.
-/

namespace WasmCall

/-- The results of a function which declares so many of them: nothing, one value, or several. -/
inductive CallResult.Shaped : Nat → CallResult → Prop
  | none : Shaped 0 .none
  | single (v : Value) : Shaped 1 (.single v)
  | multiple (vs : List Value) (hseveral : 2 ≤ vs.length) : Shaped vs.length (.multiple vs)

/-- Values in the shape for their number are a result of this shape, and none of them is lost. -/
theorem CallResult.shaped_ofShape (vs : List Value) :
    Shaped vs.length (ofShape (.ofCount vs.length) vs) ∧
      (ofShape (.ofCount vs.length) vs).toList = vs := by
  match vs with
  | [] => exact ⟨.none, rfl⟩
  | [v] => exact ⟨.single v, rfl⟩
  | v :: w :: vs => exact ⟨.multiple (v :: w :: vs) (by simp), rfl⟩

/-- The values of a result and their number determine it. -/
theorem CallResult.eq_ofShape_of_shaped {n : Nat} {r : CallResult} (h : Shaped n r) :
    r = ofShape (.ofCount n) r.toList := by
  cases h with
  | none => rfl
  | single v => rfl
  | multiple vs hseveral =>
      match vs, hseveral with
      | [], hseveral => simp at hseveral
      | [_], hseveral => simp at hseveral
      | _ :: _ :: _, _ => rfl

namespace ResultFault

/-- Compare the kind of an operand with the one declared for it. -/
def compare (index : Nat) (p : Kind × Operand) : Except ResultFault Unit :=
  if p.2.kind = p.1 then .ok () else .error (.kind index p.2.kind p.1)

theorem firstKind?_eq_some_iff_traverseFrom (index : Nat) (declared : List Kind)
    (operands : List Operand) (fault : ResultFault) :
    firstKind? index declared operands = some fault ↔
      traverseFrom compare index (declared.zip operands) = .error fault := by
  induction declared generalizing index operands with
  | nil => simp [firstKind?]
  | cons k declared ih =>
      cases operands with
      | nil => simp [firstKind?]
      | cons r operands =>
          by_cases hkind : r.kind = k
          · simp only [firstKind?, hkind, if_true, List.zip_cons_cons, traverseFrom, compare, ih]
            cases traverseFrom compare (index + 1) (declared.zip operands) <;> simp
          · simp [firstKind?, hkind, traverseFrom, compare]

theorem map_compare_eq_ok_iff {declared : List Kind} {operands : List Operand}
    (hcount : operands.length = declared.length) {i : Nat} (hi : i < declared.length) :
    (∃ u, (declared.zip operands)[i]?.map (compare i) = some (.ok u)) ↔
      operands[i]?.map Operand.kind = declared[i]? := by
  have hi' : i < operands.length := by omega
  rw [List.zip, List.getElem?_zipWith, List.getElem?_eq_getElem hi, List.getElem?_eq_getElem hi']
  by_cases hkind : operands[i].kind = declared[i] <;> simp [compare, hkind]

/-- Where operands and declared kinds are equally many, the first difference is at the least index
at which a kind is another one. -/
theorem firstKind?_eq_some_iff {declared : List Kind} {operands : List Operand}
    (hcount : operands.length = declared.length) (fault : ResultFault) :
    firstKind? 0 declared operands = some fault ↔
      ∃ (i : Nat) (r : Operand) (k : Kind), operands[i]? = some r ∧ declared[i]? = some k ∧
        r.kind ≠ k ∧ fault = .kind i r.kind k ∧
        ∀ j < i, operands[j]?.map Operand.kind = declared[j]? := by
  rw [firstKind?_eq_some_iff_traverseFrom, traverseFrom_eq_error_iff]
  simp only [Nat.zero_add]
  constructor
  · rintro ⟨i, hi, hleast⟩
    obtain ⟨p, hp, hfault⟩ := Option.map_eq_some_iff.1 hi
    obtain ⟨hk, hr⟩ := List.getElem?_zip_eq_some.1 hp
    have hlt := (List.getElem?_eq_some_iff.1 hk).1
    unfold compare at hfault
    split at hfault
    · cases hfault
    · rename_i hkind
      cases hfault
      refine ⟨i, p.2, p.1, hr, hk, hkind, rfl, ?_⟩
      intro j hj
      exact (map_compare_eq_ok_iff hcount (by omega)).1 (hleast j hj)
  · rintro ⟨i, r, k, hr, hk, hkind, rfl, hleast⟩
    have hlt := (List.getElem?_eq_some_iff.1 hk).1
    refine ⟨i, ?_, ?_⟩
    · have hp : (declared.zip operands)[i]? = some (k, r) :=
        List.getElem?_zip_eq_some.2 ⟨hk, hr⟩
      simp [hp, compare, hkind]
    · intro j hj
      exact (map_compare_eq_ok_iff hcount (by omega)).2 (hleast j hj)

theorem firstKind?_eq_none_iff (index : Nat) {declared : List Kind} {operands : List Operand}
    (hcount : operands.length = declared.length) :
    firstKind? index declared operands = none ↔ operands.map Operand.kind = declared := by
  induction declared generalizing index operands with
  | nil =>
      obtain rfl : operands = [] := List.eq_nil_of_length_eq_zero hcount
      simp [firstKind?]
  | cons k declared ih =>
      cases operands with
      | nil => simp at hcount
      | cons r operands =>
          by_cases hkind : r.kind = k
          · simp [firstKind?, hkind, ih (index + 1) (by simpa using hcount)]
          · simp [firstKind?, hkind]

end ResultFault

namespace Callable

variable {ι : Type}

/-- The coercion of the argument at an index to the kind of the parameter there, if there are
both. -/
def coercion? (c : Callable ι) (args : List Value) (i : Nat) :
    Option (Except CallError Operand) :=
  match c.signature.params[i]?, args[i]? with
  | some kind, some value => some (coerce c.policy i kind value)
  | _, _ => none

/-- Arguments of the right number, each of which is coerced to the operand in its place. -/
structure Accepts (c : Callable ι) (args : List Value) (operands : List Operand) : Prop where
  count : args.length = c.signature.params.length
  coerced : ∀ i, c.coercion? args i = operands[i]?.map Except.ok

/-- Why arguments are refused. -/
inductive Refuses (c : Callable ι) (args : List Value) : CallError → Prop
  | arity (hcount : args.length ≠ c.signature.params.length) :
      Refuses c args (.arityMismatch c.signature.params.length args.length)
  | coercion (hcount : args.length = c.signature.params.length) (i : Nat) (e : CallError)
      (hfails : c.coercion? args i = some (.error e))
      (hleast : ∀ j < i, ∃ r, c.coercion? args j = some (.ok r)) :
      Refuses c args e

/-- What becomes of the operands which came back. -/
inductive Delivers (c : Callable ι) (operands : List Operand) :
    Except CallError CallResult → Prop
  | count (declared : Nat) (hdeclared : c.signature.results.length = declared)
      (hcount : operands.length ≠ declared) :
      Delivers c operands (.error (.resultMismatch
        s!"'{c.name}' returned {operands.length} values, signature declares {declared}"))
  | kind (hcount : operands.length = c.signature.results.length) (i : Nat) (r : Operand)
      (k : Kind) (hr : operands[i]? = some r) (hk : c.signature.results[i]? = some k)
      (hkind : r.kind ≠ k)
      (hleast : ∀ j < i, operands[j]?.map Operand.kind = c.signature.results[j]?) :
      Delivers c operands (.error (.resultMismatch
        s!"'{c.name}' result {i} is {r.kind.name}, signature declares {k.name}"))
  | result (hkinds : operands.map Operand.kind = c.signature.results) (r : CallResult)
      (hshape : r.Shaped c.signature.results.length)
      (hvalues : r.toList = operands.map Operand.toValue) :
      Delivers c operands (.ok r)

theorem coercion?_eq_map_zip (c : Callable ι) (args : List Value) (i : Nat) :
    c.coercion? args i =
      (c.signature.params.zip args)[i]?.map fun p => coerce c.policy i p.1 p.2 := by
  unfold coercion?
  rw [List.zip, List.getElem?_zipWith]
  cases c.signature.params[i]? <;> cases args[i]? <;> rfl

theorem operands_eq_coerceAll {c : Callable ι} {args : List Value}
    (hcount : args.length = c.signature.params.length) :
    c.operands args = traverseFrom (fun i p => coerce c.policy i p.1 p.2) 0
      (c.signature.params.zip args) := by
  rw [operands, if_pos hcount, coerceAll, coerceFrom_eq_traverseFrom]

theorem operands_eq_arityMismatch {c : Callable ι} {args : List Value}
    (hcount : args.length ≠ c.signature.params.length) :
    c.operands args = .error (.arityMismatch c.signature.params.length args.length) := by
  rw [operands, if_neg hcount]

theorem operands_eq_ok_iff (c : Callable ι) (args : List Value) (rs : List Operand) :
    c.operands args = .ok rs ↔ c.Accepts args rs := by
  by_cases hcount : args.length = c.signature.params.length
  · rw [operands_eq_coerceAll hcount, traverseFrom_eq_ok_iff]
    simp only [Nat.zero_add, ← coercion?_eq_map_zip]
    exact ⟨fun h => ⟨hcount, h⟩, fun h => h.coerced⟩
  · rw [operands_eq_arityMismatch hcount]
    constructor
    · intro h
      cases h
    · intro h
      exact absurd h.count hcount

theorem operands_eq_error_iff (c : Callable ι) (args : List Value) (e : CallError) :
    c.operands args = .error e ↔ c.Refuses args e := by
  by_cases hcount : args.length = c.signature.params.length
  · rw [operands_eq_coerceAll hcount, traverseFrom_eq_error_iff]
    simp only [Nat.zero_add, ← coercion?_eq_map_zip]
    constructor
    · rintro ⟨i, hfails, hleast⟩
      exact .coercion hcount i e hfails hleast
    · intro h
      cases h with
      | arity hne => exact absurd hcount hne
      | coercion _ i e hfails hleast => exact ⟨i, hfails, hleast⟩
  · rw [operands_eq_arityMismatch hcount]
    constructor
    · intro h
      cases h
      exact .arity hcount
    · intro h
      cases h with
      | arity _ => rfl
      | coercion heq => exact absurd heq hcount

/-- Arguments are accepted or refused. -/
theorem accepts_or_refuses (c : Callable ι) (args : List Value) :
    (∃ operands, c.Accepts args operands) ∨ ∃ e, c.Refuses args e := by
  cases hoperands : c.operands args with
  | ok operands => exact .inl ⟨operands, (operands_eq_ok_iff c args operands).1 hoperands⟩
  | error e => exact .inr ⟨e, (operands_eq_error_iff c args e).1 hoperands⟩

/-- Arguments are not refused if they are accepted. -/
theorem Refuses.not_accepts {c : Callable ι} {args : List Value} {e : CallError}
    (h : c.Refuses args e) (operands : List Operand) : ¬ c.Accepts args operands := by
  intro haccepted
  have hok := (operands_eq_ok_iff c args operands).2 haccepted
  rw [(operands_eq_error_iff c args e).2 h] at hok
  cases hok

/-- A call which is refused blames the arguments. -/
theorem Refuses.isArgumentError {c : Callable ι} {args : List Value} {e : CallError}
    (h : c.Refuses args e) : e.isArgumentError = true := by
  cases h with
  | arity _ => rfl
  | coercion _ i e hfails _ =>
      unfold coercion? at hfails
      split at hfails
      · exact isArgumentError_of_coerce (Option.some.inj hfails)
      · cases hfails

/-- A call which is refused does not say that a reference is foreign. -/
theorem Refuses.ne_foreign {c : Callable ι} {args : List Value} {e : CallError}
    (h : c.Refuses args e) (j : Nat) (k : Kind) : e ≠ .typeMismatch j k "foreign reference" := by
  rintro rfl
  cases h with
  | coercion _ i _ hfails _ =>
      unfold coercion? at hfails
      split at hfails
      · exact coerce_ne_foreign (Option.some.inj hfails)
      · cases hfails

/-- References among accepted arguments are references among the operands, in the same places. -/
theorem Accepts.getElem?_eq_ref_iff {c : Callable ι} {args : List Value} {operands : List Operand}
    (h : c.Accepts args operands) (i : Nat) (g : Handle) :
    operands[i]? = some (.ref g) ↔ args[i]? = some (.ref g) := by
  have hi := h.coerced i
  unfold coercion? at hi
  constructor
  · intro hoperand
    rw [hoperand] at hi
    split at hi
    · rename_i kind value hkind hvalue
      have hcoerce : coerce c.policy i kind value = .ok (.ref g) := by simpa using hi
      rw [hvalue, eq_ref_of_coerce hcoerce]
    · simp at hi
  · intro harg
    have hlt := (List.getElem?_eq_some_iff.1 harg).1
    rw [h.count] at hlt
    rw [harg, List.getElem?_eq_getElem hlt] at hi
    cases hoperand : operands[i]? with
    | none => simp [hoperand] at hi
    | some r =>
        have hcoerce : coerce c.policy i c.signature.params[i] (.ref g) = .ok r := by
          simpa [hoperand] using hi
        rw [eq_ref_of_coerce_ref hcoerce]

/-- Accepted arguments become operands of the kinds of the parameters. -/
theorem Accepts.kinds {c : Callable ι} {args : List Value} {operands : List Operand}
    (h : c.Accepts args operands) : operands.map Operand.kind = c.signature.params := by
  apply List.ext_getElem?
  intro i
  have hi := h.coerced i
  unfold coercion? at hi
  split at hi
  · rename_i kind value hkind hvalue
    cases hoperand : operands[i]? with
    | none => simp [hoperand] at hi
    | some r =>
        have hr : coerce c.policy i kind value = .ok r := by simpa [hoperand] using hi
        rw [List.getElem?_map, hoperand, hkind, ← kind_of_coerce hr]
        rfl
  · rename_i hnone
    have hoperand : operands[i]? = none := by simpa using hi.symm
    rw [List.getElem?_map, hoperand]
    cases hkind : c.signature.params[i]? with
    | none => rfl
    | some kind =>
        have hlt := (List.getElem?_eq_some_iff.1 hkind).1
        rw [← h.count] at hlt
        -- There is an argument for every parameter, so it was coerced.
        exact (hnone kind args[i] hkind (List.getElem?_eq_getElem hlt)).elim

/-- Operands of the declared kinds are as many as the shape of the results expects. -/
theorem shaped_of_kinds {c : Callable ι} {operands : List Operand}
    (hkinds : operands.map Operand.kind = c.signature.results) :
    (CallResult.ofShape c.shape (operands.map Operand.toValue)).Shaped
        c.signature.results.length ∧
      (CallResult.ofShape c.shape (operands.map Operand.toValue)).toList =
        operands.map Operand.toValue := by
  have hcount : c.signature.results.length = (operands.map Operand.toValue).length := by
    rw [← hkinds, List.length_map, List.length_map]
  unfold shape
  rw [hcount]
  exact CallResult.shaped_ofShape _

/-- The last phase of a call gives exactly what is to become of the operands. -/
theorem decode_eq_iff (c : Callable ι) (operands : List Operand)
    (result : Except CallError CallResult) :
    c.decode operands = result ↔ c.Delivers operands result := by
  -- Kinds are compared only where there are as many operands as were declared.
  by_cases hcount : operands.length = c.signature.results.length
  · have hfind : ResultFault.find? c.signature.results operands =
        ResultFault.firstKind? 0 c.signature.results operands := by
      rw [ResultFault.find?, if_pos hcount]
    constructor
    · rintro rfl
      unfold decode
      rw [hfind]
      cases hfault : ResultFault.firstKind? 0 c.signature.results operands with
      | none =>
          have hkinds := (ResultFault.firstKind?_eq_none_iff 0 hcount).1 hfault
          obtain ⟨hshape, hvalues⟩ := shaped_of_kinds hkinds
          exact .result hkinds _ hshape hvalues
      | some fault =>
          obtain ⟨i, r, k, hr, hk, hkind, rfl, hleast⟩ :=
            (ResultFault.firstKind?_eq_some_iff hcount fault).1 hfault
          exact .kind hcount i r k hr hk hkind hleast
    · intro h
      unfold decode
      rw [hfind]
      cases h with
      | count declared hdeclared hne => exact absurd (hcount.trans hdeclared) hne
      | kind _ i r k hr hk hkind hleast =>
          rw [(ResultFault.firstKind?_eq_some_iff hcount (.kind i r.kind k)).2
            ⟨i, r, k, hr, hk, hkind, rfl, hleast⟩]
          rfl
      | result hkinds r hshape hvalues =>
          rw [(ResultFault.firstKind?_eq_none_iff 0 hcount).2 hkinds, ← hvalues, shape,
            ← CallResult.eq_ofShape_of_shaped hshape]
  · have hdecode : c.decode operands = .error (.resultMismatch
        ((ResultFault.count operands.length c.signature.results.length).message c.name)) := by
      rw [decode, ResultFault.find?, if_neg hcount]
    rw [hdecode]
    constructor
    · rintro rfl
      exact .count _ rfl hcount
    · intro h
      cases h with
      | count declared hdeclared _ =>
          subst hdeclared
          rfl
      | kind heq => exact absurd heq hcount
      | result hkinds => exact absurd (by rw [← hkinds, List.length_map]) hcount

/-- Operands of the declared kinds are a result. -/
theorem exists_result {c : Callable ι} {operands : List Operand}
    (hkinds : operands.map Operand.kind = c.signature.results) :
    ∃ r, c.decode operands = .ok r ∧ r.Shaped c.signature.results.length ∧
      r.toList = operands.map Operand.toValue := by
  obtain ⟨hshape, hvalues⟩ := shaped_of_kinds hkinds
  have hdelivers := Delivers.result hkinds _ hshape hvalues
  exact ⟨_, (decode_eq_iff c operands _).2 hdelivers, hshape, hvalues⟩

/-- Operands of other kinds are none. -/
theorem exists_mismatch {c : Callable ι} {operands : List Operand}
    (hkinds : operands.map Operand.kind ≠ c.signature.results) :
    ∃ reason, c.decode operands = .error (.resultMismatch reason) := by
  unfold decode
  cases hfind : ResultFault.find? c.signature.results operands with
  | some fault => exact ⟨_, rfl⟩
  | none =>
      have hok : c.decode operands = .ok (.ofShape c.shape (operands.map Operand.toValue)) := by
        rw [decode, hfind]
      cases (decode_eq_iff c operands _).1 hok with
      | result hmatch => exact absurd hmatch hkinds

end Callable

end WasmCall
