import WasmCall.Boundary
import WasmCall.Proofs.Traversal

/-!
# Crossing the boundary

What crosses the boundary of a machine keeps its type, in both directions.  References are the only
operands which may be refused, and the only values which change on their way.

* `signatureOf_cases`: a signature lists the kinds of the types of a function.
* `lowerAll_eq_error_iff`: operands are refused for the first handle among them which does not
  belong to the instance.
* `lowerAll_eq_ok`: operands which are not refused become values of the types of their kinds, and a
  function among these values is one for which a handle of the instance stands.
* `raised_raiseAll`: values whose types have kinds become operands of these kinds, and every
  function among them gets a handle of its own.
-/

namespace WasmCall.Boundary

open Wasm

/-- A type has a kind exactly if it is the type of that kind. -/
theorem kindOf_eq_some_iff (t : ValType) (k : Kind) : kindOf t = some k ↔ t = typeOf k := by
  cases t <;> cases k <;> simp [kindOf, typeOf]

/-- Two kinds have different types. -/
theorem typeOf_inj {k l : Kind} (h : typeOf k = typeOf l) : k = l := by
  have hk : kindOf (typeOf k) = some k := (kindOf_eq_some_iff (typeOf k) k).2 rfl
  rw [h, (kindOf_eq_some_iff (typeOf l) l).2 rfl] at hk
  exact (Option.some.inj hk).symm

/-- Either all types have kinds, or one of them has none and is the reason for an error. -/
theorem kindsOf_cases (name : String) (ts : List ValType) :
    (∃ ks : List Kind, kindsOf name ts = .ok ks ∧ ts = ks.map typeOf) ∨
      ∃ reason, kindsOf name ts = .error (.unsupportedSignature name reason) := by
  induction ts with
  | nil => exact .inl ⟨[], rfl, rfl⟩
  | cons t ts ih =>
      unfold kindsOf
      cases hkind : kindOf t with
      | none => exact .inr ⟨_, rfl⟩
      | some k =>
          rcases ih with ⟨ks, hks, htypes⟩ | ⟨reason, herror⟩
          · refine .inl ⟨k :: ks, by rw [hks]; rfl, ?_⟩
            rw [List.map_cons, ← htypes, ← (kindOf_eq_some_iff t k).1 hkind]
          · exact .inr ⟨reason, by rw [herror]; rfl⟩

/-- A function either has a signature, which lists the kinds of its types in their order, or is not
supported. -/
theorem signatureOf_cases (name : String) (t : FuncType) :
    (∃ s : Signature, signatureOf name t = .ok s ∧ t.params = s.params.map typeOf ∧
        t.results = s.results.map typeOf) ∨
      ∃ reason, signatureOf name t = .error (.unsupportedSignature name reason) := by
  unfold signatureOf
  rcases kindsOf_cases name t.params with ⟨params, hparams, htypes⟩ | ⟨reason, hparams⟩
  · rw [hparams]
    rcases kindsOf_cases name t.results with ⟨results, hresults, htypes'⟩ | ⟨reason, hresults⟩
    · rw [hresults]
      exact .inl ⟨⟨params, results⟩, rfl, htypes, htypes'⟩
    · rw [hresults]
      exact .inr ⟨reason, rfl⟩
  · rw [hparams]
    exact .inr ⟨reason, rfl⟩

/-- A handle belongs to an instance if it is null or stands for a function of the instance. -/
def Belongs (owner : InstanceId) (g : Handle) : Prop :=
  g = .null ∨ ∃ number f, g = .held number (.function owner f)

section Lower

variable {owner : InstanceId} {index : Nat} {r : Operand} {v : Val}

/-- Only a handle is refused, and only if it does not belong to the instance. -/
theorem lower_eq_error_iff {e : CallError} :
    lower owner index r = .error e ↔ ∃ g, r = .ref g ∧ ¬ Belongs owner g ∧ e = foreign index := by
  cases r with
  | i32 n => simp [lower]
  | i64 n => simp [lower]
  | f32 bits => simp [lower]
  | f64 bits => simp [lower]
  | ref g =>
      cases g with
      | null => simp [lower, Belongs]
      | held number payload =>
          cases payload with
          | text s => simp [lower, Belongs, eq_comm]
          | number n => simp [lower, Belongs, eq_comm]
          | function o f =>
              by_cases ho : o = owner
              · simp [lower, Belongs, ho]
              · -- The payload is a function, but of another instance.
                have hne : owner ≠ o := fun h => ho h.symm
                simp [lower, Belongs, ho, hne, eq_comm]

theorem type_of_lower (h : lower owner index r = .ok v) : v.type = typeOf r.kind := by
  unfold lower at h
  split at h
  · cases h; rfl
  · cases h; rfl
  · cases h; rfl
  · cases h; rfl
  · cases h; rfl
  · split at h
    · cases h; rfl
    · cases h
  · cases h

/-- A function enters the machine only through a handle of the instance which stands for it. -/
theorem eq_held_of_lower {f : Nat} (h : lower owner index r = .ok (.func (some f))) :
    ∃ number, r = .ref (.held number (.function owner f)) := by
  unfold lower at h
  split at h
  · cases h
  · cases h
  · cases h
  · cases h
  · cases h
  · split at h
    · rename_i number o f' ho
      cases h
      exact ⟨number, by rw [ho]⟩
    · cases h
  · cases h

theorem lowerFrom_eq_traverseFrom (owner : InstanceId) (index : Nat) (rs : List Operand) :
    lowerFrom owner index rs = traverseFrom (lower owner) index rs := by
  induction rs generalizing index with
  | nil => rfl
  | cons r rs ih =>
      simp only [lowerFrom, traverseFrom, ih]
      cases lower owner index r with
      | error e => rfl
      | ok v => cases traverseFrom (lower owner) (index + 1) rs <;> rfl

theorem lowerAll_eq_ok_iff {rs : List Operand} {vs : List Val} :
    lowerAll owner rs = .ok vs ↔ ∀ i, rs[i]?.map (lower owner i) = vs[i]?.map Except.ok := by
  rw [lowerAll, lowerFrom_eq_traverseFrom, traverseFrom_eq_ok_iff]
  simp only [Nat.zero_add]

/-- Operands are refused for the first handle among them which does not belong to the instance. -/
theorem lowerAll_eq_error_iff {rs : List Operand} {e : CallError} :
    lowerAll owner rs = .error e ↔
      ∃ i g, rs[i]? = some (.ref g) ∧ ¬ Belongs owner g ∧ e = foreign i ∧
        ∀ j < i, ∀ g', rs[j]? = some (.ref g') → Belongs owner g' := by
  rw [lowerAll, lowerFrom_eq_traverseFrom, traverseFrom_eq_error_iff]
  simp only [Nat.zero_add, Option.map_eq_some_iff]
  constructor
  · rintro ⟨i, ⟨r, hr, hfails⟩, hbefore⟩
    obtain ⟨g, rfl, hg, he⟩ := lower_eq_error_iff.1 hfails
    refine ⟨i, g, hr, hg, he, ?_⟩
    intro j hj g' hg'
    obtain ⟨v, r', hr', hv⟩ := hbefore j hj
    rw [hg'] at hr'
    cases hr'
    -- A foreign handle in front would have been refused.
    by_contra hforeign
    rw [lower_eq_error_iff.2 ⟨g', rfl, hforeign, rfl⟩] at hv
    cases hv
  · rintro ⟨i, g, hr, hg, he, hbefore⟩
    refine ⟨i, ⟨.ref g, hr, lower_eq_error_iff.2 ⟨g, rfl, hg, he⟩⟩, ?_⟩
    intro j hj
    have hlt : j < rs.length := by
      have hi := (List.getElem?_eq_some_iff.1 hr).1
      omega
    cases hlower : lower owner j rs[j] with
    | ok v => exact ⟨v, rs[j], List.getElem?_eq_getElem hlt, hlower⟩
    | error e' =>
        obtain ⟨g', hg', hforeign, -⟩ := lower_eq_error_iff.1 hlower
        exact absurd (hbefore j hj g' (by rw [List.getElem?_eq_getElem hlt, hg'])) hforeign

/-- Values have the types of the operands which they were made from. -/
theorem typesOf_of_lowerAll {rs : List Operand} {vs : List Val} (h : lowerAll owner rs = .ok vs) :
    typesOf vs = (rs.map Operand.kind).map typeOf := by
  rw [lowerAll_eq_ok_iff] at h
  apply List.ext_getElem?
  intro i
  have hi := h i
  simp only [typesOf, List.getElem?_map]
  cases hr : rs[i]? with
  | none =>
      have hv : vs[i]? = none := by simpa [hr] using hi.symm
      simp [hv]
  | some r =>
      cases hv : vs[i]? with
      | none => simp [hr, hv] at hi
      | some v =>
          have hlower : lower owner i r = .ok v := by simpa [hr, hv] using hi
          simp [type_of_lower hlower]

/-- A function among the values came through a handle of the instance in the same place. -/
theorem eq_held_of_lowerAll {rs : List Operand} {vs : List Val} (h : lowerAll owner rs = .ok vs)
    {i f : Nat} (hv : vs[i]? = some (.func (some f))) :
    ∃ number, rs[i]? = some (.ref (.held number (.function owner f))) := by
  rw [lowerAll_eq_ok_iff] at h
  have hi := h i
  cases hr : rs[i]? with
  | none => simp [hr, hv] at hi
  | some r =>
      have hlower : lower owner i r = .ok (.func (some f)) := by simpa [hr, hv] using hi
      obtain ⟨number, rfl⟩ := eq_held_of_lower hlower
      exact ⟨number, rfl⟩

/-- No handle is foreign among operands which enter the machine. -/
theorem belongs_of_lowerAll {rs : List Operand} {vs : List Val} (h : lowerAll owner rs = .ok vs)
    {i : Nat} {g : Handle} (hg : rs[i]? = some (.ref g)) : Belongs owner g := by
  rw [lowerAll_eq_ok_iff] at h
  have hi := h i
  by_contra hforeign
  have hlower : lower owner i (.ref g) = .error (foreign i) :=
    lower_eq_error_iff.2 ⟨g, rfl, hforeign, rfl⟩
  rw [hg] at hi
  cases hv : vs[i]? with
  | none => simp [hv] at hi
  | some v => simp [hv, hlower] at hi

/-- No operand is refused at the boundary if all references belong to the instance. -/
theorem exists_lowerAll_iff {rs : List Operand} :
    (∃ vs, lowerAll owner rs = .ok vs) ↔
      ∀ (k : Nat) (g : Handle), rs[k]? = some (.ref g) → Belongs owner g := by
  constructor
  · rintro ⟨vs, hvs⟩ k g hg
    exact belongs_of_lowerAll hvs hg
  · intro hbelongs
    cases hlowered : lowerAll owner rs with
    | ok vs => exact ⟨vs, rfl⟩
    | error e =>
        obtain ⟨k, g, hg, hforeign, -⟩ := lowerAll_eq_error_iff.1 hlowered
        exact absurd (hbelongs k g hg) hforeign

end Lower

/-- What values which leave a machine become, with the supply of handles before and behind.

* `kinds`: every operand is of the kind of its value.
* `functions`: every function gets a handle which stands for it.
* `handles`: a handle stands for the function in its place, and its number was free.
* `distinct`: no two of the handles are the same. -/
structure Raised (owner : InstanceId) (before : HandleSupply) (vs : List Val) (rs : List Operand)
    (behind : HandleSupply) : Prop where
  kinds : typesOf vs = (rs.map Operand.kind).map typeOf
  supply : before.next ≤ behind.next
  functions : ∀ i f : Nat, vs[i]? = some (Val.func (some f)) →
    ∃ number, rs[i]? = some (Operand.ref (.held number (.function owner f)))
  handles : ∀ (i number : Nat) (payload : Payload),
    rs[i]? = some (Operand.ref (.held number payload)) →
      ∃ f : Nat, payload = Payload.function owner f ∧ vs[i]? = some (Val.func (some f)) ∧
        before.next ≤ number ∧ number < behind.next
  distinct : ∀ (i j number : Nat) (p q : Payload),
    rs[i]? = some (Operand.ref (.held number p)) →
      rs[j]? = some (Operand.ref (.held number q)) → i = j

/-- One more value in front.  Its handle, if it has one, comes before those of the others. -/
theorem Raised.cons {owner : InstanceId} {before between behind : HandleSupply} {v : Val}
    {vs : List Val} {r : Operand} {rs : List Operand} (hfirst : Raised owner before [v] [r] between)
    (hrest : Raised owner between vs rs behind) :
    Raised owner before (v :: vs) (r :: rs) behind where
  kinds := by
    have hkind : v.type = typeOf r.kind := by simpa [typesOf] using hfirst.kinds
    have hkinds : vs.map Val.type = (rs.map Operand.kind).map typeOf := hrest.kinds
    rw [typesOf, List.map_cons, List.map_cons, List.map_cons, hkind, hkinds]
  supply := Nat.le_trans hfirst.supply hrest.supply
  functions := by
    intro i f hi
    cases i with
    | zero => simpa using hfirst.functions 0 f (by simpa using hi)
    | succ i => simpa using hrest.functions i f (by simpa using hi)
  handles := by
    intro i number payload hi
    have hbefore := hfirst.supply
    have hbehind := hrest.supply
    cases i with
    | zero =>
        obtain ⟨f, hpayload, hv, hfrom, hto⟩ := hfirst.handles 0 number payload (by simpa using hi)
        exact ⟨f, hpayload, by simpa using hv, hfrom, by omega⟩
    | succ i =>
        obtain ⟨f, hpayload, hv, hfrom, hto⟩ := hrest.handles i number payload (by simpa using hi)
        exact ⟨f, hpayload, by simpa using hv, by omega, hto⟩
  distinct := by
    -- A handle in front is below the numbers of those behind it.
    have hapart : ∀ (j number : Nat) (p q : Payload), r = .ref (.held number p) →
        rs[j]? = some (.ref (.held number q)) → False := by
      intro j number p q hr hj
      obtain ⟨f, -, -, -, hto⟩ := hfirst.handles 0 number p (by simp [hr])
      obtain ⟨f', -, -, hfrom, -⟩ := hrest.handles j number q hj
      omega
    intro i j number p q hi hj
    cases i with
    | zero =>
        cases j with
        | zero => rfl
        | succ j => exact (hapart j number p q (by simpa using hi) (by simpa using hj)).elim
    | succ i =>
        cases j with
        | zero => exact (hapart i number q p (by simpa using hj) (by simpa using hi)).elim
        | succ j => rw [hrest.distinct i j number p q (by simpa using hi) (by simpa using hj)]

/-- A value which is no function takes no handle. -/
theorem Raised.plain {owner : InstanceId} {s : HandleSupply} {v : Val} {r : Operand}
    (hkind : v.type = typeOf r.kind) (hv : ∀ f, v ≠ .func (some f))
    (hr : ∀ number payload, r ≠ .ref (.held number payload)) : Raised owner s [v] [r] s where
  kinds := by simp [typesOf, hkind]
  supply := Nat.le_refl _
  functions := by
    intro i f hi
    exact absurd (List.mem_singleton.1 (List.mem_of_getElem? hi)).symm (hv f)
  handles := by
    intro i number payload hi
    exact absurd (List.mem_singleton.1 (List.mem_of_getElem? hi)).symm (hr number payload)
  distinct := by
    intro i j number p q hi hj
    exact absurd (List.mem_singleton.1 (List.mem_of_getElem? hi)).symm (hr number p)

/-- A function takes the next handle. -/
theorem Raised.function (owner : InstanceId) (s : HandleSupply) (f : Nat) :
    Raised owner s [.func (some f)] [.ref (s.issue (.function owner f)).1]
      (s.issue (.function owner f)).2 where
  kinds := rfl
  supply := Nat.le_succ s.next
  functions := by
    intro i f' hi
    cases i with
    | zero =>
        cases hi
        exact ⟨s.next, rfl⟩
    | succ i => simp at hi
  handles := by
    intro i number payload hi
    cases i with
    | zero =>
        cases hi
        exact ⟨f, rfl, rfl, Nat.le_refl _, Nat.lt_succ_self _⟩
    | succ i => simp at hi
  distinct := by
    intro i j number p q hi hj
    cases i with
    | zero =>
        cases j with
        | zero => rfl
        | succ j => simp at hj
    | succ i => simp at hi

/-- A value whose type has a kind leaves the machine. -/
theorem raised_raise (owner : InstanceId) (s : HandleSupply) {v : Val} {k : Kind}
    (hkind : v.type = typeOf k) :
    ∃ r behind, raise owner s v = (.ok r, behind) ∧ Raised owner s [v] [r] behind := by
  cases v with
  | i32 n => exact ⟨.i32 n.toInt32, s, rfl, .plain rfl (by simp) (by simp)⟩
  | i64 n => exact ⟨.i64 n.toInt64, s, rfl, .plain rfl (by simp) (by simp)⟩
  | f32 bits => exact ⟨.f32 bits, s, rfl, .plain rfl (by simp) (by simp)⟩
  | f64 bits => exact ⟨.f64 bits, s, rfl, .plain rfl (by simp) (by simp)⟩
  | v128 low high => cases k <;> simp [Val.type, typeOf] at hkind
  | external => cases k <;> simp [Val.type, typeOf] at hkind
  | func f =>
      cases f with
      | none => exact ⟨.ref .null, s, rfl, .plain rfl (by simp) (by simp)⟩
      | some f => exact ⟨_, _, rfl, .function owner s f⟩

/-- A value which has no kind does not leave the machine. -/
theorem raise_cases (owner : InstanceId) (s : HandleSupply) (v : Val) :
    (∃ r behind, raise owner s v = (.ok r, behind) ∧ Raised owner s [v] [r] behind) ∨
      ∃ reason, raise owner s v = (.error (.resultMismatch reason), s) := by
  cases v with
  | i32 n => exact .inl (raised_raise owner s (k := .i32) rfl)
  | i64 n => exact .inl (raised_raise owner s (k := .i64) rfl)
  | f32 bits => exact .inl (raised_raise owner s (k := .f32) rfl)
  | f64 bits => exact .inl (raised_raise owner s (k := .f64) rfl)
  | func f => exact .inl (raised_raise owner s (k := .ref) rfl)
  | v128 low high => exact .inr ⟨_, rfl⟩
  | external => exact .inr ⟨_, rfl⟩

/-- All values leave the machine, or one of them does not and the results do not match.  Handles are
only taken from the supply. -/
theorem raiseAll_cases (owner : InstanceId) (s : HandleSupply) (vs : List Val) :
    (∃ rs behind, raiseAll owner s vs = (.ok rs, behind) ∧ Raised owner s vs rs behind) ∨
      ∃ reason behind, raiseAll owner s vs = (.error (.resultMismatch reason), behind) ∧
        s.next ≤ behind.next := by
  induction vs generalizing s with
  | nil => exact .inl ⟨[], s, rfl, ⟨rfl, Nat.le_refl _, by simp, by simp, by simp⟩⟩
  | cons v vs ih =>
      rcases raise_cases owner s v with ⟨r, between, hr, hfirst⟩ | ⟨reason, hr⟩
      · rcases ih between with ⟨rs, behind, hrs, hrest⟩ | ⟨reason, behind, hrs, hbehind⟩
        · exact .inl ⟨r :: rs, behind, by simp only [raiseAll, hr, hrs], hfirst.cons hrest⟩
        · refine .inr ⟨reason, behind, by simp only [raiseAll, hr, hrs], ?_⟩
          exact Nat.le_trans hfirst.supply hbehind
      · exact .inr ⟨reason, s, by simp only [raiseAll, hr], Nat.le_refl _⟩

/-- Values whose types have kinds all leave the machine, and every function gets a new handle. -/
theorem raised_raiseAll (owner : InstanceId) (s : HandleSupply) {vs : List Val} {ks : List Kind}
    (hkinds : typesOf vs = ks.map typeOf) :
    ∃ rs behind, raiseAll owner s vs = (.ok rs, behind) ∧ Raised owner s vs rs behind := by
  induction vs generalizing s ks with
  | nil => exact ⟨[], s, rfl, ⟨rfl, Nat.le_refl _, by simp, by simp, by simp⟩⟩
  | cons v vs ih =>
      cases ks with
      | nil => simp [typesOf] at hkinds
      | cons k ks =>
          have hboth : v.type = typeOf k ∧ typesOf vs = ks.map typeOf := by
            simpa [typesOf] using hkinds
          -- The rest goes on with the supply behind the first value.
          obtain ⟨r, between, hr, hfirst⟩ := raised_raise owner s hboth.1
          obtain ⟨rs, behind, hrs, hrest⟩ := ih between hboth.2
          refine ⟨r :: rs, behind, ?_, hfirst.cons hrest⟩
          simp only [raiseAll, hr, hrs]

end WasmCall.Boundary
