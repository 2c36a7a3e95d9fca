import WasmCall.Proofs.Argument.Integers
import WasmCall.Proofs.RoundTrip

/-!
# Arguments which were texts

Texts go through two stages before they are operands: each of them is read as the kind of its
parameter asks for (`Argument.readAll`), and what was read is coerced like any other argument.

* `readAll_eq_error_iff`: texts are not arguments for the least place at which one cannot be read.
* `readAll_eq_ok`: otherwise there is what was read, each at the place of its text.
* `coerce_of_read`: what was read is coerced, unless it is an integer which does not fit.  So the
  second stage has no reason left but this one (`refuses_of_readAll`), and it leaves no handle
  (`accepts_of_readAll`).

Texts of the wrong number are not read at all, which the call complains about
(`readAll_of_length_ne`).
-/

namespace WasmCall

/-- Whether an integer fits into a parameter of a kind. -/
def Kind.fits : Kind → Int → Bool
  | .i32, n => fitsSigned 32 n
  | .i64, n => fitsSigned 64 n
  | .f32, _ | .f64, _ | .ref, _ => true

namespace Argument

open Decimal Floating

/-- The text at a place is read as a value for the parameter there. -/
structure Reads (kinds : List Kind) (texts : List String) (i : Nat) (k : Kind) (v : Value) :
    Prop where
  kind : kinds[i]? = some k
  text : ∃ text, texts[i]? = some text ∧ read k text = .ok v

/-- The text at a place cannot be read for the parameter there. -/
structure Misreads (kinds : List Kind) (texts : List String) (i : Nat) (e : Invalid) : Prop where
  index : e.index = i
  text : texts[i]? = some e.text
  fault : ∃ k, kinds[i]? = some k ∧ read k e.text = .error e.fault

/-- What was read at a place is an integer which does not fit into the parameter there. -/
structure Exceeds (kinds : List Kind) (texts : List String) (i : Nat) (k : Kind) (n : Int) :
    Prop where
  reads : ∃ v, Reads kinds texts i k v ∧ v.toInt? = some n
  unfit : k.fits n = false

/-- All texts are read, and no integer among them exceeds its parameter. -/
def Admissible (policy : OverflowPolicy) (kinds : List Kind) (texts : List String) : Prop :=
  texts.length = kinds.length ∧ (∀ i < kinds.length, ∃ k v, Reads kinds texts i k v) ∧
    (policy = .reject → ∀ i k n, ¬ Exceeds kinds texts i k n)

variable {kinds : List Kind} {texts : List String} {values : List Value} {i : Nat} {k : Kind}
  {v : Value}

theorem Misreads.lt_length {e : Invalid} (h : Misreads kinds texts i e) : i < kinds.length := by
  obtain ⟨k, hk, -⟩ := h.fault
  exact (List.getElem?_eq_some_iff.1 hk).1

/-- A text is read in one way. -/
theorem Reads.unique {k' : Kind} {v' : Value} (h : Reads kinds texts i k v)
    (h' : Reads kinds texts i k' v') : k = k' ∧ v = v' := by
  obtain ⟨hk, text, ht, hread⟩ := h
  obtain ⟨hk', text', ht', hread'⟩ := h'
  rw [hk] at hk'
  rw [ht] at ht'
  cases hk'
  cases ht'
  rw [hread] at hread'
  cases hread'
  exact ⟨rfl, rfl⟩

/-- A text is not both read and misread. -/
theorem Reads.not_misreads (h : Reads kinds texts i k v) (e : Invalid) :
    ¬ Misreads kinds texts i e := by
  rintro ⟨-, ht', k', hk', hfault⟩
  obtain ⟨hk, text, ht, hread⟩ := h
  rw [hk] at hk'
  rw [ht] at ht'
  cases hk'
  cases ht'
  rw [hread] at hfault
  cases hfault

section Traversal

/-- Read the text of a parameter at an index. -/
def readAt (index : Nat) (p : Kind × String) : Except Invalid Value :=
  (read p.1 p.2).mapError (⟨index, p.2, ·⟩)

theorem readFrom_eq_traverseFrom (index : Nat) (kinds : List Kind) (texts : List String) :
    readFrom index kinds texts = traverseFrom readAt index (kinds.zip texts) := by
  induction kinds generalizing index texts with
  | nil => rfl
  | cons kind kinds ih =>
      cases texts with
      | nil => rfl
      | cons text texts =>
          have hhead : (read kind text).mapError (⟨index, text, ·⟩) =
              readAt index (kind, text) := rfl
          simp only [readFrom, List.zip_cons_cons, traverseFrom, hhead, ih]
          cases readAt index (kind, text) with
          | error e => rfl
          | ok v => cases traverseFrom readAt (index + 1) (kinds.zip texts) <;> rfl

theorem readAt_eq_ok_iff {p : Kind × String} : readAt i p = .ok v ↔ read p.1 p.2 = .ok v := by
  unfold readAt
  cases read p.1 p.2 <;> simp [Except.mapError]

theorem readAt_eq_error_iff {p : Kind × String} {e : Invalid} :
    readAt i p = .error e ↔ e.index = i ∧ e.text = p.2 ∧ read p.1 p.2 = .error e.fault := by
  unfold readAt
  obtain ⟨index, text, fault⟩ := e
  cases read p.1 p.2 with
  | ok v => simp [Except.mapError]
  | error fault' => simp [Except.mapError, eq_comm]

/-- What a traversal gives at a place is what the text there is read as. -/
theorem map_readAt_eq_ok_iff : (∃ v, (kinds.zip texts)[i]?.map (readAt i) = some (.ok v)) ↔
    ∃ k v, Reads kinds texts i k v := by
  constructor
  · rintro ⟨v, hv⟩
    obtain ⟨p, hp, hread⟩ := Option.map_eq_some_iff.1 hv
    obtain ⟨hk, ht⟩ := List.getElem?_zip_eq_some.1 hp
    exact ⟨p.1, v, hk, p.2, ht, readAt_eq_ok_iff.1 hread⟩
  · rintro ⟨k, v, hk, text, ht, hread⟩
    have hp : (kinds.zip texts)[i]? = some (k, text) := List.getElem?_zip_eq_some.2 ⟨hk, ht⟩
    refine ⟨v, ?_⟩
    rw [hp, Option.map_some, readAt_eq_ok_iff.2 hread]

theorem map_readAt_eq_error_iff {e : Invalid} :
    (kinds.zip texts)[i]?.map (readAt i) = some (.error e) ↔ Misreads kinds texts i e := by
  constructor
  · intro he
    obtain ⟨p, hp, hread⟩ := Option.map_eq_some_iff.1 he
    obtain ⟨hk, ht⟩ := List.getElem?_zip_eq_some.1 hp
    obtain ⟨hindex, htext, hfault⟩ := readAt_eq_error_iff.1 hread
    exact ⟨hindex, by rw [htext]; exact ht, p.1, hk, by rw [htext]; exact hfault⟩
  · rintro ⟨hindex, ht, k, hk, hfault⟩
    have hp : (kinds.zip texts)[i]? = some (k, e.text) := List.getElem?_zip_eq_some.2 ⟨hk, ht⟩
    rw [hp, Option.map_some, readAt_eq_error_iff.2 ⟨hindex, rfl, hfault⟩]

/-- Texts of the wrong number are left as they are. -/
theorem readAll_of_length_ne (hcount : texts.length ≠ kinds.length) :
    readAll kinds texts = .ok (texts.map .string) := by
  rw [readAll, if_neg hcount]

/-- Texts are not arguments for the least place at which one of them cannot be read. -/
theorem readAll_eq_error_iff (hcount : texts.length = kinds.length) {e : Invalid} :
    readAll kinds texts = .error e ↔
      ∃ i, Misreads kinds texts i e ∧ ∀ j < i, ∃ k v, Reads kinds texts j k v := by
  rw [readAll, if_pos hcount, readFrom_eq_traverseFrom, traverseFrom_eq_error_iff]
  simp only [Nat.zero_add, map_readAt_eq_ok_iff, map_readAt_eq_error_iff]

/-- What was read stands at the places of the texts. -/
theorem readAll_eq_ok (hcount : texts.length = kinds.length)
    (h : readAll kinds texts = .ok values) :
    values.length = kinds.length ∧
      ∀ i k v, kinds[i]? = some k → values[i]? = some v → Reads kinds texts i k v := by
  rw [readAll, if_pos hcount, readFrom_eq_traverseFrom] at h
  refine ⟨?_, ?_⟩
  · rw [length_of_traverseFrom h, List.length_zip, hcount, Nat.min_self]
  · intro i k v hk hv
    have hi := (traverseFrom_eq_ok_iff readAt 0 _ _).1 h i
    rw [Nat.zero_add] at hi
    rw [hv, Option.map_some] at hi
    obtain ⟨p, hp, hread⟩ := Option.map_eq_some_iff.1 hi
    obtain ⟨hk', ht⟩ := List.getElem?_zip_eq_some.1 hp
    obtain rfl : p.1 = k := by rw [hk] at hk'; exact (Option.some.inj hk').symm
    exact ⟨hk, p.2, ht, readAt_eq_ok_iff.1 hread⟩

/-- If nothing is misread, every text is read. -/
theorem reads_of_readAll (hcount : texts.length = kinds.length)
    (h : readAll kinds texts = .ok values) :
    ∀ i < kinds.length, ∃ k v, Reads kinds texts i k v := by
  intro i hi
  obtain ⟨hlength, hreads⟩ := readAll_eq_ok hcount h
  exact ⟨_, _, hreads i _ _ (List.getElem?_eq_getElem hi) (List.getElem?_eq_getElem (hlength ▸ hi))⟩

end Traversal

section Coercion

/-- What a text is read as: an integer of 64 bits for the integer kinds, and an operand of the kind
for each of the others. -/
theorem read_eq_ok {text : String} (h : read k text = .ok v) :
    (k.isInteger = true ∧ ((∃ n, v = .i64 n) ∨ ∃ n, v = .u64 n)) ∨
      ∃ r : Operand, v = r.toValue ∧ k = r.kind ∧ v.toInt? = none ∧
        ∀ number payload, r ≠ .ref (.held number payload) := by
  have hinteger : ∀ {width : Nat}, k.width? = some width → (∃ n, v = .i64 n) ∨ ∃ n, v = .u64 n := by
    intro width hk
    obtain ⟨_, -, -, hcarries⟩ := readInteger_eq_ok_iff.1 ((read_eq_ok_iff hk).1 h)
    cases hcarries with
    | signed m _ _ _ => exact .inl ⟨m, rfl⟩
    | unsigned m _ _ _ => exact .inr ⟨m, rfl⟩
  cases k with
  | i32 => exact .inl ⟨rfl, hinteger rfl⟩
  | i64 => exact .inl ⟨rfl, hinteger rfl⟩
  | f32 =>
      simp only [read] at h
      cases hok : readFloat binary32 text.toList with
      | error e => rw [hok] at h; cases h
      | ok bits =>
          rw [hok] at h
          cases h
          exact .inr ⟨.f32 _, rfl, rfl, rfl, nofun⟩
  | f64 =>
      simp only [read] at h
      cases hok : readFloat binary64 text.toList with
      | error e => rw [hok] at h; cases h
      | ok bits =>
          rw [hok] at h
          cases h
          exact .inr ⟨.f64 _, rfl, rfl, rfl, nofun⟩
  | ref =>
      simp only [read] at h
      split at h
      · cases h
        exact .inr ⟨.ref .null, rfl, rfl, rfl, nofun⟩
      · cases h

/-- An integer is narrowed, unless it does not fit and nothing is truncated. -/
theorem coerce_integer (hkind : k.isInteger = true) {n : Int} (hv : v.toInt? = some n)
    (policy : OverflowPolicy) (index : Nat) :
    ((∃ r, coerce policy index k v = .ok r) ∧ (policy = .reject → k.fits n = true)) ∨
      (policy = .reject ∧ k.fits n = false ∧
        coerce policy index k v = .error (.argumentOutOfRange index k (toString n))) := by
  obtain ⟨width, hk, hfits⟩ : ∃ width, k.width? = some width ∧ k.fits n = fitsSigned width n := by
    cases k with
    | i32 => exact ⟨32, rfl, rfl⟩
    | i64 => exact ⟨64, rfl, rfl⟩
    | _ => cases hkind
  have hnarrows := narrows_coerce hk hv policy index
  generalize coerce policy index k v = result at hnarrows ⊢
  rw [hfits]
  cases hnarrows with
  | fits hn r _ => exact .inl ⟨⟨r, rfl⟩, fun _ => fitsSigned_iff.2 hn⟩
  | truncated hpolicy _ _ _ r _ =>
      rw [hpolicy]
      exact .inl ⟨⟨r, rfl⟩, nofun⟩
  | rejected hpolicy hn text htext =>
      obtain rfl := String.toList_inj.1 (canonical_iff.1 htext)
      exact .inr ⟨hpolicy, Bool.eq_false_iff.2 fun h => hn (fitsSigned_iff.1 h), rfl⟩

/-- What was read is coerced, unless it is an integer which exceeds its parameter and nothing is
truncated. -/
theorem coerce_of_read {text : String} (h : read k text = .ok v) (policy : OverflowPolicy)
    (index : Nat) :
    ((∃ r, coerce policy index k v = .ok r) ∧
        (policy = .reject → ∀ n, v.toInt? = some n → k.fits n = true)) ∨
      ∃ n, policy = .reject ∧ v.toInt? = some n ∧ k.fits n = false ∧
        coerce policy index k v = .error (.argumentOutOfRange index k (toString n)) := by
  rcases read_eq_ok h with ⟨hkind, hv⟩ | ⟨r, rfl, rfl, hnone, -⟩
  · obtain ⟨n, hn⟩ : ∃ n, v.toInt? = some n := by
      rcases hv with ⟨m, rfl⟩ | ⟨m, rfl⟩ <;> exact ⟨_, rfl⟩
    rcases coerce_integer hkind hn policy index with ⟨hok, hfits⟩ | ⟨hpolicy, hfits, herror⟩
    · refine .inl ⟨hok, ?_⟩
      intro hpolicy m hm
      rw [hn] at hm
      cases hm
      exact hfits hpolicy
    · exact .inr ⟨n, hpolicy, hn, hfits, herror⟩
  · exact .inl ⟨⟨r, coerce_toValue policy index r⟩, by simp [hnone]⟩

variable {ι : Type} {c : Callable ι}

/-- What was read for a parameter is coerced to its kind, with the same index. -/
theorem coercion?_of_readAll (hcount : texts.length = c.signature.params.length)
    (h : readAll c.signature.params texts = .ok values) {i : Nat}
    (hi : i < c.signature.params.length) :
    ∃ k v, Reads c.signature.params texts i k v ∧ values[i]? = some v ∧
      c.coercion? values i = some (coerce c.policy i k v) := by
  obtain ⟨hlength, hreads⟩ := readAll_eq_ok hcount h
  have hk := List.getElem?_eq_getElem hi
  have hv := List.getElem?_eq_getElem (hlength ▸ hi : i < values.length)
  refine ⟨_, _, hreads i _ _ hk hv, hv, ?_⟩
  unfold Callable.coercion?
  rw [hk, hv]

/-- What was read and coerced does not exceed its parameter, if nothing is truncated. -/
theorem not_exceeds_of_coerce (hreads : Reads kinds texts i k v) {policy : OverflowPolicy}
    {r : Operand} (hr : coerce policy i k v = .ok r) (hpolicy : policy = .reject) (k' : Kind)
    (n : Int) : ¬ Exceeds kinds texts i k' n := by
  rintro ⟨⟨v', hreads', hn⟩, hunfit⟩
  obtain ⟨rfl, rfl⟩ := hreads.unique hreads'
  obtain ⟨text, -, hread⟩ := hreads.text
  rcases coerce_of_read hread policy i with ⟨-, hfits⟩ | ⟨m, -, -, -, herror⟩
  · rw [hfits hpolicy n hn] at hunfit
    cases hunfit
  · rw [hr] at herror
    cases herror

/-- What was read is refused for the least integer which exceeds its parameter, and for nothing
else. -/
theorem refuses_of_readAll (hcount : texts.length = c.signature.params.length)
    (h : readAll c.signature.params texts = .ok values) {e : CallError}
    (hrefused : c.Refuses values e) :
    c.policy = .reject ∧ ∃ i k n, Exceeds c.signature.params texts i k n ∧
      e = .argumentOutOfRange i k (toString n) ∧
      ∀ j < i, ∀ k' n', ¬ Exceeds c.signature.params texts j k' n' := by
  cases hrefused with
  | arity hne => exact absurd (readAll_eq_ok hcount h).1 hne
  | coercion _ i _ hfails hleast =>
      have hi : i < c.signature.params.length := by
        by_contra hge
        rw [Callable.coercion?, List.getElem?_eq_none (Nat.le_of_not_lt hge)] at hfails
        cases hfails
      obtain ⟨k, v, hreads, -, hcoercion⟩ := coercion?_of_readAll hcount h hi
      obtain ⟨text, -, hread⟩ := hreads.text
      rw [hcoercion, Option.some.injEq] at hfails
      rcases coerce_of_read hread c.policy i with ⟨⟨r, hr⟩, -⟩ | ⟨n, hpolicy, hn, hunfit, herror⟩
      · rw [hr] at hfails
        cases hfails
      · rw [herror] at hfails
        cases hfails
        refine ⟨hpolicy, i, k, n, ⟨⟨v, hreads, hn⟩, hunfit⟩, rfl, ?_⟩
        intro j hj
        obtain ⟨r, hr⟩ := hleast j hj
        obtain ⟨k', v', hreads', -, hcoercion'⟩ :=
          coercion?_of_readAll hcount h (Nat.lt_trans hj hi)
        rw [hcoercion', Option.some.injEq] at hr
        exact not_exceeds_of_coerce hreads' hr hpolicy

/-- What was read is accepted only if no integer exceeds its parameter, and there is no handle among
the operands. -/
theorem accepts_of_readAll (hcount : texts.length = c.signature.params.length)
    (h : readAll c.signature.params texts = .ok values) {operands : List Operand}
    (haccepted : c.Accepts values operands) :
    Admissible c.policy c.signature.params texts ∧
      ∀ (i number : Nat) (payload : Payload),
        operands[i]? ≠ some (.ref (.held number payload)) := by
  refine ⟨⟨hcount, reads_of_readAll hcount h, ?_⟩, ?_⟩
  · rintro hpolicy i k n hexceeds
    obtain ⟨v, hreads, -⟩ := hexceeds.reads
    have hi := (List.getElem?_eq_some_iff.1 hreads.kind).1
    obtain ⟨k', v', hreads', -, hcoercion⟩ := coercion?_of_readAll hcount h hi
    rw [haccepted.coerced i] at hcoercion
    obtain ⟨r, -, hr⟩ := Option.map_eq_some_iff.1 hcoercion
    exact not_exceeds_of_coerce hreads' hr.symm hpolicy k n hexceeds
  · intro i number payload hi
    have hv := (haccepted.getElem?_eq_ref_iff i _).1 hi
    have hlt : i < c.signature.params.length := by
      rw [← haccepted.count]
      exact (List.getElem?_eq_some_iff.1 hv).1
    obtain ⟨k, v, hreads, hv', -⟩ := coercion?_of_readAll hcount h hlt
    rw [hv] at hv'
    cases hv'
    obtain ⟨text, -, hread⟩ := hreads.text
    -- Only null is read as a reference.
    rcases read_eq_ok hread with ⟨-, ⟨n, hn⟩ | ⟨n, hn⟩⟩ | ⟨r, hr, -, -, hnull⟩
    · cases hn
    · cases hn
    · cases r with
      | ref g =>
          cases hr
          exact hnull number payload rfl
      | _ => cases hr

end Coercion

end Argument

end WasmCall
