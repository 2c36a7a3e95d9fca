import Mathlib.Tactic.Common

/-!
# Traversals which stop at the first error

Arguments, operands and types are all looked at from left to right, each with its index, and the
first of them which is refused decides.  `traverseFrom` is this loop once and for all:

* it succeeds with one result for each element exactly if no element is refused
  (`traverseFrom_eq_ok_iff`),
* it fails with the error of the least index at which an element is refused
  (`traverseFrom_eq_error_iff`).

Together the two statements leave no third case, so they determine the loop.
-/

namespace WasmCall

variable {α β ε : Type}

/-- Apply a function to every element of a list and its index, counted from a given one.  The first
error ends it. -/
def traverseFrom (f : Nat → α → Except ε β) (index : Nat) : List α → Except ε (List β)
  | [] => .ok []
  | a :: as =>
    match f index a with
    | .error e => .error e
    | .ok b =>
      match traverseFrom f (index + 1) as with
      | .error e => .error e
      | .ok bs => .ok (b :: bs)

@[simp]
theorem traverseFrom_nil (f : Nat → α → Except ε β) (index : Nat) :
    traverseFrom f index [] = .ok [] := rfl

/-- A traversal comes to an end without an error exactly if every element gives the result in its
place. -/
theorem traverseFrom_eq_ok_iff (f : Nat → α → Except ε β) (index : Nat) (as : List α)
    (bs : List β) :
    traverseFrom f index as = .ok bs ↔
      ∀ i : Nat, as[i]?.map (f (index + i)) = bs[i]?.map Except.ok := by
  induction as generalizing index bs with
  | nil =>
      constructor
      · intro h
        obtain rfl : [] = bs := by simpa using h
        simp
      · intro h
        cases bs with
        | nil => rfl
        | cons b bs => simpa using h 0
  | cons a as ih =>
      -- The head decides whether the rest is looked at, one index further on.
      cases hhead : f index a with
      | error e =>
          have hcons : traverseFrom f index (a :: as) = .error e := by
            simp [traverseFrom, hhead]
          rw [hcons]
          constructor
          · intro h
            cases h
          · intro h
            have hzero := h 0
            cases bs <;> simp [hhead] at hzero
      | ok b =>
          constructor
          · intro h
            cases htail : traverseFrom f (index + 1) as with
            | error e => simp [traverseFrom, hhead, htail] at h
            | ok cs =>
                obtain rfl : b :: cs = bs := by simpa [traverseFrom, hhead, htail] using h
                intro i
                cases i with
                | zero => simp [hhead]
                | succ i =>
                    have hi := (ih (index + 1) cs).1 htail i
                    rw [Nat.add_right_comm] at hi
                    simpa [Nat.add_assoc] using hi
          · intro h
            cases bs with
            | nil => simpa using h 0
            | cons c cs =>
                have hzero : b = c := by simpa [hhead] using h 0
                have htail : traverseFrom f (index + 1) as = .ok cs := by
                  rw [ih]
                  intro i
                  have hi := h (i + 1)
                  rw [← Nat.add_assoc, Nat.add_right_comm] at hi
                  simpa using hi
                simp [traverseFrom, hhead, htail, hzero]

/-- There is one result for each element. -/
theorem length_of_traverseFrom {f : Nat → α → Except ε β} {index : Nat} {as : List α}
    {bs : List β} (h : traverseFrom f index as = .ok bs) : bs.length = as.length := by
  induction as generalizing index bs with
  | nil =>
      cases h
      rfl
  | cons a as ih =>
      unfold traverseFrom at h
      cases hhead : f index a with
      | error e => simp [hhead] at h
      | ok b =>
          cases htail : traverseFrom f (index + 1) as with
          | error e => simp [hhead, htail] at h
          | ok cs =>
              obtain rfl : b :: cs = bs := by simpa [hhead, htail] using h
              rw [List.length_cons, List.length_cons, ih htail]

/-- A traversal ends with an error exactly if it is that of the least index with an error. -/
theorem traverseFrom_eq_error_iff (f : Nat → α → Except ε β) (index : Nat) (as : List α) (e : ε) :
    traverseFrom f index as = .error e ↔
      ∃ i : Nat, as[i]?.map (f (index + i)) = some (.error e) ∧
        ∀ j < i, ∃ b, as[j]?.map (f (index + j)) = some (.ok b) := by
  induction as generalizing index with
  | nil => simp
  | cons a as ih =>
      cases hhead : f index a with
      | error e' =>
          have hcons : traverseFrom f index (a :: as) = .error e' := by
            simp [traverseFrom, hhead]
          rw [hcons]
          constructor
          · intro h
            cases h
            exact ⟨0, by simp [hhead], by intro j hj; omega⟩
          · rintro ⟨i, hi, hbefore⟩
            cases i with
            | zero => simpa [hhead] using hi
            | succ i =>
                obtain ⟨b, hb⟩ := hbefore 0 (Nat.succ_pos i)
                simp [hhead] at hb
      | ok b =>
          have hcons : traverseFrom f index (a :: as) = .error e ↔
              traverseFrom f (index + 1) as = .error e := by
            cases htail : traverseFrom f (index + 1) as <;> simp [traverseFrom, hhead, htail]
          rw [hcons, ih]
          constructor
          · rintro ⟨i, hi, hbefore⟩
            refine ⟨i + 1, by simpa [Nat.add_assoc, Nat.add_comm 1] using hi, ?_⟩
            intro j hj
            cases j with
            | zero => exact ⟨b, by simp [hhead]⟩
            | succ j =>
                obtain ⟨c, hc⟩ := hbefore j (by omega)
                exact ⟨c, by simpa [Nat.add_assoc, Nat.add_comm 1] using hc⟩
          · rintro ⟨i, hi, hbefore⟩
            cases i with
            | zero => simp [hhead] at hi
            | succ i =>
                refine ⟨i, by simpa [Nat.add_assoc, Nat.add_comm 1] using hi, ?_⟩
                intro j hj
                obtain ⟨c, hc⟩ := hbefore (j + 1) (by omega)
                exact ⟨c, by simpa [Nat.add_assoc, Nat.add_comm 1] using hc⟩

end WasmCall
