import WasmCall.Value.Handle

/-!
# Where references come from

Handles are compared by number, and a number does not show where a handle comes from.  This file says
what the comparison tells all the same, for a program which comes by references one after another.

* `Act`: the three ways to come by a reference.  A new handle takes the next number of a supply.
* `Obtained`: the references which a program has after some acts, each at the place of its act.
* `StemsFrom`: the reference at a place goes back to another place, through copies.
* `Sound`: what the references are like.  Every act preserves it (`Sound.act`), so it holds after any
  acts (`Obtained.sound`).

Main statement: `Obtained.same_iff`, by which two references are the same if both are null or if both
go back to one act which made a handle, and not otherwise.
-/

namespace WasmCall.Handle

/-- A way to come by a reference: the null reference, a new handle for a payload, or a copy of the
reference at a place. -/
inductive Act where
  | null
  | make (payload : Payload)
  | copy (place : Nat)

/-- What an act brings, where there are some references already, and what it leaves of the supply. -/
inductive Act.Brings (handles : List Handle) (s : HandleSupply) : Act → Handle → HandleSupply → Prop
  | null : Brings handles s .null .null s
  | make (payload : Payload) :
      Brings handles s (.make payload) (s.issue payload).1 (s.issue payload).2
  | copy (place : Nat) (g : Handle) (hg : handles[place]? = some g) :
      Brings handles s (.copy place) g s

/-- The references which a program has after some acts, in the order of the acts. -/
inductive Obtained (supply : HandleSupply) : List Act → List Handle → HandleSupply → Prop
  | start : Obtained supply [] [] supply
  | act {acts : List Act} {handles : List Handle} {s s' : HandleSupply} {a : Act} {g : Handle}
      (before : Obtained supply acts handles s) (hbrings : a.Brings handles s g s') :
      Obtained supply (acts ++ [a]) (handles ++ [g]) s'

/-- What is at a place goes back to what is at another place, through copies. -/
inductive StemsFrom (acts : List Act) (root : Nat) : Nat → Prop
  | root : StemsFrom acts root root
  | copy {i place : Nat} (hact : acts[i]? = some (.copy place)) (hplace : StemsFrom acts root place) :
      StemsFrom acts root i

/-- Two references are copies of one handle, or this handle itself. -/
def OfOneMake (acts : List Act) (i j : Nat) : Prop :=
  ∃ root payload, acts[root]? = some (.make payload) ∧ StemsFrom acts root i ∧ StemsFrom acts root j

/-- Null is the same as null only. -/
theorem same_null_iff (g : Handle) : g.same .null = true ↔ g = .null := by
  cases g <;> simp [same]

theorem same_trans {a b c : Handle} (hab : a.same b = true) (hbc : b.same c = true) :
    a.same c = true := by
  cases a <;> cases b <;> cases c <;> simp_all [same]

/-- What the references of a program are like, if `origin` tells at which place the handle of a number
was made.

* `count`: there is one for each act.
* `null`, `made`, `copied`: each of them is what its act says, and copies are of earlier ones. -/
structure Sound (origin : Nat → Nat) (acts : List Act) (handles : List Handle) (s : HandleSupply) :
    Prop where
  count : handles.length = acts.length
  null : ∀ i : Nat, acts[i]? = some .null → handles[i]? = some .null
  made : ∀ (i : Nat) (p : Payload), acts[i]? = some (.make p) →
    ∃ n < s.next, origin n = i ∧ handles[i]? = some (.held n p)
  copied : ∀ i place : Nat, acts[i]? = some (.copy place) →
    place < i ∧ ∃ g, handles[i]? = some g ∧ handles[place]? = some g

variable {origin : Nat → Nat} {supply s s' : HandleSupply} {acts : List Act} {handles : List Handle}
  {a : Act} {g g' : Handle} {i j root : Nat}

/-- An element of a list with one more at the end is from the list, or it is the one at the end. -/
theorem getElem?_concat_eq_some {α : Type} {xs : List α} {x y : α} :
    (xs ++ [x])[i]? = some y ↔ xs[i]? = some y ∨ i = xs.length ∧ x = y := by
  rcases Nat.lt_trichotomy i xs.length with hlt | rfl | hgt
  · rw [List.getElem?_append_left hlt]
    simp [Nat.ne_of_lt hlt]
  · simp
  · have hlength : (xs ++ [x]).length ≤ i := by
      rw [List.length_append]
      exact hgt
    rw [List.getElem?_eq_none hlength, List.getElem?_eq_none (Nat.le_of_lt hgt)]
    simp [Nat.ne_of_gt hgt]

/-- An act gives what it says, and leaves the references which there are as they are. -/
theorem Sound.act (h : Sound origin acts handles s) (hbrings : a.Brings handles s g s') :
    ∃ origin', Sound origin' (acts ++ [a]) (handles ++ [g]) s' := by
  have hkeep : ∀ {i : Nat} {f : Handle}, handles[i]? = some f → (handles ++ [g])[i]? = some f :=
    fun hf => getElem?_concat_eq_some.2 (.inl hf)
  have hlast : (handles ++ [g])[acts.length]? = some g :=
    getElem?_concat_eq_some.2 (.inr ⟨h.count.symm, rfl⟩)
  -- The number which is free now is the only one which may be given out.
  refine ⟨fun n => if n < s.next then origin n else acts.length, ?_, ?_, ?_, ?_⟩
  · rw [List.length_append, List.length_append, h.count]
    rfl
  · intro i hi
    rcases getElem?_concat_eq_some.1 hi with hold | ⟨rfl, rfl⟩
    · exact hkeep (h.null i hold)
    · cases hbrings with
      | null => exact hlast
  · intro i p hi
    rcases getElem?_concat_eq_some.1 hi with hold | ⟨rfl, rfl⟩
    · obtain ⟨n, hn, horigin, hheld⟩ := h.made i p hold
      have hnext : s.next ≤ s'.next := by
        cases hbrings with
        | null => exact Nat.le_refl _
        | make payload => exact Nat.le_succ _
        | copy place g hg => exact Nat.le_refl _
      exact ⟨n, Nat.lt_of_lt_of_le hn hnext, (if_pos hn).trans horigin, hkeep hheld⟩
    · cases hbrings with
      | make payload =>
          exact ⟨s.next, Nat.lt_succ_self _, if_neg (Nat.lt_irrefl _), hlast⟩
  · intro i place hi
    rcases getElem?_concat_eq_some.1 hi with hold | ⟨rfl, rfl⟩
    · obtain ⟨hplace, f, hf, hf'⟩ := h.copied i place hold
      exact ⟨hplace, f, hkeep hf, hkeep hf'⟩
    · cases hbrings with
      | copy _ _ hg =>
          have hplace : place < handles.length := (List.getElem?_eq_some_iff.1 hg).1
          exact ⟨h.count ▸ hplace, g, hlast, hkeep hg⟩

theorem Obtained.sound (h : Obtained supply acts handles s) :
    ∃ origin, Sound origin acts handles s := by
  induction h with
  | start =>
      refine ⟨id, rfl, ?_, ?_, ?_⟩
      · intro i hi
        cases hi
      · intro i p hi
        cases hi
      · intro i place hi
        cases hi
  | act before hbrings ih =>
      obtain ⟨origin, hsound⟩ := ih
      exact hsound.act hbrings

/-- A copy is what it goes back to. -/
theorem Sound.getElem?_eq_of_stemsFrom (h : Sound origin acts handles s)
    (hstems : StemsFrom acts root i) : handles[i]? = handles[root]? := by
  induction hstems with
  | root => rfl
  | copy hact _ ih =>
      obtain ⟨-, f, hf, hplace⟩ := h.copied _ _ hact
      rw [hf, ← ih, hplace]

/-- Whatever a program has goes back to an act which is not a copy. -/
theorem Sound.exists_root (h : Sound origin acts handles s) (hi : i < acts.length) :
    ∃ root, StemsFrom acts root i ∧
      (acts[root]? = some .null ∨ ∃ p, acts[root]? = some (.make p)) := by
  induction i using Nat.strongRecOn with
  | ind i ih =>
      have hact := List.getElem?_eq_getElem hi
      cases hwhich : acts[i] with
      | null => exact ⟨i, .root, .inl (hact.trans (congrArg some hwhich))⟩
      | make p => exact ⟨i, .root, .inr ⟨p, hact.trans (congrArg some hwhich)⟩⟩
      | copy place =>
          rw [hwhich] at hact
          obtain ⟨hplace, -⟩ := h.copied i place hact
          obtain ⟨root, hstems, hroot⟩ := ih place hplace (Nat.lt_trans hplace hi)
          exact ⟨root, .copy hact hstems, hroot⟩

/-- A reference is null, or a handle which goes back to the act which made its number. -/
theorem Sound.null_or_made (h : Sound origin acts handles s) (hg : handles[i]? = some g) :
    g = .null ∨
      ∃ n p, g = .held n p ∧ acts[origin n]? = some (.make p) ∧ StemsFrom acts (origin n) i := by
  have hi : i < acts.length := h.count ▸ (List.getElem?_eq_some_iff.1 hg).1
  obtain ⟨root, hstems, hnull | ⟨p, hmake⟩⟩ := h.exists_root hi
  · have hroot := h.null root hnull
    rw [← h.getElem?_eq_of_stemsFrom hstems, hg] at hroot
    exact .inl (Option.some.inj hroot)
  · obtain ⟨n, -, rfl, hheld⟩ := h.made root p hmake
    rw [← h.getElem?_eq_of_stemsFrom hstems, hg] at hheld
    exact .inr ⟨n, p, Option.some.inj hheld, hmake, hstems⟩

/-- Two references of a program are the same if and only if both are null or both go back to one act
which made a handle. -/
theorem Obtained.same_iff (h : Obtained supply acts handles s) (hg : handles[i]? = some g)
    (hg' : handles[j]? = some g') :
    g.same g' = true ↔ (g = .null ∧ g' = .null) ∨ OfOneMake acts i j := by
  obtain ⟨origin, hsound⟩ := h.sound
  constructor
  · intro hsame
    rcases hsound.null_or_made hg with rfl | ⟨n, p, rfl, hmake, hstems⟩ <;>
      rcases hsound.null_or_made hg' with rfl | ⟨n', p', rfl, hmake', hstems'⟩
    · exact .inl ⟨rfl, rfl⟩
    · cases hsame
    · cases hsame
    · obtain rfl : n = n' := beq_iff_eq.1 hsame
      exact .inr ⟨origin n, p, hmake, hstems, hstems'⟩
  · rintro (⟨rfl, rfl⟩ | ⟨root, p, hmake, hstems, hstems'⟩)
    · rfl
    · have heq : some g = some g' := by
        rw [← hg, ← hg', hsound.getElem?_eq_of_stemsFrom hstems,
          hsound.getElem?_eq_of_stemsFrom hstems']
      rw [Option.some.inj heq]
      exact same_self g'

end WasmCall.Handle
