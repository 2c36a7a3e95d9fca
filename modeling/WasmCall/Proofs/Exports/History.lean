import WasmCall.Exports.Surfaces
import WasmCall.Proofs.Exports.Cache

/-!
# Histories of surfaces

A program puts surfaces over one resolver, copies them, and requests functions on them, in any order
and while the resolver changes.  A `Run` is what happened so far; each `Step` of it keeps what there
was before, so that what came of it can still be told:

* `Step.Creates`: a family began,
* `Step.Gives`: a request in a family succeeded,
* `Step.Learns`: the resolver was asked in the course of a request, and knew the name.

To see when the resolver is asked, it is given a record (`recording`), which changes nothing
otherwise (`getFunction_recording`).

One step makes very little of a family: it keeps its policy, and remembers what was given in it for a
name which it did not remember (`Develops`, `perform_families`).
-/

namespace WasmCall.Surfaces

variable {ρ ι : Type}

/-- A question which was put to a resolver, with its answer. -/
structure Asked (ι : Type) where
  name : String
  answer : Except CallError (Resolved ι)

/-- Ask as before, and write the question down behind those which are written down already. -/
def recording (resolve : Resolver ρ ι) : Resolver (ρ × List (Asked ι)) ι :=
  fun name s =>
    (resolve name s.1).mapState fun r => (r, s.2 ++ [⟨name, (resolve name s.1).result⟩])

/-- Surfaces whose questions are written down, nothing of which has happened yet. -/
def recorded (s : Surfaces ρ ι) : Surfaces (ρ × List (Asked ι)) ι :=
  ⟨(s.resolver, []), s.families⟩

/-- Forget what was written down. -/
def forget (s : Surfaces (ρ × List (Asked ι)) ι) : Surfaces ρ ι :=
  ⟨s.resolver.1, s.families⟩

/-- The questions which are put to the resolver in the course of a request, in order. -/
def asked (resolve : Resolver ρ ι) (s : Surfaces ρ ι) (family : Nat) (name : String) :
    List (Asked ι) :=
  (s.recorded.getFunction (recording resolve) family name).state.resolver.2

/-- A program with the surfaces which it holds, each known by the number of its family. -/
structure Holder (ρ ι : Type) where
  surfaces : Surfaces ρ ι
  held : List Nat

/-- What a program can do.  It names a surface by the place where it holds it.

* `create`: put a new surface over the resolver.
* `copy`: copy a surface.
* `change`: let the resolver change, in whatever way.
* `request`: look up a function on a surface. -/
inductive Action (ρ : Type) where
  | create (policy : OverflowPolicy)
  | copy (surface : Nat)
  | change (f : ρ → ρ)
  | request (surface : Nat) (name : String)

/-- The program behind an action.  Nothing can be done with a surface which it does not hold. -/
def Holder.perform (resolve : Resolver ρ ι) (p : Holder ρ ι) : Action ρ → Holder ρ ι
  | .create policy =>
    let (family, surfaces) := p.surfaces.create policy
    ⟨surfaces, p.held ++ [family]⟩
  | .copy surface =>
    match p.held[surface]? with
    | some family => { p with held := p.held ++ [family] }
    | none => p
  | .change f => { p with surfaces := p.surfaces.change f }
  | .request surface name =>
    match p.held[surface]? with
    | some family => { p with surfaces := (p.surfaces.getFunction resolve family name).state }
    | none => p

/-- An action, and the program which did it. -/
structure Step (ρ ι : Type) where
  before : Holder ρ ι
  action : Action ρ

namespace Step

/-- A new surface began a family. -/
inductive Creates : Step ρ ι → Nat → OverflowPolicy → Prop
  | mk (p : Holder ρ ι) (policy : OverflowPolicy) :
      Creates ⟨p, .create policy⟩ (p.surfaces.create policy).1 policy

/-- A request on a surface of a family gave a callable. -/
inductive Gives (resolve : Resolver ρ ι) : Step ρ ι → Nat → String → Callable ι → Prop
  | mk (p : Holder ρ ι) (surface family : Nat) (name : String) (c : Callable ι)
      (hfamily : p.held[surface]? = some family)
      (hgiven : (p.surfaces.getFunction resolve family name).result = .ok c) :
      Gives resolve ⟨p, .request surface name⟩ family name c

/-- The resolver was asked in the course of a request on a surface of a family, and knew the
name. -/
inductive Learns (resolve : Resolver ρ ι) : Step ρ ι → Nat → String → Prop
  | mk (p : Holder ρ ι) (surface family : Nat) (name : String) (r : Resolved ι)
      (hfamily : p.held[surface]? = some family)
      (hasked : ⟨name, .ok r⟩ ∈ p.surfaces.asked resolve family name) :
      Learns resolve ⟨p, .request surface name⟩ family name

/-- No two steps begin the same family, or are told about the same name in it. -/
structure Apart (resolve : Resolver ρ ι) (later earlier : Step ρ ι) : Prop where
  creates : ∀ family policy policy', later.Creates family policy →
    ¬ earlier.Creates family policy'
  learns : ∀ family name, later.Learns resolve family name → ¬ earlier.Learns resolve family name

end Step

/-- The steps which a program has taken, the latest of them first, and the program behind them. -/
inductive Run (resolve : Resolver ρ ι) : List (Step ρ ι) → Holder ρ ι → Prop
  | start (resolver : ρ) : Run resolve [] ⟨ofResolver resolver, []⟩
  | step {past : List (Step ρ ι)} {p : Holder ρ ι} (hrun : Run resolve past p) (a : Action ρ) :
      Run resolve (⟨p, a⟩ :: past) (p.perform resolve a)

/-- A callable is what the first request in a family which succeeded for a name gave. -/
inductive First (resolve : Resolver ρ ι) (family : Nat) (name : String) (c : Callable ι) :
    List (Step ρ ι) → Prop
  | here (step : Step ρ ι) (earlier : List (Step ρ ι)) (hgives : step.Gives resolve family name c)
      (hnever : ∀ s ∈ earlier, ∀ d, ¬ s.Gives resolve family name d) :
      First resolve family name c (step :: earlier)
  | behind (step : Step ρ ι) (earlier : List (Step ρ ι))
      (hfirst : First resolve family name c earlier) :
      First resolve family name c (step :: earlier)

variable {resolve : Resolver ρ ι} {s : Surfaces ρ ι} {p : Holder ρ ι} {past : List (Step ρ ι)}
  {family other surface : Nat} {name : String} {c d : Callable ι} {f : Family ι}

theorem First.exists_gives (h : First resolve family name c past) :
    ∃ step ∈ past, step.Gives resolve family name c := by
  induction h with
  | here step earlier hgives hnever => exact ⟨step, List.mem_cons_self, hgives⟩
  | behind step earlier hfirst ih =>
      obtain ⟨step', hstep', hgives⟩ := ih
      exact ⟨step', List.mem_cons_of_mem _ hstep', hgives⟩

/-- Some request was the first one unless there was none. -/
theorem exists_first_or_never (resolve : Resolver ρ ι) (family : Nat) (name : String)
    (past : List (Step ρ ι)) :
    (∃ c, First resolve family name c past) ∨
      ∀ step ∈ past, ∀ c, ¬ step.Gives resolve family name c := by
  induction past with
  | nil => exact .inr (by simp)
  | cons step past ih =>
      rcases ih with ⟨c, hc⟩ | hnever
      · exact .inl ⟨c, .behind step past hc⟩
      · by_cases hgives : ∃ c, step.Gives resolve family name c
        · obtain ⟨c, hc⟩ := hgives
          exact .inl ⟨c, .here step past hc hnever⟩
        · refine .inr ?_
          intro step' hstep' c hc
          rcases List.mem_cons.1 hstep' with rfl | hpast
          · exact hgives ⟨c, hc⟩
          · exact hnever step' hpast c hc

/-- One more step can only be the first one if there was none before. -/
theorem first_cons_iff {step : Step ρ ι} :
    First resolve family name c (step :: past) ↔
      First resolve family name c past ∨
        (∀ s ∈ past, ∀ d, ¬ s.Gives resolve family name d) ∧
          step.Gives resolve family name c := by
  constructor
  · intro h
    cases h with
    | here _ _ hgives hnever => exact .inr ⟨hnever, hgives⟩
    | behind _ _ hfirst => exact .inl hfirst
  · rintro (hfirst | ⟨hnever, hgives⟩)
    · exact .behind step past hfirst
    · exact .here step past hgives hnever

section Request

/-- A request is a lookup in the cache of the family. -/
theorem getFunction_of_family (hf : s.families[family]? = some f) :
    s.getFunction resolve family name =
      (Exports.getFunction resolve f.policy name s.resolver f.cache).mapState fun after =>
        ⟨after.1, s.families.set family { f with cache := after.2 }⟩ := by
  unfold getFunction
  rw [hf]

/-- The families behind a request: only the cache of the one in which it was made may change. -/
theorem families_getFunction (resolve : Resolver ρ ι) (s : Surfaces ρ ι) (family : Nat)
    (name : String) (g : Nat) :
    (s.getFunction resolve family name).state.families[g]? =
      s.families[g]?.map fun f =>
        if g = family then
          { f with cache := (Exports.getFunction resolve f.policy name s.resolver f.cache).state.2 }
        else f := by
  cases hf : s.families[family]? with
  | none =>
      unfold getFunction
      rw [hf]
      by_cases hg : g = family
      · simp [Reply.pure, hg, hf]
      · simp [Reply.pure, hg]
  | some f =>
      rw [getFunction_of_family hf]
      simp only [Reply.mapState, List.getElem?_set]
      by_cases hg : family = g
      · subst hg
        have hlt := (List.getElem?_eq_some_iff.1 hf).1
        rw [hf]
        simp [hlt]
      · have hne : g ≠ family := fun h => hg h.symm
        simp [hg, hne]

/-- A request asks the resolver exactly if nothing is remembered for the name. -/
theorem asked_of_family (hf : s.families[family]? = some f) :
    s.asked resolve family name =
      if f.cache.find? name = none then [⟨name, (resolve name s.resolver).result⟩] else [] := by
  have hfamily : s.recorded.families[family]? = some f := hf
  unfold asked
  rw [getFunction_of_family hfamily]
  cases hfound : f.cache.find? name with
  | some c =>
      rw [Exports.getFunction_of_cached hfound]
      rfl
  | none =>
      cases hresolve : (resolve name s.resolver).result with
      | error e =>
          have hanswer : (recording resolve name s.recorded.resolver).result = .error e := hresolve
          rw [Exports.getFunction_of_error hfound hanswer]
          simp [recorded, recording, Reply.mapState, hresolve]
      | ok r =>
          have hanswer : (recording resolve name s.recorded.resolver).result = .ok r := hresolve
          rw [Exports.getFunction_of_ok hfound hanswer]
          simp [recorded, recording, Reply.mapState, hresolve]

/-- A request is the same whether its questions are written down or not. -/
theorem getFunction_recording (resolve : Resolver ρ ι) (s : Surfaces ρ ι) (family : Nat)
    (name : String) :
    (s.recorded.getFunction (recording resolve) family name).mapState forget =
      s.getFunction resolve family name := by
  cases hf : s.families[family]? with
  | none =>
      unfold getFunction
      rw [show s.recorded.families[family]? = none from hf, hf]
      rfl
  | some f =>
      have hfamily : s.recorded.families[family]? = some f := hf
      rw [getFunction_of_family hf, getFunction_of_family hfamily]
      cases hfound : f.cache.find? name with
      | some c =>
          rw [Exports.getFunction_of_cached hfound, Exports.getFunction_of_cached hfound]
          rfl
      | none =>
          cases hresolve : (resolve name s.resolver).result with
          | error e =>
              have hanswer : (recording resolve name s.recorded.resolver).result = .error e :=
                hresolve
              rw [Exports.getFunction_of_error hfound hresolve,
                Exports.getFunction_of_error hfound hanswer]
              rfl
          | ok r =>
              have hanswer : (recording resolve name s.recorded.resolver).result = .ok r := hresolve
              rw [Exports.getFunction_of_ok hfound hresolve,
                Exports.getFunction_of_ok hfound hanswer]
              rfl

/-- What a request gives depends on the family and the resolver only. -/
theorem result_getFunction_congr {t : Surfaces ρ ι}
    (hfamily : s.families[family]? = t.families[family]?) (hresolver : s.resolver = t.resolver) :
    (s.getFunction resolve family name).result = (t.getFunction resolve family name).result := by
  unfold getFunction
  rw [hfamily, hresolver]
  cases t.families[family]? <;> rfl

/-- A request in a family makes no difference to another one, except through the resolver. -/
theorem result_getFunction_other {name' : String} {resolver : ρ} (hother : other ≠ family) :
    (((s.getFunction resolve family name).state.change fun _ => resolver).getFunction
        resolve other name').result =
      ((s.change fun _ => resolver).getFunction resolve other name').result := by
  apply result_getFunction_congr
  · simp only [change, families_getFunction, if_neg hother, Option.map_id_fun', id_eq]
  · rfl

/-- A failure is not remembered. -/
theorem families_of_error {e : CallError}
    (he : (s.getFunction resolve family name).result = .error e) :
    (s.getFunction resolve family name).state.families = s.families := by
  cases hf : s.families[family]? with
  | none =>
      unfold getFunction
      rw [hf]
      rfl
  | some f =>
      rw [getFunction_of_family hf] at he ⊢
      cases hfound : f.cache.find? name with
      | some c =>
          rw [Exports.getFunction_of_cached hfound] at he
          cases he
      | none =>
          cases hresolve : (resolve name s.resolver).result with
          | ok r =>
              rw [Exports.getFunction_of_ok hfound hresolve] at he
              cases he
          | error e' =>
              obtain ⟨hlt, hget⟩ := List.getElem?_eq_some_iff.1 hf
              rw [Exports.getFunction_of_error hfound hresolve, ← hget]
              exact List.set_getElem_self hlt

end Request

section Perform

/-- A request which gives something is made in a family which has begun. -/
theorem Step.Gives.lt_length {step : Step ρ ι} (h : step.Gives resolve family name c) :
    family < step.before.surfaces.families.length := by
  cases h with
  | mk p surface _ _ _ hfamily hgiven =>
      by_contra hge
      have hnone : p.surfaces.families[family]? = none := List.getElem?_eq_none (Nat.le_of_not_lt hge)
      unfold getFunction at hgiven
      rw [hnone] at hgiven
      cases hgiven

/-- A family which was told about a name by the resolver gave a callable. -/
theorem Step.Learns.exists_gives {step : Step ρ ι} (h : step.Learns resolve family name) :
    ∃ c, step.Gives resolve family name c := by
  cases h with
  | mk p surface _ _ r hfamily hasked =>
      cases hf : p.surfaces.families[family]? with
      | none =>
          unfold asked getFunction at hasked
          rw [show p.surfaces.recorded.families[family]? = none from hf] at hasked
          simp [Reply.pure, recorded] at hasked
      | some f =>
          rw [asked_of_family hf] at hasked
          split at hasked
          · rename_i hnone
            have hresolve : (resolve name p.surfaces.resolver).result = .ok r := by
              simpa [eq_comm] using hasked
            refine ⟨Exports.build f.policy name r, .mk p surface family name _ hfamily ?_⟩
            rw [getFunction_of_family hf, Exports.getFunction_of_ok hnone hresolve]
            rfl
          · simp at hasked

theorem gives_request_iff {g : Nat} {n : String} (hheld : p.held[surface]? = some family) :
    Step.Gives resolve ⟨p, .request surface name⟩ g n c ↔
      g = family ∧ n = name ∧ (p.surfaces.getFunction resolve family name).result = .ok c := by
  constructor
  · intro h
    cases h with
    | mk _ _ _ _ _ hfamily hgiven =>
        rw [hheld] at hfamily
        cases hfamily
        exact ⟨rfl, rfl, hgiven⟩
  · rintro ⟨rfl, rfl, hgiven⟩
    exact .mk p surface g n c hheld hgiven

/-- A family and what a step makes of it: it keeps its policy, and remembers one more name if the
step gave something for a name which it did not remember. -/
structure Develops (resolve : Resolver ρ ι) (step : Step ρ ι) (family : Nat) (f f' : Family ι) :
    Prop where
  policy : f'.policy = f.policy
  distinct : f.cache.Distinct → f'.cache.Distinct
  found : ∀ name c, f'.cache.find? name = some c ↔ f.cache.find? name = some c ∨
    f.cache.find? name = none ∧ step.Gives resolve family name c

/-- Where nothing was given, nothing has changed. -/
theorem Develops.refl {step : Step ρ ι} (h : ∀ name c, ¬ step.Gives resolve family name c)
    (f : Family ι) : Develops resolve step family f f := by
  refine ⟨rfl, id, ?_⟩
  intro name c
  simp [h name c]

/-- What a request makes of a family. -/
theorem develops_request (hheld : p.held[surface]? = some family) {g : Nat} {f f' : Family ι}
    (hf : p.surfaces.families[g]? = some f)
    (hf' : (p.surfaces.getFunction resolve family name).state.families[g]? = some f') :
    Develops resolve ⟨p, .request surface name⟩ g f f' := by
  rw [families_getFunction, hf, Option.map_some, Option.some.injEq] at hf'
  subst hf'
  by_cases hg : g = family
  · subst hg
    rw [if_pos rfl]
    refine ⟨rfl, Exports.distinct_getFunction _ _ _ _, ?_⟩
    intro n c
    rw [gives_request_iff hheld, Exports.find?_getFunction, getFunction_of_family hf]
    simp only [Reply.mapState, true_and]
  · rw [if_neg hg]
    apply Develops.refl
    intro n c hgives
    exact hg ((gives_request_iff hheld).1 hgives).1

/-- A family behind an action has developed from what it was before, unless a new surface has just
begun it. -/
theorem perform_families (resolve : Resolver ρ ι) (p : Holder ρ ι) (a : Action ρ) {g : Nat}
    {f' : Family ι} (hf' : (p.perform resolve a).surfaces.families[g]? = some f') :
    (∃ f, p.surfaces.families[g]? = some f ∧ Develops resolve ⟨p, a⟩ g f f') ∨
      g = p.surfaces.families.length ∧ Step.Creates ⟨p, a⟩ g f'.policy ∧ f'.cache = .empty := by
  cases a with
  | create policy =>
      simp only [Holder.perform, create] at hf'
      rcases Nat.lt_trichotomy g p.surfaces.families.length with hlt | rfl | hgt
      · rw [List.getElem?_append_left hlt] at hf'
        exact .inl ⟨f', hf', .refl (by intro n c h; cases h) f'⟩
      · simp only [List.getElem?_concat_length, Option.some.injEq] at hf'
        subst hf'
        exact .inr ⟨rfl, .mk p policy, rfl⟩
      · rw [List.getElem?_eq_none (by simpa using Nat.succ_le_of_lt hgt)] at hf'
        cases hf'
  | copy surface =>
      have hsame : (p.perform resolve (.copy surface)).surfaces = p.surfaces := by
        simp only [Holder.perform]
        cases p.held[surface]? <;> rfl
      rw [hsame] at hf'
      exact .inl ⟨f', hf', .refl (by intro n c h; cases h) f'⟩
  | change h => exact .inl ⟨f', hf', .refl (by intro n c h; cases h) f'⟩
  | request surface name =>
      refine .inl ?_
      simp only [Holder.perform] at hf'
      cases hheld : p.held[surface]? with
      | none =>
          rw [hheld] at hf'
          refine ⟨f', hf', .refl ?_ f'⟩
          intro n c h
          cases h with
          | mk _ _ _ _ _ hfamily hgiven =>
              rw [hheld] at hfamily
              cases hfamily
      | some family =>
          rw [hheld] at hf'
          cases hf : p.surfaces.families[g]? with
          | none => simp [families_getFunction, hf] at hf'
          | some f => exact ⟨f, rfl, develops_request hheld hf hf'⟩

/-- Families are never taken away. -/
theorem length_families_le (resolve : Resolver ρ ι) (p : Holder ρ ι) (a : Action ρ) :
    p.surfaces.families.length ≤ (p.perform resolve a).surfaces.families.length := by
  cases a with
  | create policy => simp [Holder.perform, create]
  | copy surface =>
      simp only [Holder.perform]
      cases p.held[surface]? <;> exact Nat.le_refl _
  | change h => exact Nat.le_refl _
  | request surface name =>
      simp only [Holder.perform]
      cases hheld : p.held[surface]? with
      | none => exact Nat.le_refl _
      | some family =>
          -- Every family which began is there behind a request.
          by_contra hlt
          have hg : (p.surfaces.getFunction resolve family name).state.families.length <
              p.surfaces.families.length := Nat.lt_of_not_le hlt
          have hnone := families_getFunction resolve p.surfaces family name
            (p.surfaces.getFunction resolve family name).state.families.length
          rw [List.getElem?_eq_none (Nat.le_refl _), List.getElem?_eq_getElem hg] at hnone
          cases hnone

/-- A surface which a program holds is one which it held before, or belongs to a family which has
begun. -/
theorem mem_held_perform {a : Action ρ} (h : family ∈ (p.perform resolve a).held) :
    family ∈ p.held ∨ family = p.surfaces.families.length ∧ ∃ policy, a = .create policy := by
  cases a with
  | create policy =>
      simp only [Holder.perform, create, List.mem_append, List.mem_singleton] at h
      rcases h with hold | hnew
      · exact .inl hold
      · exact .inr ⟨hnew, policy, rfl⟩
  | copy surface =>
      simp only [Holder.perform] at h
      cases hheld : p.held[surface]? with
      | none => exact .inl (by simpa [hheld] using h)
      | some g =>
          simp only [hheld, List.mem_append, List.mem_singleton] at h
          rcases h with hold | rfl
          · exact .inl hold
          · exact .inl (List.mem_of_getElem? hheld)
  | change f => exact .inl h
  | request surface name =>
      simp only [Holder.perform] at h
      cases hheld : p.held[surface]? with
      | none => exact .inl (by simpa [hheld] using h)
      | some g => exact .inl (by simpa [hheld] using h)

end Perform

end WasmCall.Surfaces
