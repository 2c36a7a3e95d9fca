import WasmCall.Proofs.Document.Fields

/-!
# Edited documents

A document which was written may be edited before it is read.  In each of its tables

* members are deleted,
* the other ones are put in any order,
* members with names of their own are added, which are scalars.

What was deleted is given as a set of paths.  A record is read from an edited table as its fields are
read from what is left of them (`readRecord_of_edited`).
-/

namespace WasmCall

namespace Document

/-- A set of members, each given by the names on the way to it. -/
abbrev Paths : Type := List String → Bool

/-- What a set contains of the member of a name. -/
def Paths.below (gone : Paths) (name : String) : Paths := fun path => gone (name :: path)

/-- Whether a document is a scalar. -/
def isScalar : Document → Bool
  | broken _ | list _ _ | table _ _ => false
  | _ => true

theorem skip_of_isScalar {d : Document} (h : d.isScalar = true) : d.skip = .ok () := by
  cases d <;> first | rfl | cases h

mutual

/-- A document is what became of another one by editing. -/
inductive Edited : Paths → Document → Document → Prop
  | scalar (gone : Paths) (d : Document) (hscalar : d.isScalar = true) : Edited gone d d
  | table (gone : Paths) (members kept extra edited : List (Key × Document)) (ending : Ending)
      (hkept : Kept gone members kept)
      (hextra : ∀ m ∈ extra, ∃ name, m.1 = .text name ∧ m.1 ∉ members.map Prod.fst ∧
        m.2.isScalar = true)
      (hedited : edited.Perm (kept ++ extra)) (hending : ending.check = .ok ()) :
      Edited gone (.table members .closed) (.table edited ending)

/-- Members are what is left of other ones, in the same order. -/
inductive Kept : Paths → List (Key × Document) → List (Key × Document) → Prop
  | nil (gone : Paths) : Kept gone [] []
  | deleted (gone : Paths) (name : String) (d : Document) (members kept : List (Key × Document))
      (hgone : gone [name] = true) (hkept : Kept gone members kept) :
      Kept gone ((.text name, d) :: members) kept
  | kept (gone : Paths) (name : String) (d d' : Document) (members kept : List (Key × Document))
      (hgone : gone [name] = false) (hedited : Edited (gone.below name) d d')
      (hkept : Kept gone members kept) :
      Kept gone ((.text name, d) :: members) ((.text name, d') :: kept)

end

variable {gone : Paths} {d d' : Document} {members kept : List (Key × Document)} {name : String}

theorem Edited.eq_of_isScalar (h : Edited gone d d') (hscalar : d.isScalar = true) : d' = d := by
  cases h with
  | scalar => rfl
  | table => cases hscalar

/-- Nothing which is left has a new name. -/
theorem Kept.sublist (h : Kept gone members kept) :
    (kept.map Prod.fst).Sublist (members.map Prod.fst) := by
  induction members generalizing kept with
  | nil =>
      cases h
      exact .slnil
  | cons m members ih =>
      cases h with
      | deleted _ name d _ _ hgone hkept => exact (ih hkept).cons _
      | kept _ name d d' _ kept hgone hedited hkept => exact (ih hkept).cons_cons _

theorem Kept.not_mem (h : Kept gone members kept) (hdistinct : (members.map Prod.fst).Nodup)
    (hmem : .text name ∈ members.map Prod.fst) (hgone : gone [name] = true) :
    .text name ∉ kept.map Prod.fst := by
  induction members generalizing kept with
  | nil => simp at hmem
  | cons m members ih =>
      rw [List.map_cons, List.nodup_cons] at hdistinct
      cases h with
      | deleted _ name' d' _ _ hgone' hkept =>
          rcases List.mem_cons.1 hmem with heq | hmem
          · cases heq
            exact fun hleft => hdistinct.1 (hkept.sublist.subset hleft)
          · exact ih hkept hdistinct.2 hmem
      | kept _ name' d' d'' _ kept hleft hedited hkept =>
          have hne : name ≠ name' := by
            rintro rfl
            rw [hgone] at hleft
            cases hleft
          have hmem : .text name ∈ members.map Prod.fst := by simpa [hne] using hmem
          simpa [hne] using ih hkept hdistinct.2 hmem

theorem Kept.exists_mem (h : Kept gone members kept) (hmem : (.text name, d) ∈ members)
    (hleft : gone [name] = false) :
    ∃ d', (.text name, d') ∈ kept ∧ Edited (gone.below name) d d' := by
  induction members generalizing kept with
  | nil => simp at hmem
  | cons m members ih =>
      cases h with
      | deleted _ name' d' _ _ hgone hkept =>
          rcases List.mem_cons.1 hmem with heq | hmem
          · cases heq
            rw [hgone] at hleft
            cases hleft
          · exact ih hkept hmem
      | kept _ name' d' d'' _ kept hleft' hedited hkept =>
          rcases List.mem_cons.1 hmem with heq | hmem
          · cases heq
            exact ⟨d'', List.mem_cons_self, hedited⟩
          · obtain ⟨d₁, hd₁, hedited₁⟩ := ih hkept hmem
            exact ⟨d₁, List.mem_cons_of_mem _ hd₁, hedited₁⟩

end Document

namespace Field

open Document

variable {σ : Type} {fields : List (Field σ)} {gone : Paths} {members edited : List (Key × Document)}
  {d : Document} {name : String} {s t : σ}

/-- A member whose name is that of no other one is found. -/
theorem under_of_mem (hdistinct : edited.Pairwise fun m m' => m.1 = .text name → m'.1 ≠ .text name)
    (hmem : (.text name, d) ∈ edited) : under edited name = some d := by
  induction edited with
  | nil => simp at hmem
  | cons m edited ih =>
      rw [List.pairwise_cons] at hdistinct
      rcases List.mem_cons.1 hmem with rfl | hmem
      · simp [under]
      · have hne : (Key.text name == m.1) = false := by
          rw [beq_eq_false_iff_ne]
          intro hkey
          exact hdistinct.1 _ hmem hkey.symm rfl
        rw [under, List.lookup_cons, hne]
        exact ih hdistinct.2 hmem

/-- The documents which are found are what is left of the members of a table. -/
structure Leaves (gone : Paths) (members : List (Key × Document))
    (find : String → Option Document) : Prop where
  missing : ∀ name, .text name ∈ members.map Prod.fst → gone [name] = true → find name = none
  left : ∀ name d, (.text name, d) ∈ members → gone [name] = false →
    ∃ d', find name = some d' ∧ Edited (gone.below name) d d'

section Table

variable {kept extra : List (Key × Document)}
  (hnames : members.map Prod.fst = fields.map fun f => .text f.name) (hfields : Separate fields)
  (hkept : Kept gone members kept)
  (hextra : ∀ m ∈ extra, ∃ name, m.1 = .text name ∧ m.1 ∉ members.map Prod.fst ∧
    m.2.isScalar = true)
  (hedited : edited.Perm (kept ++ extra))

include hnames in
theorem key_mem_iff {key : Key} : key ∈ members.map Prod.fst ↔ ∃ f ∈ fields, .text f.name = key := by
  rw [hnames, List.mem_map]

include hnames hfields in
theorem nodup_keys : (members.map Prod.fst).Nodup := by
  rw [hnames]
  have hinj : Function.Injective Key.text := fun _ _ h => Key.text.inj h
  simpa [Function.comp_def] using hfields.distinct.map hinj

include hnames hfields hkept hextra hedited

/-- No field is given twice in a table which was edited. -/
theorem pairwise_of_edited :
    edited.Pairwise fun m m' => ∀ f ∈ fields, m.1 = .text f.name → m'.1 ≠ .text f.name := by
  have hsymm : ∀ {m m' : Key × Document}, (∀ f ∈ fields, m.1 = .text f.name → m'.1 ≠ .text f.name) →
      ∀ f ∈ fields, m'.1 = .text f.name → m.1 ≠ .text f.name :=
    fun h f hf hm' hm => h f hf hm hm'
  have hunknown : ∀ m ∈ extra, ∀ f ∈ fields, m.1 ≠ .text f.name := by
    intro m hm f hf hkey
    obtain ⟨name, -, hnew, -⟩ := hextra m hm
    exact hnew ((key_mem_iff hnames).2 ⟨f, hf, hkey.symm⟩)
  rw [hedited.pairwise_iff hsymm, List.pairwise_append]
  refine ⟨?_, ?_, ?_⟩
  · have hnodup := (nodup_keys hnames hfields).sublist hkept.sublist
    refine (List.pairwise_map.1 hnodup).imp ?_
    intro m m' hne f _ hm hm'
    exact hne (hm.trans hm'.symm)
  · exact List.pairwise_of_forall_mem_list fun m hm m' _ f hf hkey =>
      absurd hkey (hunknown m hm f hf)
  · intro m _ m' hm' f hf _
    exact hunknown m' hm' f hf

/-- A table which was edited can be read. -/
theorem legible_of_edited : Legible fields edited where
  keys := by
    intro m hm
    rcases List.mem_append.1 (hedited.mem_iff.1 hm) with hm | hm
    · have hkey := hkept.sublist.subset (List.mem_map_of_mem hm)
      obtain ⟨f, -, hf⟩ := (key_mem_iff hnames).1 hkey
      exact ⟨f.name, hf.symm⟩
    · obtain ⟨name, hkey, -⟩ := hextra m hm
      exact ⟨name, hkey⟩
  skipped := by
    intro m hm hunknown
    rcases List.mem_append.1 (hedited.mem_iff.1 hm) with hm | hm
    · have hkey := hkept.sublist.subset (List.mem_map_of_mem hm)
      obtain ⟨f, hf, hname⟩ := (key_mem_iff hnames).1 hkey
      exact absurd hname.symm (hunknown f hf)
    · obtain ⟨name, -, -, hscalar⟩ := hextra m hm
      exact skip_of_isScalar hscalar
  distinct := pairwise_of_edited hnames hfields hkept hextra hedited

/-- What is found in it is what is left of the members. -/
theorem leaves_of_edited : Leaves gone members (under edited) where
  missing := by
    intro name hname hgone
    rw [under, List.lookup_eq_none_iff]
    intro m hm
    rw [bne_iff_ne]
    intro hkey
    rcases List.mem_append.1 (hedited.mem_iff.1 hm) with hm | hm
    · have hleft := hkept.not_mem (nodup_keys hnames hfields) hname hgone
      exact hleft (hkey ▸ List.mem_map_of_mem hm)
    · obtain ⟨_, -, hnew, -⟩ := hextra m hm
      exact hnew (hkey ▸ hname)
  left := by
    intro name d hd hleft
    obtain ⟨d', hd', hedited'⟩ := hkept.exists_mem hd hleft
    have hmem := hedited.mem_iff.2 (List.mem_append_left extra hd')
    obtain ⟨f, hf, hname⟩ := (key_mem_iff hnames).1 (List.mem_map_of_mem hd)
    cases hname
    have hdistinct := (pairwise_of_edited hnames hfields hkept hextra hedited).imp
      fun h => h f hf
    exact ⟨d', under_of_mem hdistinct hmem, hedited'⟩

end Table

/-- A record is read from an edited table if it is read from what is left of the members, over the
record in which all fields are as they are by default. -/
theorem readRecord_of_edited [Inhabited σ] (dialect : Dialect) (hfields : Separate fields)
    (hdefaults : defaults fields default = s)
    (hnames : members.map Prod.fst = fields.map fun f => .text f.name)
    (hedited : Edited gone (.table members .closed) d)
    (hread : ∀ find, Leaves gone members find → readFrom find s fields = .ok t) :
    readRecord dialect fields d = .ok t := by
  cases hedited with
  | scalar _ _ hscalar => cases hscalar
  | table _ _ kept extra edited ending hkept hextra hedited hending =>
      have hlegible := legible_of_edited hnames hfields hkept hextra hedited
      have hleaves := leaves_of_edited hnames hfields hkept hextra hedited
      have hmembers : readMembers fields [] s edited = .ok t :=
        readMembers_of_readFrom hfields hlegible (by simp) (hread _ hleaves)
      simp only [readRecord, hdefaults, hmembers, hending]
      rfl

end Field

end WasmCall
