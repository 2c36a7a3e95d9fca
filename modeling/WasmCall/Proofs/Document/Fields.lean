import Mathlib.Data.List.Nodup
import WasmCall.Document.Reading

/-!
# Fields of a record

A table is read member by member, in the order in which it is written.  If the fields of a record do
not get in each other's way (`Separate`), then the order does not matter: the record which comes out of
a table is the one which is read field by field, each from the document that stands under its name
(`readMembers_of_readFrom`).
-/

namespace WasmCall.Field

variable {σ α β : Type} {f g : Field σ} {fields : List (Field σ)} {s t : σ}

/-- Two fields which may be read in the other order as well. -/
def Independent (f g : Field σ) : Prop :=
  ∀ d d' s s' t, f.update d s = .ok s' → g.update d' s' = .ok t →
    ∃ s'', g.update d' s = .ok s'' ∧ f.update d s'' = .ok t

theorem update_ofReader_eq_ok_iff {name : String} {initial : α} {read : Document → Except Fault α}
    {put : α → σ → σ} {d : Document} :
    (ofReader name initial read put).update d s = .ok t ↔ ∃ a, read d = .ok a ∧ put a s = t := by
  cases hread : read d with
  | error e => simp [ofReader, hread]
  | ok a => simp [ofReader, hread]

/-- What is put into different parts of a record may be put there in any order. -/
theorem independent_ofReader {name name' : String} {initial : α} {initial' : β}
    {read : Document → Except Fault α} {read' : Document → Except Fault β} {put : α → σ → σ}
    {put' : β → σ → σ} (hput : ∀ a b s, put' b (put a s) = put a (put' b s)) :
    Independent (ofReader name initial read put) (ofReader name' initial' read' put') := by
  intro d d' s s' t hfirst hsecond
  obtain ⟨a, ha, rfl⟩ := update_ofReader_eq_ok_iff.1 hfirst
  obtain ⟨b, hb, rfl⟩ := update_ofReader_eq_ok_iff.1 hsecond
  exact ⟨put' b s, update_ofReader_eq_ok_iff.2 ⟨b, hb, rfl⟩,
    update_ofReader_eq_ok_iff.2 ⟨a, ha, (hput a b s).symm⟩⟩

/-- Fields which do not get in each other's way. -/
structure Separate (fields : List (Field σ)) : Prop where
  distinct : (fields.map Field.name).Nodup
  independent : fields.Pairwise Independent

/-- Read every field from the document which stands under its name.  What is missing stays as it is.
-/
def readFrom (find : String → Option Document) (s : σ) : List (Field σ) → Except Fault σ
  | [] => .ok s
  | f :: fields =>
    match find f.name with
    | none => readFrom find s fields
    | some d => do
      let s ← f.update d s
      readFrom find s fields

section ReadFrom

variable {find find' : String → Option Document} {d : Document}

theorem readFrom_of_none (hfind : find f.name = none) (s : σ) :
    readFrom find s (f :: fields) = readFrom find s fields := by
  simp only [readFrom, hfind]

theorem readFrom_of_some (hfind : find f.name = some d) :
    readFrom find s (f :: fields) = .ok t ↔
      ∃ s', f.update d s = .ok s' ∧ readFrom find s' fields = .ok t := by
  simp only [readFrom, hfind]
  cases f.update d s with
  | error e => simp [bind, Except.bind]
  | ok s' => simp [bind, Except.bind]

theorem readFrom_congr (h : ∀ f ∈ fields, find f.name = find' f.name) (s : σ) :
    readFrom find s fields = readFrom find' s fields := by
  induction fields generalizing s with
  | nil => rfl
  | cons f fields ih =>
      have hrest := ih fun g hg => h g (List.mem_cons_of_mem f hg)
      simp only [readFrom, h f List.mem_cons_self, hrest]

/-- One of the fields may be read before all others. -/
theorem readFrom_front (hfields : Separate fields) (hf : f ∈ fields)
    (hfound : find f.name = some d) (hmissing : find' f.name = none)
    (hothers : ∀ name ≠ f.name, find name = find' name)
    (h : readFrom find s fields = .ok t) :
    ∃ s', f.update d s = .ok s' ∧ readFrom find' s' fields = .ok t := by
  induction fields generalizing s with
  | nil => simp at hf
  | cons g fields ih =>
      obtain ⟨hdistinct, hindependent⟩ := hfields
      rw [List.map_cons, List.nodup_cons] at hdistinct
      rw [List.pairwise_cons] at hindependent
      have hfields : Separate fields := ⟨hdistinct.2, hindependent.2⟩
      have hname : ∀ f ∈ fields, f.name ≠ g.name := by
        intro f hf hname
        exact hdistinct.1 (hname ▸ List.mem_map_of_mem hf)
      rcases List.mem_cons.1 hf with rfl | hf
      · -- It is the first one already, and its document is not looked at by the rest.
        obtain ⟨s', hupdate, hrest⟩ := (readFrom_of_some hfound).1 h
        refine ⟨s', hupdate, ?_⟩
        rw [readFrom_of_none hmissing, ← readFrom_congr fun g hg => hothers _ (hname g hg)]
        exact hrest
      · have hsame := hothers g.name (hname f hf).symm
        cases hfind : find g.name with
        | none =>
            rw [readFrom_of_none hfind] at h
            obtain ⟨s', hupdate, hread⟩ := ih hfields hf h
            exact ⟨s', hupdate, by rwa [readFrom_of_none (hsame ▸ hfind)]⟩
        | some d' =>
            obtain ⟨s₁, hgupdate, h⟩ := (readFrom_of_some hfind).1 h
            obtain ⟨s₂, hupdate, hread⟩ := ih hfields hf h
            obtain ⟨s', hfirst, hsecond⟩ := hindependent.1 f hf d' d s s₁ s₂ hgupdate hupdate
            exact ⟨s', hfirst, (readFrom_of_some (hsame ▸ hfind)).2 ⟨s₂, hsecond, hread⟩⟩

/-- A field which is missing, or whose document is read. -/
theorem readFrom_cons (put : α → σ → σ) {gone : Bool} {a base : α} (hbase : put base s = s)
    (hgone : gone = true → find f.name = none)
    (hleft : gone = false → ∃ d, find f.name = some d ∧ f.update d s = .ok (put a s)) :
    readFrom find s (f :: fields) = readFrom find (put (if gone then base else a) s) fields := by
  cases gone with
  | true =>
      rw [readFrom_of_none (hgone rfl), if_pos rfl, hbase]
  | false =>
      obtain ⟨d, hd, hupdate⟩ := hleft rfl
      simp only [readFrom, hd, hupdate]
      rfl

end ReadFrom

section Members

variable {members : List (Key × Document)} {seen : List String}

/-- Members which can be read: every key is a text, what has no field may be skipped, and no field is
given twice. -/
structure Legible (fields : List (Field σ)) (members : List (Key × Document)) : Prop where
  keys : ∀ m ∈ members, ∃ name, m.1 = .text name
  skipped : ∀ m ∈ members, (∀ f ∈ fields, m.1 ≠ .text f.name) → m.2.skip = .ok ()
  distinct : members.Pairwise fun m m' => ∀ f ∈ fields, m.1 = .text f.name → m'.1 ≠ .text f.name

/-- The document under a name. -/
def under (members : List (Key × Document)) (name : String) : Option Document :=
  members.lookup (.text name)

theorem readMembers_of_unknown {name : String} {d : Document}
    (hfind : fields.find? (·.name == name) = none) (hskip : d.skip = .ok ()) :
    readMembers fields seen s ((.text name, d) :: members) = readMembers fields seen s members := by
  simp [readMembers, Key.read, hfind, hskip, bind, Except.bind]

theorem readMembers_of_known {name : String} {d : Document}
    (hfind : fields.find? (·.name == name) = some f) (hnew : name ∉ seen)
    (hupdate : f.update d s = .ok t) :
    readMembers fields seen s ((.text name, d) :: members) =
      readMembers fields (name :: seen) t members := by
  simp [readMembers, Key.read, hfind, hnew, hupdate, bind, Except.bind]

/-- Members are read in their order as the fields are read in theirs. -/
theorem readMembers_of_readFrom (hfields : Separate fields) (hmembers : Legible fields members)
    (hseen : ∀ m ∈ members, ∀ name ∈ seen, m.1 ≠ .text name)
    (h : readFrom (under members) s fields = .ok t) :
    readMembers fields seen s members = .ok t := by
  induction members generalizing seen s with
  | nil =>
      have hnothing : ∀ fields : List (Field σ), readFrom (under []) s fields = .ok s := by
        intro fields
        induction fields with
        | nil => rfl
        | cons f fields ih => exact ih
      rw [hnothing] at h
      exact h
  | cons m members ih =>
      obtain ⟨hkeys, hskipped, hdistinct⟩ := hmembers
      rw [List.pairwise_cons] at hdistinct
      have hmembers : Legible fields members :=
        ⟨fun m' hm' => hkeys m' (List.mem_cons_of_mem m hm'),
          fun m' hm' => hskipped m' (List.mem_cons_of_mem m hm'), hdistinct.2⟩
      obtain ⟨name, hkey⟩ := hkeys m List.mem_cons_self
      obtain ⟨key, d⟩ := m
      obtain rfl : key = .text name := hkey
      have hunder : ∀ n, n ≠ name → under ((.text name, d) :: members) n = under members n := by
        intro n hn
        have hne : (Key.text n == Key.text name) = false := by simpa using hn
        simp [under, List.lookup_cons, hne]
      cases hfind : fields.find? (·.name == name) with
      | none =>
          have hunknown : ∀ f ∈ fields, f.name ≠ name := by
            intro f hf
            simpa using List.find?_eq_none.1 hfind f hf
          have hskip := hskipped _ List.mem_cons_self fun f hf hname => by
            cases hname
            exact hunknown f hf rfl
          rw [readFrom_congr fun f hf => hunder _ (hunknown f hf)] at h
          rw [readMembers_of_unknown hfind hskip]
          exact ih hmembers (fun m' hm' => hseen m' (List.mem_cons_of_mem _ hm')) h
      | some f =>
          obtain rfl : f.name = name := by simpa using List.find?_some hfind
          have hf := List.mem_of_find?_eq_some hfind
          have hnew : f.name ∉ seen := fun hname => hseen _ List.mem_cons_self _ hname rfl
          -- The name does not come again.
          have hlast : ∀ m' ∈ members, m'.1 ≠ .text f.name := fun m' hm' =>
            hdistinct.1 m' hm' f hf rfl
          have hmissing : under members f.name = none := by
            rw [under, List.lookup_eq_none_iff]
            intro m' hm'
            simpa using (hlast m' hm').symm
          have hfound : under ((.text f.name, d) :: members) f.name = some d := by
            simp [under]
          obtain ⟨s', hupdate, hread⟩ := readFrom_front hfields hf hfound hmissing hunder h
          rw [readMembers_of_known hfind hnew hupdate]
          refine ih hmembers ?_ hread
          intro m' hm' n hn
          rcases List.mem_cons.1 hn with rfl | hn
          · exact hlast m' hm'
          · exact hseen m' (List.mem_cons_of_mem _ hm') n hn

end Members

end WasmCall.Field
