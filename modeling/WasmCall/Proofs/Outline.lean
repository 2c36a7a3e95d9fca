import WasmCall.Proofs.Host.Views
import WasmCall.Proofs.Signature

/-!
# Outlines of exported functions

All that a listing shows of a function, apart from its name, is its *outline*: its signature if it has
one, and otherwise the first of its types which has no kind.  Parameters come before results.

* `Wasm.FuncType.Outlined`: the outline of a type, and `exists_outlined` says that there is one.
* `Instance.Outlines`: an instance exports a function of some outline under some name.
* `Outline.entry`: the line of a listing for a name and an outline.  It consists of a stem, which has
  the name in it, and a finish, which tells the outline.
* `Host.WellFormed.mem_list_iff`: a listing has the entries of the exported functions as its lines.
-/

namespace WasmCall

/-- A place in a list of two parts is in one of them. -/
theorem append_eq_append_cons {α : Type} {a : α} {xs ys us vs : List α}
    (h : xs ++ ys = us ++ a :: vs) :
    (∃ ws, xs = us ++ a :: ws) ∨ ∃ ws, us = xs ++ ws ∧ ys = ws ++ a :: vs := by
  rcases List.append_eq_append_iff.1 h with ⟨ws, hus, hys⟩ | ⟨ws, rfl, hvs⟩
  · exact .inr ⟨ws, hus, hys⟩
  · cases ws with
    | nil => exact .inr ⟨[], by simp, hvs.symm⟩
    | cons b ws =>
        obtain ⟨rfl, -⟩ := List.cons.inj hvs
        exact .inl ⟨ws, rfl⟩

/-- What there is to see of a function, apart from its name. -/
inductive Outline where
  | signature (s : Signature)
  | unsupported (t : Wasm.ValType) (ht : Boundary.kindOf t = none)

/-- The outline of a type of functions. -/
inductive Wasm.FuncType.Outlined (type : Wasm.FuncType) : Outline → Prop
  | signature (s : Signature) (hparams : type.params.map Boundary.kindOf = s.params.map some)
      (hresults : type.results.map Boundary.kindOf = s.results.map some) :
      Outlined type (.signature s)
  | unsupported (before after : List Wasm.ValType) (t : Wasm.ValType)
      (ht : Boundary.kindOf t = none) (htypes : type.params ++ type.results = before ++ t :: after)
      (hbefore : ∀ u ∈ before, Boundary.kindOf u ≠ none) : Outlined type (.unsupported t ht)

/-- An instance exports a function under a name, and the function has the given outline. -/
def Instance.Outlines {M : Machine} (i : Instance M) (name : String) (o : Outline) : Prop :=
  ∃ index, M.func? i.linked name = some index ∧ (M.typeOf i.linked index).Outlined o

namespace Outline

/-- What a lookup of a function of some name gives, by its outline. -/
def answer (name : String) : Outline → Except CallError Signature
  | signature s => .ok s
  | unsupported t _ =>
    .error (.unsupportedSignature name ("value type " ++ t.text ++ " has no supported kind"))

/-- What a line begins with: the name, which is repeated where there is no signature. -/
def stem (name : String) : Outline → String
  | signature _ => name
  | unsupported _ _ => name ++ ": <Unsupported signature for '" ++ name ++ "'"

/-- What a line ends with. -/
def finish : Outline → String
  | signature s => ": " ++ s.text
  | unsupported t _ => ": value type " ++ t.text ++ " has no supported kind>"

/-- The line of a listing for a name and an outline. -/
def entry (name : String) (o : Outline) : String :=
  o.stem name ++ o.finish

end Outline

namespace Boundary

variable {name : String} {ts us : List Wasm.ValType}

theorem kindsOf_of_map {ks : List Kind} (h : ts.map kindOf = ks.map some) :
    kindsOf name ts = .ok ks := by
  induction ts generalizing ks with
  | nil =>
      cases ks with
      | nil => rfl
      | cons k ks => cases h
  | cons t ts ih =>
      cases ks with
      | nil => cases h
      | cons k ks =>
          obtain ⟨hkind, hkinds⟩ := List.cons.inj h
          simp only [kindsOf, hkind, ih hkinds]
          rfl

/-- The first type without a kind is the reason for an error. -/
theorem kindsOf_append_cons {t : Wasm.ValType} (hts : ∀ u ∈ ts, kindOf u ≠ none)
    (ht : kindOf t = none) : kindsOf name (ts ++ t :: us) =
      .error (.unsupportedSignature name
        ("value type " ++ t.text ++ " has no supported kind")) := by
  induction ts with
  | nil =>
      simp only [List.nil_append, kindsOf, ht]
      rfl
  | cons u ts ih =>
      obtain ⟨k, hk⟩ := Option.ne_none_iff_exists'.1 (hts u List.mem_cons_self)
      rw [List.cons_append, kindsOf, hk]
      simp only [ih fun v hv => hts v (List.mem_cons_of_mem u hv)]
      rfl

theorem exists_map_kindOf (hts : ∀ t ∈ ts, kindOf t ≠ none) :
    ∃ ks : List Kind, ts.map kindOf = ks.map some := by
  induction ts with
  | nil => exact ⟨[], rfl⟩
  | cons t ts ih =>
      obtain ⟨k, hk⟩ := Option.ne_none_iff_exists'.1 (hts t List.mem_cons_self)
      obtain ⟨ks, hks⟩ := ih fun u hu => hts u (List.mem_cons_of_mem t hu)
      exact ⟨k :: ks, by rw [List.map_cons, List.map_cons, hk, hks]⟩

/-- Every type of functions has an outline. -/
theorem exists_outlined (type : Wasm.FuncType) : ∃ o, type.Outlined o := by
  cases hfind : (type.params ++ type.results).find? fun t => (kindOf t).isNone with
  | none =>
      obtain ⟨hparams, hresults⟩ : (∀ t ∈ type.params, kindOf t ≠ none) ∧
          ∀ t ∈ type.results, kindOf t ≠ none := by simpa using hfind
      obtain ⟨params, hparams⟩ := exists_map_kindOf hparams
      obtain ⟨results, hresults⟩ := exists_map_kindOf hresults
      exact ⟨_, .signature ⟨params, results⟩ hparams hresults⟩
  | some t =>
      obtain ⟨hkind, before, after, htypes, hbefore⟩ := List.find?_eq_some_iff_append.1 hfind
      have ht : kindOf t = none := by simpa using hkind
      exact ⟨_, .unsupported before after t ht htypes
        (by simpa [Option.isSome_iff_ne_none] using hbefore)⟩

/-- The outline of a function says what a lookup gives. -/
theorem signatureOf_of_outlined {type : Wasm.FuncType} {o : Outline} (h : type.Outlined o) :
    signatureOf name type = o.answer name := by
  cases h with
  | signature s hparams hresults =>
      rw [signatureOf, kindsOf_of_map hparams, kindsOf_of_map hresults]
      rfl
  | unsupported before after t ht htypes hbefore =>
      rw [signatureOf]
      -- The type which has no kind is a parameter, or it is a result and all parameters have kinds.
      rcases append_eq_append_cons htypes with ⟨rest, hparams⟩ | ⟨rest, rfl, hresults⟩
      · rw [hparams, kindsOf_append_cons hbefore ht]
        rfl
      · rw [List.forall_mem_append] at hbefore
        obtain ⟨params, hparams⟩ := exists_map_kindOf hbefore.1
        rw [kindsOf_of_map hparams, hresults, kindsOf_append_cons hbefore.2 ht]
        rfl

end Boundary

section Resolved

variable {M : Machine} {h : Host M} {id : InstanceId} {i : Instance M} {m : CompiledModule M}
  {name line : String} {o : Outline}

/-- A function which is found has an outline, and what has an outline is a function which is found. -/
theorem Instance.isSome_func?_iff_outlines :
    (M.func? i.linked name).isSome = true ↔ ∃ o, i.Outlines name o := by
  rw [Option.isSome_iff_exists]
  constructor
  · rintro ⟨index, hindex⟩
    obtain ⟨o, ho⟩ := Boundary.exists_outlined (M.typeOf i.linked index)
    exact ⟨o, index, hindex, ho⟩
  · rintro ⟨o, index, hindex, -⟩
    exact ⟨index, hindex⟩

/-- The functions which a module exports are those which have an outline in its instances. -/
theorem Instance.Linking.mem_functionExports_iff (hlinking : i.Linking m) (hm : Compiled m)
    (hexporting : M.Exporting) : name ∈ m.functionExports ↔ ∃ o, i.Outlines name o := by
  rw [← hlinking.isSome_func?_iff hm hexporting, isSome_func?_iff_outlines]

/-- An exported function is listed by its outline. -/
theorem Host.listingLine_of_outlines (ho : i.Outlines name o) (policy : OverflowPolicy) :
    listingLine name ((i.resolved name).map (Exports.build policy name)) = o.entry name := by
  obtain ⟨index, hindex, ho⟩ := ho
  rw [Instance.resolved_eq_map hindex, Boundary.signatureOf_of_outlined ho]
  cases o with
  | signature s =>
      simp only [Outline.answer, Except.map, Exports.build, listingLine, Outline.entry,
        Outline.stem, Outline.finish, String.append_assoc]
  | unsupported t ht =>
      have hmessage : ∀ reason, (CallError.unsupportedSignature name reason).message =
          "Unsupported signature for '" ++ name ++ "': " ++ reason := fun _ => rfl
      simp only [Outline.answer, Except.map, listingLine, hmessage, Outline.entry, Outline.stem,
        Outline.finish, ← String.toList_inj]
      simp

/-- The lines of a listing are those for what a lookup gives. -/
theorem Host.WellFormed.listNames_eq_map (hh : h.WellFormed) (hi : h.find? id = some i)
    (names : List String) :
    (listNames id names h).result =
      names.map fun name => listingLine name (h.getFunction id name).result := by
  have hlines : List.Forall₂ (· = ·)
      (names.map fun name => listingLine name (h.getFunction id name).result)
      (listNames id names h).result := by
    rw [List.forall₂_map_left_iff]
    refine (hh.entries_listNames hi names).imp ?_
    intro name line hentry
    generalize (h.getFunction id name).result = found at hentry ⊢
    cases hentry <;> rfl
  exact (List.forall₂_eq_eq_eq ▸ hlines).symm

/-- The line for an exported function is the entry by its outline. -/
theorem Host.WellFormed.listingLine_getFunction (hh : h.WellFormed) (hi : h.find? id = some i)
    (ho : i.Outlines name o) : listingLine name (h.getFunction id name).result = o.entry name := by
  rw [hh.result_getFunction hi, listingLine_of_outlines ho]

/-- The lines of a listing are the entries of the exported functions. -/
theorem Host.WellFormed.mem_list_iff (hh : h.WellFormed) (hi : h.find? id = some i)
    (hlinking : i.Linking m) (hm : Compiled m) (hexporting : M.Exporting) :
    line ∈ (h.list id).result ↔ ∃ name o, i.Outlines name o ∧ line = o.entry name := by
  have hnames : ∀ name, name ∈ i.names ↔ ∃ o, i.Outlines name o := by
    intro name
    rw [(hlinking.perm_names hm hexporting).mem_iff,
      hlinking.mem_functionExports_iff hm hexporting]
  rw [list, hi]
  simp only [hh.listNames_eq_map hi, List.mem_map, hnames]
  constructor
  · rintro ⟨name, ⟨o, ho⟩, rfl⟩
    exact ⟨name, o, ho, hh.listingLine_getFunction hi ho⟩
  · rintro ⟨name, o, ho, rfl⟩
    exact ⟨name, ⟨o, ho⟩, hh.listingLine_getFunction hi ho⟩

end Resolved

end WasmCall
