import Mathlib.Data.List.Basic
import WasmCall.Signature

/-!
# Signatures and their texts

The text of a signature is read from left to right by `Signature.ofText?`.  Kinds are read one by one,
by their names, which have three characters each.  Behind a kind there is a comma if another one
follows, and the parenthesis which closes the list if not, so there is only one way to go on.

* `ofText?_eq_some_iff`: the texts which are read are those of signatures, and each of them is read as
  the signature which it is the text of.
* `text_injective`: two signatures have different texts.
* `isAlphanum_of_mem_text`: the characters of which there are texts.
-/

namespace WasmCall

namespace Kind

/-- A kind is found by its name and by nothing else. -/
theorem ofName?_eq_some_iff (s : String) (k : Kind) : ofName? s = some k ↔ s = k.name := by
  constructor
  · intro h
    have hfound : (k.name == s) = true := List.find?_some (p := fun l : Kind => l.name == s) h
    exact (beq_iff_eq.1 hfound).symm
  · rintro rfl
    cases k <;> rfl

/-- A name has three characters, and it does not begin like the end of a list. -/
theorem exists_chars_name (k : Kind) : ∃ a b c, k.name.toList = [a, b, c] ∧ a ≠ ')' := by
  cases k <;> exact ⟨_, _, _, rfl, by decide⟩

end Kind

namespace Signature

/-- The characters of the text of kinds. -/
theorem isAlphanum_of_mem_kindsText {ks : List Kind} {c : Char} (hc : c ∈ (kindsText ks).toList) :
    c.isAlphanum = true ∨ c ∈ [',', ' '] := by
  have hname : ∀ k : Kind, ∀ d ∈ k.name.toList, d.isAlphanum = true := by
    intro k
    cases k <;> exact List.all_eq_true.1 rfl
  induction ks with
  | nil => cases hc
  | cons k ks ih =>
      cases ks with
      | nil => exact .inl (hname k c hc)
      | cons l ks =>
          simp only [kindsText, String.toList_append, List.mem_append] at hc
          rcases hc with (hk | hcomma) | hks
          · exact .inl (hname k c hk)
          · exact .inr hcomma
          · exact ih hks

/-- The characters of the text of a signature. -/
theorem isAlphanum_of_mem_text {s : Signature} {c : Char} (hc : c ∈ s.text.toList) :
    c.isAlphanum = true ∨ c ∈ [',', ' ', '(', ')', '-', '>'] := by
  have hkinds : ∀ ks, c ∈ (kindsText ks).toList →
      c.isAlphanum = true ∨ c ∈ [',', ' ', '(', ')', '-', '>'] := by
    intro ks hks
    exact (isAlphanum_of_mem_kindsText hks).imp_right (List.mem_append_left _)
  have hmarks : c ∈ "(".toList ∨ c ∈ ") -> (".toList ∨ c ∈ ")".toList →
      c ∈ [',', ' ', '(', ')', '-', '>'] := by
    simp only [String.reduceToList, List.mem_cons, List.not_mem_nil, or_false]
    tauto
  simp only [text, String.toList_append, List.mem_append] at hc
  rcases hc with (((hopening | hparams) | harrow) | hresults) | hclosing
  · exact .inr (hmarks (.inl hopening))
  · exact hkinds _ hparams
  · exact .inr (hmarks (.inr (.inl harrow)))
  · exact hkinds _ hresults
  · exact .inr (hmarks (.inr (.inr hclosing)))

section Reading

/-- Read kinds, each of them behind a comma and a space, and the parenthesis which closes the list. -/
def takeOthers : List Char → Option (List Kind × List Char)
  | ')' :: rest => some ([], rest)
  | ',' :: ' ' :: a :: b :: c :: rest =>
    match Kind.ofName? (String.ofList [a, b, c]), takeOthers rest with
    | some k, some (ks, rest) => some (k :: ks, rest)
    | _, _ => none
  | _ => none

/-- Read a list of kinds in parentheses.  Its first kind is read as if it were behind another one. -/
def takeKinds : List Char → Option (List Kind × List Char)
  | '(' :: ')' :: rest => some ([], rest)
  | '(' :: rest => takeOthers (',' :: ' ' :: rest)
  | _ => none

/-- The signature of a given text. -/
def ofText? (u : String) : Option Signature :=
  match takeKinds u.toList with
  | some (params, ' ' :: '-' :: '>' :: ' ' :: rest) =>
    match takeKinds rest with
    | some (results, []) => some ⟨params, results⟩
    | _ => none
  | _ => none

/-- Kinds by name, each of them behind a comma and a space. -/
def othersText (ks : List Kind) : List Char :=
  ks.flatMap fun k => ',' :: ' ' :: k.name.toList

theorem othersText_cons (k : Kind) (ks : List Kind) :
    othersText (k :: ks) = ',' :: ' ' :: (k.name.toList ++ othersText ks) := by
  simp [othersText]

/-- In front of the first kind there is no comma. -/
theorem toList_kindsText_cons (k : Kind) (ks : List Kind) :
    (kindsText (k :: ks)).toList = k.name.toList ++ othersText ks := by
  induction ks generalizing k with
  | nil => simp [othersText, kindsText]
  | cons l ks ih => simp [othersText_cons, ih, kindsText]

variable {cs rest : List Char} {ks : List Kind}

theorem takeOthers_othersText (ks : List Kind) (rest : List Char) :
    takeOthers (othersText ks ++ ')' :: rest) = some (ks, rest) := by
  induction ks with
  | nil => rfl
  | cons k ks ih =>
      obtain ⟨a, b, c, hname, -⟩ := k.exists_chars_name
      have hkind : Kind.ofName? (String.ofList [a, b, c]) = some k := by
        rw [Kind.ofName?_eq_some_iff, ← hname, String.ofList_toList]
      rw [othersText_cons, hname]
      simp only [List.cons_append, List.nil_append, takeOthers, hkind, ih]

theorem eq_othersText_of_takeOthers (h : takeOthers cs = some (ks, rest)) :
    cs = othersText ks ++ ')' :: rest := by
  fun_induction takeOthers cs generalizing ks rest with
  | case1 tail =>
      cases h
      rfl
  | case2 a b c tail k ls rest' hothers hkind ih =>
      cases h
      have hname : [a, b, c] = k.name.toList := by
        rw [← (Kind.ofName?_eq_some_iff _ k).1 hkind, String.toList_ofList]
      rw [othersText_cons, ← hname, ih hothers]
      rfl
  | case3 => cases h
  | case4 => cases h

theorem takeKinds_kindsText (ks : List Kind) (rest : List Char) :
    takeKinds ('(' :: (kindsText ks).toList ++ ')' :: rest) = some (ks, rest) := by
  cases ks with
  | nil => rfl
  | cons k ks =>
      obtain ⟨a, b, c, hname, hparenthesis⟩ := k.exists_chars_name
      have hothers := takeOthers_othersText (k :: ks) rest
      rw [othersText_cons] at hothers
      rw [toList_kindsText_cons]
      rw [hname] at hothers ⊢
      -- The list is not taken for an empty one, as no name begins with the parenthesis.
      simpa [takeKinds, hparenthesis] using hothers

theorem eq_kindsText_of_takeKinds (h : takeKinds cs = some (ks, rest)) :
    cs = '(' :: (kindsText ks).toList ++ ')' :: rest := by
  unfold takeKinds at h
  split at h
  · cases h
    rfl
  · have hothers := eq_othersText_of_takeOthers h
    cases ks with
    | nil => cases hothers
    | cons k ks =>
        rw [othersText_cons, ← toList_kindsText_cons] at hothers
        cases hothers
        rfl
  · cases h

theorem toList_text (s : Signature) :
    s.text.toList = '(' :: (kindsText s.params).toList ++ ')' :: ' ' :: '-' :: '>' :: ' ' ::
      ('(' :: (kindsText s.results).toList ++ [')']) := by
  simp [text]

/-- Every signature is recovered from its text. -/
theorem ofText?_text (s : Signature) : ofText? s.text = some s := by
  simp only [ofText?, toList_text, takeKinds_kindsText]

/-- Nothing else is read than the texts of signatures. -/
theorem eq_text_of_ofText? {u : String} {s : Signature} (h : ofText? u = some s) : u = s.text := by
  unfold ofText? at h
  split at h
  · rename_i params rest hparams
    split at h
    · rename_i results hresults
      cases h
      rw [← String.toList_inj, toList_text, eq_kindsText_of_takeKinds hparams,
        eq_kindsText_of_takeKinds hresults]
    · cases h
  · cases h

theorem ofText?_eq_some_iff (u : String) (s : Signature) : ofText? u = some s ↔ u = s.text := by
  constructor
  · exact eq_text_of_ofText?
  · rintro rfl
    exact ofText?_text s

/-- Two signatures have different texts. -/
theorem text_injective {s t : Signature} (h : s.text = t.text) : s = t := by
  have hread := congrArg ofText? h
  rw [ofText?_text, ofText?_text] at hread
  exact Option.some.inj hread

/-- The names of kinds are joined by a comma and a space. -/
theorem kindsText_eq_intercalate (ks : List Kind) :
    kindsText ks = ", ".intercalate (ks.map Kind.name) := by
  induction ks with
  | nil => rfl
  | cons k ks ih =>
      cases ks with
      | nil => simp [kindsText]
      | cons l ks =>
          simp only [List.map_cons] at ih ⊢
          simp only [kindsText, ih, String.intercalate_cons_cons]

end Reading

/-- A signature can be told from its text.

* Two signatures have different texts.
* A text is read as a signature if and only if it is the text of this signature.
* Such a text consists of two lists of names in parentheses, with an arrow in between. -/
theorem text_unambiguous :
    Function.Injective text ∧
      (∀ (u : String) (s : Signature), ofText? u = some s ↔ u = s.text) ∧
      ∀ s : Signature, s.text = "(" ++ ", ".intercalate (s.params.map Kind.name) ++ ") -> (" ++
        ", ".intercalate (s.results.map Kind.name) ++ ")" := by
  refine ⟨fun s t => text_injective, ofText?_eq_some_iff, ?_⟩
  intro s
  rw [text, kindsText_eq_intercalate, kindsText_eq_intercalate]

example : ofText? "(i32, ref) -> ()" = some ⟨[.i32, .ref], []⟩ := by decide

example : ofText? "(i32 ref) -> ()" = none := by decide

end Signature

end WasmCall
