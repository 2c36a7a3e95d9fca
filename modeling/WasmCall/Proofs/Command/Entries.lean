import WasmCall.Proofs.Outline

/-!
# Reading the entries of a listing

A listing is read from its front.  An entry is known by its finish, which a line break follows, and
within an entry there is no such place unless there is one in the name (`IsEntry.ne_append`).  So the first
line break behind a finish is the end of the first entry, and the others are read in the same way
(`join_injective`).  Within an entry the last colon belongs to the finish (`entry_injective`).
-/

namespace WasmCall

section Cuts

variable {α : Type} {a : α} {xs ys us vs : List α}

/-- What is not in the right part of a list is in the left part. -/
theorem exists_of_append_eq (hys : a ∉ ys) (h : xs ++ ys = us ++ a :: vs) :
    ∃ ws, xs = us ++ a :: ws := by
  rcases append_eq_append_cons h with hleft | ⟨ws, -, rfl⟩
  · exact hleft
  · exact absurd (List.mem_append_right ws List.mem_cons_self) hys

/-- A list is cut in one way at the last place where an element is. -/
theorem append_cons_inj_of_not_mem (hys : a ∉ ys) (hvs : a ∉ vs)
    (h : xs ++ a :: ys = us ++ a :: vs) : xs = us ∧ ys = vs := by
  rcases append_eq_append_cons h with ⟨ws, rfl⟩ | ⟨ws, rfl, hcons⟩
  · rw [List.append_assoc, List.cons_append] at h
    obtain ⟨-, rfl⟩ := List.cons.inj (List.append_cancel_left h)
    exact absurd (List.mem_append_right ws List.mem_cons_self) hvs
  · cases ws with
    | nil => exact ⟨(List.append_nil xs).symm, (List.cons.inj hcons).2⟩
    | cons b ws =>
        obtain ⟨-, rfl⟩ := List.cons.inj hcons
        exact absurd (List.mem_append_right ws List.mem_cons_self) hys

end Cuts

namespace Outline

/-- A finish begins with its only colon, and there is neither a quote nor a line break in it. -/
theorem exists_finish (o : Outline) :
    ∃ cs, o.finish.toList = ':' :: cs ∧ ':' ∉ cs ∧ '\'' ∉ cs ∧ '\n' ∉ cs := by
  cases o with
  | signature s =>
      have habsent : ∀ {c : Char}, c.isAlphanum = false → c ∉ [',', ' ', '(', ')', '-', '>'] →
          c ∉ ' ' :: s.text.toList := by
        intro c halphanum hmarks hc
        rcases List.mem_cons.1 hc with rfl | htext
        · exact absurd hmarks (by decide)
        · rcases Signature.isAlphanum_of_mem_text htext with hother | hmark
          · rw [halphanum] at hother
            cases hother
          · exact hmarks hmark
      exact ⟨' ' :: s.text.toList, by simp [finish], habsent rfl (by decide),
        habsent rfl (by decide), habsent rfl (by decide)⟩
  | unsupported t ht =>
      refine ⟨" value type ".toList ++ t.text.toList ++ " has no supported kind>".toList,
        by simp [finish], ?_⟩
      cases t <;> decide

theorem not_mem_finish (o : Outline) : '\'' ∉ o.finish.toList ∧ '\n' ∉ o.finish.toList := by
  obtain ⟨cs, hcs, -, hquote, hbreak⟩ := o.exists_finish
  rw [hcs]
  simp [hquote, hbreak]

theorem finish_injective {o o' : Outline} (h : o.finish = o'.finish) : o = o' := by
  have hhead : ∀ s t ht, (signature s).finish ≠ (unsupported t ht).finish := by
    intro s t ht heq
    have hchars := congrArg String.toList heq
    simp [finish, Signature.text] at hchars
  cases o with
  | signature s =>
      cases o' with
      | signature s' =>
          rw [Signature.text_injective ((String.append_right_inj _).1 h)]
      | unsupported t ht => exact absurd h (hhead s t ht)
  | unsupported t ht =>
      cases o' with
      | signature s => exact absurd h.symm (hhead s t ht)
      | unsupported t' ht' =>
          have htext : t.text = t'.text :=
            (String.append_right_inj _).1 ((String.append_left_inj _).1 h)
          have htype : t = t' := by
            revert htext
            cases t <;> cases t' <;> decide
          subst htype
          rfl

/-- A name and an outline can be read off their entry. -/
theorem entry_injective {name name' : String} {o o' : Outline}
    (h : o.entry name = o'.entry name') : name = name' ∧ o = o' := by
  obtain ⟨cs, hcs, hcolon, -⟩ := o.exists_finish
  obtain ⟨cs', hcs', hcolon', -⟩ := o'.exists_finish
  have hchars := congrArg String.toList h
  rw [entry, entry, String.toList_append, String.toList_append, hcs, hcs'] at hchars
  obtain ⟨hstem, htail⟩ := append_cons_inj_of_not_mem hcolon hcolon' hchars
  obtain rfl : o = o' := by
    apply finish_injective
    rw [← String.toList_inj, hcs, hcs', htail]
  refine ⟨?_, rfl⟩
  rw [String.toList_inj] at hstem
  cases o with
  | signature s => exact hstem
  | unsupported t ht =>
      -- The name comes twice, so its length is known from that of the stem.
      have hnames := congrArg String.toList hstem
      have hlength := congrArg List.length hnames
      simp only [stem, String.toList_append, List.append_assoc, List.length_append] at hnames hlength
      exact String.toList_inj.1 (List.append_inj_left hnames (by omega))

end Outline

/-- No line break in a name comes directly behind a finish. -/
def Tame (name : String) : Prop :=
  ∀ o : Outline, ¬ (o.finish.toList ++ ['\n']) <:+: name.toList

section Tame

variable {name : String}

/-- A finish ends with a parenthesis or with a bracket, so other line breaks in a name are allowed. -/
theorem tame_of_breaks (hparenthesis : ¬ [')', '\n'] <:+: name.toList)
    (hbracket : ¬ ['>', '\n'] <:+: name.toList) : Tame name := by
  intro o hinfix
  cases o with
  | signature s =>
      refine hparenthesis (List.IsInfix.trans ?_ hinfix)
      have hends : [')', '\n'] <:+ (Outline.signature s).finish.toList ++ ['\n'] := by
        refine ⟨(": (" ++ Signature.kindsText s.params ++ ") -> (" ++
          Signature.kindsText s.results).toList, ?_⟩
        simp [Outline.finish, Signature.text]
      exact hends.isInfix
  | unsupported t ht =>
      refine hbracket (List.IsInfix.trans ?_ hinfix)
      have hends : ['>', '\n'] <:+ (Outline.unsupported t ht).finish.toList ++ ['\n'] := by
        refine ⟨(": value type " ++ t.text ++ " has no supported kind").toList, ?_⟩
        simp [Outline.finish]
      exact hends.isInfix

theorem Tame.ne_append (hname : Tame name) (o : Outline) (front rest : List Char) :
    name.toList ≠ front ++ o.finish.toList ++ '\n' :: rest := by
  intro heq
  refine hname o ⟨front, rest, ?_⟩
  rw [heq]
  simp

/-- In the stem of an entry a line break is in a copy of the name, and there is a quote in front of the
second copy, but none in a finish. -/
theorem Tame.stem_ne (hname : Tame name) (o o' : Outline) (front rest : List Char) :
    (o.stem name).toList ≠ front ++ o'.finish.toList ++ '\n' :: rest := by
  intro hstem
  cases o with
  | signature s => exact hname.ne_append o' front rest hstem
  | unsupported t ht =>
      simp only [Outline.stem, String.toList_append] at hstem
      obtain ⟨rest, hcopies⟩ := exists_of_append_eq (by decide) hstem
      rcases append_eq_append_cons hcopies with ⟨ws, hfirst⟩ | ⟨ws, hfront, hsecond⟩
      · obtain ⟨rest, hfirst⟩ := exists_of_append_eq (by decide) hfirst
        exact hname.ne_append o' front rest hfirst
      · have hwords : ": <Unsupported signature for '".toList =
            ": <Unsupported signature for ".toList ++ ['\''] := rfl
        rw [hwords, ← List.append_assoc, ← List.append_cons] at hfront
        obtain ⟨us, rfl⟩ := exists_of_append_eq o'.not_mem_finish.1 hfront
        rw [List.append_assoc, List.cons_append] at hfront
        obtain ⟨-, rfl⟩ := List.cons.inj (List.append_cancel_left hfront)
        exact hname.ne_append o' us rest hsecond

/-- A line is the entry of some tame name. -/
def IsEntry (line : String) : Prop :=
  ∃ name o, Tame name ∧ line = Outline.entry name o

variable {line line' : String} {rest rest' : List Char}

/-- An entry does not begin with another one and a line break. -/
theorem IsEntry.ne_append (hline : IsEntry line) (hline' : IsEntry line') (rest : List Char) :
    line.toList ≠ line'.toList ++ '\n' :: rest := by
  obtain ⟨name, o, hname, rfl⟩ := hline
  obtain ⟨name', o', -, rfl⟩ := hline'
  intro heq
  rw [Outline.entry, Outline.entry, String.toList_append, String.toList_append] at heq
  obtain ⟨rest, hstem⟩ := exists_of_append_eq o.not_mem_finish.2 heq
  exact hname.stem_ne o o' _ rest hstem

/-- The first entry of a listing is known. -/
theorem IsEntry.eq_of_append (hline : IsEntry line) (hline' : IsEntry line')
    (h : line.toList ++ '\n' :: rest = line'.toList ++ '\n' :: rest') :
    line = line' ∧ rest = rest' := by
  rcases append_eq_append_cons h with ⟨ws, hlonger⟩ | ⟨ws, hlonger, hrest⟩
  · exact absurd hlonger (hline.ne_append hline' ws)
  · cases ws with
    | nil =>
        rw [List.append_nil] at hlonger
        exact ⟨String.toList_inj.1 hlonger.symm, (List.cons.inj hrest).2⟩
    | cons c ws =>
        obtain ⟨rfl, -⟩ := List.cons.inj hrest
        exact absurd hlonger (hline'.ne_append hline ws)

/-- Entries of tame names can be read off a listing, one by one. -/
theorem join_injective {lines lines' : List String} (hlines : ∀ line ∈ lines, IsEntry line)
    (hlines' : ∀ line ∈ lines', IsEntry line)
    (h : String.join (lines.map (· ++ "\n")) = String.join (lines'.map (· ++ "\n"))) :
    lines = lines' := by
  have hcons : ∀ line lines, (String.join (List.map (· ++ "\n") (line :: lines))).toList =
      line.toList ++ '\n' :: (String.join (lines.map (· ++ "\n"))).toList := by
    intro line lines
    simp [String.join_cons]
  have hne : ∀ line lines, String.join (List.map (· ++ "\n") (line :: lines)) ≠ "" := by
    intro line lines hempty
    have hchars := congrArg String.toList hempty
    simp at hchars
  induction lines generalizing lines' with
  | nil =>
      cases lines' with
      | nil => rfl
      | cons line' lines' => exact absurd h.symm (hne line' lines')
  | cons line lines ih =>
      cases lines' with
      | nil => exact absurd h (hne line lines)
      | cons line' lines' =>
          rw [List.forall_mem_cons] at hlines hlines'
          have hchars := congrArg String.toList h
          rw [hcons, hcons] at hchars
          obtain ⟨rfl, hrest⟩ := hlines.1.eq_of_append hlines'.1 hchars
          rw [ih hlines.2 hlines'.2 (String.toList_inj.1 hrest)]

end Tame

end WasmCall
