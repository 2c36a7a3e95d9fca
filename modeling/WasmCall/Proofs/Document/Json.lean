import Mathlib.Data.String.Basic
import WasmCall.Document.Json
import WasmCall.Proofs.Decimal.Digits

/-!
# Reading what was written as JSON

A document which has a text of its own (`Writable`) is written without any space, and reading the text
gives the document back, whatever follows it, as long as a number is not continued (`value_write`).
The reader has fuel of twice the length of the text, which is enough for every part of it.
-/

namespace WasmCall.Json

open Decimal

mutual

/-- A document with a text of its own.  Integers have to be in the range of those which are read. -/
inductive Writable : Document → Prop
  | null : Writable .null
  | bool (b : Bool) : Writable (.bool b)
  | natural (n : Nat) (hn : n < pow2 64) : Writable (.integer n)
  | negative (n : Nat) (hpos : 0 < n) (hn : n ≤ pow2 63) : Writable (.integer (-n))
  | string (s : String) : Writable (.string s)
  | table (ms : List (Key × Document)) (hms : WritableMembers ms) : Writable (.table ms .closed)

/-- Members with texts as keys, and with texts of their own. -/
inductive WritableMembers : List (Key × Document) → Prop
  | nil : WritableMembers []
  | cons (name : String) (d : Document) (ms : List (Key × Document)) (hd : Writable d)
      (hms : WritableMembers ms) : WritableMembers ((.text name, d) :: ms)

end

section Quoted

/-- The digits of a character which is written by its number. -/
def unitDigits (n : Nat) : List Char :=
  List.replicate (4 - (Nat.toDigits 16 n).length) '0' ++ Nat.toDigits 16 n

theorem toList_hexPadded (n : Nat) : (Text.hexPadded 4 n).toList = unitDigits n := by
  rw [Text.hexPadded, String.toList_ofList]
  rfl

/-- The number of a control character is written by four digits. -/
theorem unit16_unitDigits {n : Nat} (hn : n < 0x20) (rest : List Char) :
    unit16 (unitDigits n ++ rest) = .ok (n, rest) := by
  have hdigits : ∀ n < 0x20, (unitDigits n).length = 4 ∧ String.utf8Len (unitDigits n) = 4 ∧
      Text.readHex (unitDigits n) = some n := by
    decide
  obtain ⟨hlength, hsize, hread⟩ := hdigits n hn
  have htake : (unitDigits n ++ rest).take 4 = unitDigits n := by
    rw [← hlength, List.take_left]
  have hdrop : (unitDigits n ++ rest).drop 4 = rest := by
    rw [← hlength, List.drop_left]
  have hlacks : lacksFour (unitDigits n ++ rest) = false := by
    rw [lacksFour, htake, String.utf8ByteSize_ofList, hsize]
    rfl
  simp only [unit16, hlacks, htake, hread, hlength, hdrop]
  rfl

/-- A character is read as it was written, in one step. -/
theorem quotedTail_quotedChar (fuel : Nat) (acc : List Char) (c : Char) (rest : List Char) :
    quotedTail (fuel + 1) false acc ((quotedChar c).toList ++ rest) =
      quotedTail fuel false (c :: acc) rest := by
  unfold quotedChar
  split
  case h_8 hquote hbackslash hb hf hn hr ht =>
      split
      · rename_i hcontrol
        rw [String.toList_append, toList_hexPadded]
        have hunit := unit16_unitDigits hcontrol rest
        have hlow : ¬ (0xDC00 ≤ c.toNat ∧ c.toNat ≤ 0xDFFF) := by omega
        have hhigh : ¬ (0xD800 ≤ c.toNat ∧ c.toNat ≤ 0xDBFF) := by omega
        simp [quotedTail, hunit, hlow, hhigh, Char.ofNat_toNat]
      · rename_i hcontrol
        rw [String.toList_ofList, List.singleton_append, quotedTail, if_neg hcontrol]
        · exact hquote
        · exact fun hc _ => hbackslash hc
        · exact fun _ hc _ => hbackslash hc
        · exact fun _ _ hc _ => hbackslash hc
  all_goals rfl

/-- The characters of a text are read in as many steps. -/
theorem quotedTail_append (cs : List Char) (fuel : Nat) (acc rest : List Char) :
    quotedTail (cs.length + fuel) false acc
        (cs.flatMap (fun c => (quotedChar c).toList) ++ rest) =
      quotedTail fuel false (cs.reverse ++ acc) rest := by
  induction cs generalizing acc with
  | nil => simp
  | cons c cs ih =>
      rw [List.flatMap_cons, List.append_assoc, List.length_cons, Nat.add_right_comm,
        quotedTail_quotedChar, ih, List.reverse_cons, List.append_assoc]
      rfl

/-- The characters of a text in quotes. -/
theorem toList_quotedText (s : String) :
    (quotedText s).toList =
      '"' :: s.toList.flatMap (fun c => (quotedChar c).toList) ++ ['"'] := by
  simp [quotedText, String.toList_append, String.toList_join, List.flatMap_map]

/-- A text is read from behind its opening quote. -/
theorem quoted_quotedText {s : String} {fuel : Nat} (hfuel : s.length < fuel) (rest : List Char) :
    quoted fuel (s.toList.flatMap (fun c => (quotedChar c).toList) ++ '"' :: rest) =
      .ok ⟨some s, rest⟩ := by
  obtain ⟨spare, rfl⟩ : ∃ spare, fuel = s.toList.length + (spare + 1) := by
    rw [String.length_toList]
    exact ⟨fuel - s.length - 1, by omega⟩
  rw [quoted, quotedTail_append]
  simp [quotedTail]

theorem length_lt_quotedText (s : String) : s.length + 1 < (quotedText s).toList.length := by
  have hchar : ∀ c, 1 ≤ (quotedChar c).toList.length := by
    intro c
    unfold quotedChar
    split
    case h_8 =>
        split
        · simp [String.toList_append]
        · simp
    all_goals decide
  have hchars : ∀ cs : List Char, cs.length ≤ (cs.flatMap fun c => (quotedChar c).toList).length := by
    intro cs
    induction cs with
    | nil => exact Nat.le_refl _
    | cons c cs ih =>
        have hfirst := hchar c
        rw [List.flatMap_cons, List.length_append, List.length_cons]
        omega
  have hall := hchars s.toList
  rw [String.length_toList] at hall
  rw [toList_quotedText]
  simp only [List.cons_append, List.length_cons, List.length_append, List.length_nil]
  omega

end Quoted

section Scalars

variable {c : Char} {cs rest : List Char}

/-- A number is not continued by what follows. -/
def Ends (rest : List Char) : Prop :=
  ∀ c ∈ rest.head?, c.isDigit = false ∧ c ≠ '.' ∧ c ≠ 'e' ∧ c ≠ 'E'

theorem Ends.noDigit (h : Ends rest) : NoDigit rest := fun c hc => (h c hc).1

theorem ends_nil : Ends [] := by
  intro c hc
  cases hc

theorem ends_comma (rest : List Char) : Ends (',' :: rest) := by
  intro c hc
  cases hc
  decide

theorem ends_brace (rest : List Char) : Ends ('\x7d' :: rest) := by
  intro c hc
  cases hc
  decide

theorem skipBlank_cons (hc : isBlank c = false) (cs : List Char) : skipBlank (c :: cs) = c :: cs := by
  rw [skipBlank, List.dropWhile_cons, if_neg (by simp [hc])]

theorem fractionPart_of_ends (negative : Bool) (whole : List Char) (hrest : Ends rest) :
    fractionPart negative whole rest = (integerOf negative whole, some rest) := by
  cases rest with
  | nil => rfl
  | cons c rest =>
      obtain ⟨-, hpoint, hsmall, hlarge⟩ := hrest c rfl
      rw [fractionPart]
      · exact fun _ hc => hpoint (List.cons.inj hc).1
      · exact fun _ hc => hsmall (List.cons.inj hc).1
      · exact fun _ hc => hlarge (List.cons.inj hc).1

/-- The digits of a number make an integer. -/
theorem number_toDigits (negative : Bool) (n : Nat) (hrest : Ends rest) :
    number negative (Nat.toDigits 10 n ++ rest) =
      (integerOf negative (Nat.toDigits 10 n), some rest) := by
  have hdigits := isDigit_toDigits n
  rw [number, takeDigits_append hdigits hrest.noDigit]
  split
  · rename_i hnone
    exact absurd (congrArg Prod.fst hnone) Nat.toDigits_ne_nil
  · rename_i hzero
    have hlist := congrArg Prod.fst hzero
    have hn : n = 0 := by
      by_contra hn
      apply head_toDigits_ne hn
      simp only at hlist
      rw [hlist]
      rfl
    rw [hn, Nat.toDigits_zero] at hlist
    cases hlist
  · rename_i hwhole
    cases hwhole
    exact fractionPart_of_ends negative _ hrest

theorem value_of_digit (fuel : Nat) (hc : c.isDigit = true) (cs : List Char) :
    value (fuel + 1) (c :: cs) = number false (c :: cs) := by
  have hother : ∀ x : Char, x.isDigit = false → c ≠ x := by
    rintro x hx rfl
    rw [hc] at hx
    cases hx
  have hblank : isBlank c = false := by
    simp [isBlank, hother]
  rw [value, skipBlank_cons hblank]
  split
  case h_1 heq => cases heq
  case h_9 heq =>
      cases heq
      rw [if_pos hc]
  -- None of the other first characters is a digit.
  all_goals
    rename_i heq
    refine absurd (List.cons.inj heq).1 (hother _ ?_)
    decide

theorem value_natural (fuel : Nat) {n : Nat} (hn : n < pow2 64) (hrest : Ends rest) :
    value (fuel + 1) ((write (.integer n)).toList ++ rest) = (.integer n, some rest) := by
  have hwrite : (write (.integer n)).toList = Nat.toDigits 10 n := Nat.toList_repr
  cases hdigits : Nat.toDigits 10 n with
  | nil => exact absurd hdigits Nat.toDigits_ne_nil
  | cons c cs =>
      have hc : c.isDigit = true := isDigit_toDigits n c (hdigits ▸ List.mem_cons_self)
      rw [hwrite, hdigits, List.cons_append, value_of_digit fuel hc, ← List.cons_append, ← hdigits,
        number_toDigits false n hrest, integerOf, natOfDigits_toDigits]
      simp only [if_pos hn]
      rfl

theorem toList_write_negative {n : Nat} (hpos : 0 < n) :
    (write (.integer (-n))).toList = '-' :: Nat.toDigits 10 n := by
  obtain ⟨k, rfl⟩ : ∃ k, n = k + 1 := ⟨n - 1, by omega⟩
  change ("-" ++ (k + 1).repr).toList = _
  rw [String.toList_append, Nat.toList_repr]
  rfl

theorem value_negative (fuel : Nat) {n : Nat} (hpos : 0 < n) (hn : n ≤ pow2 63)
    (hrest : Ends rest) :
    value (fuel + 1) ((write (.integer (-n))).toList ++ rest) = (.integer (-n), some rest) := by
  rw [toList_write_negative hpos, List.cons_append, value, skipBlank_cons rfl]
  simp only [number_toDigits true n hrest, integerOf, natOfDigits_toDigits, if_true,
    if_pos (And.intro hpos hn)]

theorem value_string {s : String} {fuel : Nat} (hfuel : s.length < fuel) (rest : List Char) :
    value (fuel + 1) ((write (.string s)).toList ++ rest) = (.string s, some rest) := by
  rw [write, toList_quotedText, List.append_assoc, List.cons_append, value, skipBlank_cons rfl]
  simp only [List.singleton_append, quoted_quotedText hfuel rest]

end Scalars

section Tables

variable {name : String} {d : Document} {ms : List (Key × Document)} {rest : List Char}

/-- The members of a table as they are written. -/
def membersText (ms : List (Key × Document)) : List Char :=
  (",".intercalate (writeMembers ms)).toList

/-- One member as it is written. -/
def memberText (name : String) (d : Document) : List Char :=
  (quotedText name).toList ++ ':' :: (write d).toList

theorem toList_write_table (ms : List (Key × Document)) (ending : Ending) :
    (write (.table ms ending)).toList = '\x7b' :: membersText ms ++ ['\x7d'] := by
  simp [write, membersText]

theorem membersText_singleton (name : String) (d : Document) :
    membersText [(.text name, d)] = memberText name d := by
  simp [membersText, memberText, writeMembers, keyText]

theorem membersText_cons (name : String) (d : Document) (m : Key × Document)
    (ms : List (Key × Document)) :
    membersText ((.text name, d) :: m :: ms) = memberText name d ++ ',' :: membersText (m :: ms) := by
  obtain ⟨key, d'⟩ := m
  simp [membersText, memberText, writeMembers, keyText]

/-- The key of a member is read, and then its value. -/
theorem members_memberText {fuel : Nat} (hfuel : name.length < fuel) (acc : List (Key × Document)) :
    members (fuel + 1) acc (memberText name d ++ rest) =
      match value fuel ((write d).toList ++ rest) with
      | (d, none) => (.table ((.text name, d) :: acc).reverse .closed, none)
      | (d, some rest) =>
        let acc := (.text name, d) :: acc
        match skipBlank rest with
        | [] => (.table acc.reverse (.broken .ended), none)
        | ',' :: rest => members fuel acc rest
        | '\x7d' :: rest => (.table acc.reverse .closed, some rest)
        | _ => (.table acc.reverse (.broken .malformed), none) := by
  rw [memberText, toList_quotedText]
  simp only [List.cons_append, List.append_assoc, List.nil_append]
  rw [members, skipBlank_cons rfl]
  simp only [quoted_quotedText hfuel]
  rw [skipBlank_cons rfl]
  rfl

theorem length_memberText (name : String) (d : Document) :
    name.length + (write d).toList.length + 2 < (memberText name d).length := by
  have hname := length_lt_quotedText name
  rw [memberText, List.length_append, List.length_cons]
  omega

/-- The members of a table begin with a quote. -/
theorem exists_membersText {m : Key × Document} (h : WritableMembers (m :: ms)) :
    ∃ cs, membersText (m :: ms) = '"' :: cs := by
  cases h with
  | cons name d _ hd hms =>
      cases ms with
      | nil =>
          rw [membersText_singleton, memberText, toList_quotedText]
          exact ⟨_, rfl⟩
      | cons m ms =>
          rw [membersText_cons, memberText, toList_quotedText]
          exact ⟨_, rfl⟩

theorem length_write_pos {d : Document} (h : Writable d) : 0 < (write d).toList.length := by
  cases h with
  | null => decide
  | bool b => cases b <;> decide
  | natural n hn =>
      change 0 < n.repr.toList.length
      rw [Nat.toList_repr]
      exact Nat.length_toDigits_pos
  | negative n hpos hn =>
      rw [toList_write_negative hpos]
      exact Nat.succ_pos _
  | string s => exact Nat.lt_of_le_of_lt (Nat.zero_le _) (length_lt_quotedText s)
  | table ms hms =>
      rw [toList_write_table]
      exact Nat.succ_pos _

/-- What was written is read back with so much fuel. -/
structure ReadBack (fuel : Nat) : Prop where
  value : ∀ (d : Document) (rest : List Char), Writable d → Ends rest →
    2 * (write d).toList.length ≤ fuel → value fuel ((write d).toList ++ rest) = (d, some rest)
  members : ∀ (acc : List (Key × Document)) (m : Key × Document) (ms : List (Key × Document))
    (rest : List Char), WritableMembers (m :: ms) → 2 * (membersText (m :: ms)).length ≤ fuel →
    members fuel acc (membersText (m :: ms) ++ '\x7d' :: rest) =
      (.table (acc.reverse ++ m :: ms) .closed, some rest)

theorem ReadBack.value_succ {fuel : Nat} (ih : ReadBack fuel) {d : Document} (h : Writable d)
    {rest : List Char} (hrest : Ends rest) (hfuel : 2 * (write d).toList.length ≤ fuel + 1) :
    Json.value (fuel + 1) ((write d).toList ++ rest) = (d, some rest) := by
  cases h with
  | null => rfl
  | bool b => cases b <;> rfl
  | natural n hn => exact value_natural fuel hn hrest
  | negative n hpos hn => exact value_negative fuel hpos hn hrest
  | string s =>
      have hlength := length_lt_quotedText s
      rw [write] at hfuel
      exact value_string (by omega) rest
  | table ms hms =>
      rw [toList_write_table] at hfuel ⊢
      rw [List.append_assoc, List.cons_append]
      cases ms with
      | nil => rfl
      | cons m ms =>
          simp only [List.length_append, List.length_cons, List.length_nil] at hfuel
          have hmembers := ih.members [] m ms rest hms (by omega)
          obtain ⟨cs, hcs⟩ := exists_membersText hms
          rw [Json.value, skipBlank_cons rfl]
          rw [hcs] at hmembers ⊢
          simp only [List.cons_append, List.nil_append, skipBlank_cons (c := '"') rfl] at hmembers ⊢
          exact hmembers

theorem ReadBack.members_succ {fuel : Nat} (ih : ReadBack fuel) {m : Key × Document}
    {ms : List (Key × Document)} (h : WritableMembers (m :: ms)) (acc : List (Key × Document))
    (rest : List Char) (hfuel : 2 * (membersText (m :: ms)).length ≤ fuel + 1) :
    Json.members (fuel + 1) acc (membersText (m :: ms) ++ '\x7d' :: rest) =
      (.table (acc.reverse ++ m :: ms) .closed, some rest) := by
  cases h with
  | cons name d _ hd hms =>
      have hmember := length_memberText name d
      cases ms with
      | nil =>
          rw [membersText_singleton] at hfuel ⊢
          rw [members_memberText (by omega), ih.value d _ hd (ends_brace rest) (by omega)]
          simp only [skipBlank_cons (c := '\x7d') rfl, List.reverse_cons]
      | cons m ms =>
          rw [membersText_cons, List.length_append, List.length_cons] at hfuel
          have hmembers := ih.members ((.text name, d) :: acc) m ms rest hms (by omega)
          rw [membersText_cons, List.append_assoc, members_memberText (by omega), List.cons_append,
            ih.value d _ hd (ends_comma _) (by omega)]
          simp only [skipBlank_cons (c := ',') rfl, hmembers, List.reverse_cons, List.append_assoc,
            List.singleton_append]

/-- Documents and members are read back.  Every value and every member takes fuel, of which their
texts give enough. -/
theorem readBack (fuel : Nat) : ReadBack fuel := by
  induction fuel with
  | zero =>
      refine ⟨?_, ?_⟩
      · intro d rest h hrest hfuel
        have hpos := length_write_pos h
        omega
      · intro acc m ms rest h hfuel
        obtain ⟨cs, hcs⟩ := exists_membersText h
        rw [hcs, List.length_cons] at hfuel
        omega
  | succ fuel ih =>
      exact ⟨fun d rest h hrest hfuel => ih.value_succ h hrest hfuel,
        fun acc m ms rest h hfuel => ih.members_succ h acc rest hfuel⟩

end Tables

/-- A text is one of a document: it is read as the document, and nothing but white space follows. -/
def Denotes (text : String) (d : Document) : Prop :=
  ∃ rest, value (2 * text.toList.length + 2) text.toList = (d, some rest) ∧ skipBlank rest = []

/-- Reading a text is reading the document. -/
theorem read_of_denotes {α : Type} (reader : Document → Except Fault α) {text : String}
    {d : Document} (h : Denotes text d) : read reader text = reader d := by
  obtain ⟨rest, hvalue, hrest⟩ := h
  cases hreader : reader d with
  | error e => simp [read, hvalue, hreader, bind, Except.bind]
  | ok a => simp [read, hvalue, hreader, hrest, bind, Except.bind, pure, Except.pure]

/-- What is written denotes the document. -/
theorem denotes_write {d : Document} (h : Writable d) : Denotes (write d) d := by
  refine ⟨[], ?_, rfl⟩
  have hvalue := (readBack (2 * (write d).toList.length + 2)).value d [] h ends_nil (by omega)
  rw [List.append_nil] at hvalue
  exact hvalue

end WasmCall.Json
