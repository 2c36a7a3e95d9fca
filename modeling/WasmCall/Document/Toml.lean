import WasmCall.Document.Reading
import WasmCall.Document.Toml.Scalar
import WasmCall.Document.Toml.Tables

/-!
# TOML

Reading of a TOML text into a document.  A text is a sequence of lines: headers, members of the
table which the last header opened, comments and blank lines.  Values go over several lines only
in lists and in texts with three quotes.
-/

namespace WasmCall.Toml

/-- White space, line breaks and comments, as they may stand in lists. -/
def skipFill (inComment : Bool) : List Char → List Char
  | '\n' :: cs => skipFill false cs
  | '\r' :: '\n' :: cs => skipFill false cs
  | c :: cs =>
    if inComment then
      if isInline c then skipFill true cs else c :: cs
    else if isBlank c then skipFill false cs
    else if c = '#' then skipFill true cs
    else c :: cs
  | [] => []

/-- The rest behind the end of a line, in front of which only a comment may stand. -/
def endLine (inComment : Bool) : List Char → Option (List Char)
  | [] => some []
  | '\n' :: cs => some cs
  | '\r' :: '\n' :: cs => some cs
  | c :: cs =>
    if inComment then
      if isInline c then endLine true cs else none
    else if isBlank c then endLine false cs
    else if c = '#' then endLine true cs
    else none

/-- The rest behind a word. -/
def word (w : String) (cs : List Char) : Option (List Char) :=
  if w.toList.isPrefixOf cs then some (cs.drop w.length) else none

mutual

/-- A value at some depth.  The fuel bounds how often values and items may be asked for.  Twice the
length of the text is enough, because every two steps consume something of it. -/
def value : Nat → Nat → List Char → Option (Document × List Char)
  | 0, _, _ => none
  | fuel + 1, depth, cs =>
    match cs with
    | '"' :: _ | '\'' :: _ => (quoted fuel true cs).map fun r => (.string r.1, r.2)
    | '[' :: rest =>
      if depth + 1 < maxDepth then items fuel (depth + 1) [] (skipFill false rest) else none
    | '\x7b' :: rest =>
      if depth + 1 < maxDepth then
        match skipBlank rest with
        | '\x7d' :: rest => some (.table [] .closed, rest)
        | rest => members fuel (depth + 1) [] rest
      else none
    | 't' :: _ => (word "true" cs).map (.bool true, ·)
    | 'f' :: _ => (word "false" cs).map (.bool false, ·)
    | _ => numberOrDate cs

/-- The items of a list, from the next one on or from its end, given those before in reverse. -/
def items : Nat → Nat → List Document → List Char → Option (Document × List Char)
  | 0, _, _, _ => none
  | fuel + 1, depth, acc, cs =>
    match cs with
    | ']' :: rest => some (.list acc.reverse .closed, rest)
    | _ => do
      let (d, rest) ← value fuel depth cs
      match skipFill false rest with
      | ',' :: rest => items fuel depth (d :: acc) (skipFill false rest)
      | ']' :: rest => some (.list (d :: acc).reverse .closed, rest)
      | _ => none

/-- The members of an inline table, from the next one on, given those before. -/
def members : Nat → Nat → Members → List Char → Option (Document × List Char)
  | 0, _, _, _ => none
  | fuel + 1, depth, ms, cs => do
    let ((path, name), rest) ← key fuel cs
    let rest ← expect '=' rest
    let (d, rest) ← value fuel depth (skipBlank rest)
    let ms ← ms.insert path name d .header
    match skipBlank rest with
    | ',' :: rest => members fuel depth ms rest
    | '\x7d' :: rest => some (.table (memberDocuments .closed ms) .closed, rest)
    | _ => none

end

/-- A text which is being read: the table which was opened last, and everything so far. -/
structure Draft where
  opened : List String
  root : Members

/-- Read a header, from behind its first bracket. -/
def header (fuel : Nat) (draft : Draft) (cs : List Char) : Option (Draft × List Char) :=
  match cs with
  | '[' :: cs => do
    let ((path, name), rest) ← key fuel cs
    let rest ← word "]]" rest
    return (⟨path ++ [name], ← draft.root.openItem path name⟩, rest)
  | cs => do
    let ((path, name), rest) ← key fuel cs
    let rest ← expect ']' rest
    return (⟨path ++ [name], ← draft.root.openTable path name⟩, rest)

/-- Read a member of the table which was opened last. -/
def member (fuel : Nat) (draft : Draft) (cs : List Char) : Option (Draft × List Char) := do
  let ((path, name), rest) ← key fuel cs
  let rest ← expect '=' rest
  let (d, rest) ← value fuel 0 (skipBlank rest)
  let root ← Members.update false (fun origin ms => ms.insert path name d origin) .header
    draft.opened draft.root
  return (⟨draft.opened, root⟩, rest)

/-- Read line after line.  The fuel is more than twice the length of the text. -/
def lines : Nat → Draft → List Char → Option Members
  | 0, _, _ => none
  | fuel + 1, draft, cs =>
    match skipBlank cs with
    | [] => some draft.root
    | '[' :: rest => do
      let (draft, rest) ← header fuel draft rest
      lines fuel draft (← endLine false rest)
    | cs =>
      match endLine false cs with
      | some rest => lines fuel draft rest
      | none => do
        let (draft, rest) ← member fuel draft cs
        lines fuel draft (← endLine false rest)

/-- Read a text as a document.  A byte order mark in front is left out. -/
def parse (text : String) : Option Document :=
  let cs := text.toList
  let cs := if cs.head? = some '\ufeff' then cs.tail else cs
  (lines (2 * cs.length + 2) ⟨[], []⟩ cs).map fun ms => .table (memberDocuments .spread ms) .spread

/-- Lists may have surplus items, and something empty stands behind a word. -/
def dialect : Dialect where
  surplus := true
  isUnit
    | .list [] _ => true
    | .table [] _ => true
    | _ => false

/-- Read a text as a document and the document as a value. -/
def read {α : Type} (reader : Document → Except Fault α) (text : String) : Except Fault α :=
  match parse text with
  | none => .error .malformed
  | some d => reader d

end WasmCall.Toml
