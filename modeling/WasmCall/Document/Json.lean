import WasmCall.Decimal.Reading
import WasmCall.Document.Reading
import WasmCall.Power
import WasmCall.Text.Hex

/-!
# JSON

Reading of a JSON text into a document, and writing of a document without any space.

The reader has one thing to say besides the tree: what follows it, or that the text broke off, in
which case nothing follows.  Four details of the format show in the answers.

* Skipped texts may contain half of a surrogate pair and skipped numbers may be of any size, but
  neither can be read.
* A number with a minus sign is an integer only if it is negative.
* A number which lacks digits at the end of the text is a text that ended if it was to be read,
  and malformed if it was to be skipped.
* An escape by number needs four characters, and if there are not four the text ended, whatever
  they are.
-/

namespace WasmCall.Json

open Decimal

/-- A tree and what follows it; nothing follows where the text breaks off. -/
abbrev Parsed : Type := Document × Option (List Char)

/-- The text breaks off here, with the same fault whatever was asked for. -/
def breakOff (f : Fault) : Parsed := (.broken (.always f), none)

/-- White space of the format. -/
def isBlank (c : Char) : Bool :=
  c == ' ' || c == '\n' || c == '\t' || c == '\r'

/-- A text without its leading white space. -/
def skipBlank (cs : List Char) : List Char :=
  cs.dropWhile isBlank

/-- One of the three literal words, of which the first character was read already. -/
def literal (d : Document) : List Char → List Char → Parsed
  | [], cs => (d, some cs)
  | _ :: _, [] => (.broken ⟨.ended, .malformed, .ended⟩, none)
  | w :: ws, c :: cs => if c = w then literal d ws cs else breakOff .malformed

/-- A text which lacks digits.  Its end is noticed only if the number is to be read. -/
def digitsMissing (rest : List Char) : Parsed :=
  if rest.isEmpty then (.broken ⟨.ended, .malformed, .malformed⟩, none)
  else breakOff .malformed

/-- A number which is not an integer, or an integer without a machine type of 64 bits.  It can be
read unless it is beyond all floats of 64 bits. -/
def floatOf (digits : List Char) (exponent : Int) : Document :=
  let f := Floating.binary64
  if Decimal.toFloat f false digits exponent = f.infinity then .unreadable else .float

/-- The number without a point or an exponent. -/
def integerOf (negative : Bool) (digits : List Char) : Document :=
  let n := natOfDigits digits
  if negative then
    if 0 < n ∧ n ≤ pow2 63 then .integer (-n) else floatOf digits 0
  else if n < pow2 64 then .integer n
  else floatOf digits 0

/-- The exponent of a number, from behind the letter, given the digits in front of it. -/
def exponentPart (digits : List Char) (places : Nat) (cs : List Char) : Parsed :=
  let (negative, cs) :=
    match cs with
    | '+' :: cs => (false, cs)
    | '-' :: cs => (true, cs)
    | cs => (false, cs)
  let (exponent, rest) := takeDigits cs
  if exponent.isEmpty then digitsMissing rest
  else
    let size : Int := natOfDigits exponent
    (floatOf digits ((if negative then -size else size) - places), some rest)

/-- What follows the whole part of a number. -/
def fractionPart (negative : Bool) (whole : List Char) : List Char → Parsed
  | '.' :: cs =>
    let (fraction, rest) := takeDigits cs
    if fraction.isEmpty then digitsMissing rest
    else
      match rest with
      | 'e' :: cs | 'E' :: cs => exponentPart (whole ++ fraction) fraction.length cs
      | rest => (floatOf (whole ++ fraction) (-(fraction.length : Int)), some rest)
  | 'e' :: cs | 'E' :: cs => exponentPart whole 0 cs
  | cs => (integerOf negative whole, some cs)

/-- A number, from behind its sign.  A zero in front is all of the whole part. -/
def number (negative : Bool) (cs : List Char) : Parsed :=
  match takeDigits cs with
  | ([], _) => breakOff .malformed
  | ('0' :: _ :: _, _) => breakOff .malformed
  | (whole, rest) => fractionPart negative whole rest

/-- Whether there are fewer than four bytes left. -/
def lacksFour (cs : List Char) : Bool :=
  (String.ofList (cs.take 4)).utf8ByteSize < 4

/-- A unit of 16 bits, written by four digits. -/
def unit16 (cs : List Char) : Except Fault (Nat × List Char) :=
  if lacksFour cs then .error .ended
  else
    match Text.readHex (cs.take 4), (cs.take 4).length with
    | some n, 4 => .ok (n, cs.drop 4)
    | _, _ => .error .malformed

/-- A text or key which was read: its characters, or that one of them is half a character. -/
structure Quoted where
  text : Option String
  rest : List Char

/-- Where a text breaks off.  If half a character was met before, that is the fault for anyone who
wants to read the text. -/
def quotedBreak (halved : Bool) (f : Fault) : Break :=
  if halved then ⟨.malformed, .malformed, f⟩ else .always f

/-- The character of a letter behind a backslash. -/
def escapeLetter? : Char → Option Char
  | '"' => some '"'
  | '\\' => some '\\'
  | '/' => some '/'
  | 'b' => some '\x08'
  | 'f' => some '\x0c'
  | 'n' => some '\n'
  | 'r' => some '\r'
  | 't' => some '\t'
  | _ => none

/-- The inside of a text, up to its closing quote.  Every step consumes something of the text, of
which there is less than fuel. -/
def quotedTail : Nat → Bool → List Char → List Char → Except Break Quoted
  | 0, halved, _, _ => .error (quotedBreak halved .ended)
  | fuel + 1, halved, acc, cs =>
    match cs with
    | [] => .error (quotedBreak halved .ended)
    | '"' :: rest =>
      .ok ⟨if halved then none else some (String.ofList acc.reverse), rest⟩
    | '\\' :: [] => .error (quotedBreak halved .ended)
    | '\\' :: 'u' :: rest =>
      match unit16 rest with
      | .error f => .error (quotedBreak halved f)
      | .ok (n, rest) =>
        if 0xDC00 ≤ n ∧ n ≤ 0xDFFF then quotedTail fuel true acc rest
        else if 0xD800 ≤ n ∧ n ≤ 0xDBFF then
          match rest with
          | [] => .error (.always .ended)
          | '\\' :: [] => .error (.always .ended)
          | '\\' :: 'u' :: second =>
            match unit16 second with
            | .error f => .error (quotedBreak halved f)
            | .ok (m, second) =>
              if 0xDC00 ≤ m ∧ m ≤ 0xDFFF then
                let c := Char.ofNat (0x10000 + (n - 0xD800) * 0x400 + (m - 0xDC00))
                quotedTail fuel halved (c :: acc) second
              else quotedTail fuel true acc second
          | rest => quotedTail fuel true acc rest
        else quotedTail fuel halved (Char.ofNat n :: acc) rest
    | '\\' :: c :: rest =>
      match escapeLetter? c with
      | some e => quotedTail fuel halved (e :: acc) rest
      | none => .error (quotedBreak halved .malformed)
    | c :: rest =>
      if c.toNat < 0x20 then .error (quotedBreak halved .malformed)
      else quotedTail fuel halved (c :: acc) rest

/-- A text, from behind its opening quote. -/
def quoted (fuel : Nat) (cs : List Char) : Except Break Quoted :=
  quotedTail fuel false [] cs

/-- The kind of fault which something else than a quote is in the place of a key. -/
def misplacedKey (cs : List Char) : Key :=
  match cs with
  | [] => .misplaced .ended .ended
  | c :: rest =>
    let asValue : Document :=
      if c = 'n' then (literal .null ['u', 'l', 'l'] rest).1
      else if c = 't' then (literal .null ['r', 'u', 'e'] rest).1
      else if c = 'f' then (literal .null ['a', 'l', 's', 'e'] rest).1
      else if c = '-' then (number true rest).1
      else if c.isDigit then (number false cs).1
      else if c = '[' || c = '\x7b' then .null
      else .broken (.always .malformed)
    .misplaced .malformed asValue.mismatch

mutual

/-- A value.  The fuel bounds how often values and items may be asked for.  Twice the length of the
text is enough, because every two steps consume something of it. -/
def value : Nat → List Char → Parsed
  | 0, _ => breakOff .ended
  | fuel + 1, cs =>
    match skipBlank cs with
    | [] => breakOff .ended
    | '"' :: rest =>
      match quoted fuel rest with
      | .error b => (.broken b, none)
      | .ok ⟨some s, rest⟩ => (.string s, some rest)
      | .ok ⟨none, rest⟩ => (.unreadable, some rest)
    | '[' :: rest =>
      match skipBlank rest with
      | ']' :: rest => (.list [] .closed, some rest)
      | [] => (.list [] (.broken .ended), none)
      | rest => items fuel [] rest
    | '\x7b' :: rest =>
      match skipBlank rest with
      | '\x7d' :: rest => (.table [] .closed, some rest)
      | [] => (.table [] (.broken .ended), none)
      | rest => members fuel [] rest
    | 'n' :: rest => literal .null ['u', 'l', 'l'] rest
    | 't' :: rest => literal (.bool true) ['r', 'u', 'e'] rest
    | 'f' :: rest => literal (.bool false) ['a', 'l', 's', 'e'] rest
    | '-' :: rest => number true rest
    | c :: rest => if c.isDigit then number false (c :: rest) else breakOff .malformed

/-- The items of a list, from the next one on, given those before it in reverse. -/
def items : Nat → List Document → List Char → Parsed
  | 0, acc, _ => (.list acc.reverse (.broken .ended), none)
  | fuel + 1, acc, cs =>
    match value fuel cs with
    | (d, none) => (.list (d :: acc).reverse .closed, none)
    | (d, some rest) =>
      match skipBlank rest with
      | [] => (.list (d :: acc).reverse (.broken .ended), none)
      | ',' :: rest => items fuel (d :: acc) rest
      | ']' :: rest => (.list (d :: acc).reverse .closed, some rest)
      | _ => (.list (d :: acc).reverse (.broken .malformed), none)

/-- The members of a table, from the next one on, given those before it in reverse. -/
def members : Nat → List (Key × Document) → List Char → Parsed
  | 0, acc, _ => (.table acc.reverse (.broken .ended), none)
  | fuel + 1, acc, cs =>
    match skipBlank cs with
    | '"' :: rest =>
      match quoted fuel rest with
      | .error b =>
        let key : Key := .misplaced b.wanted b.wanted
        (.table ((key, .null) :: acc).reverse .closed, none)
      | .ok q =>
        let key : Key := q.text.elim .unreadable .text
        match skipBlank q.rest with
        | ':' :: rest =>
          match value fuel rest with
          | (d, none) => (.table ((key, d) :: acc).reverse .closed, none)
          | (d, some rest) =>
            let acc := (key, d) :: acc
            match skipBlank rest with
            | [] => (.table acc.reverse (.broken .ended), none)
            | ',' :: rest => members fuel acc rest
            | '\x7d' :: rest => (.table acc.reverse .closed, some rest)
            | _ => (.table acc.reverse (.broken .malformed), none)
        | [] => (.table ((key, .broken (.always .ended)) :: acc).reverse .closed, none)
        | _ => (.table ((key, .broken (.always .malformed)) :: acc).reverse .closed, none)
    | rest => (.table ((misplacedKey rest, .null) :: acc).reverse .closed, none)

end

/-- Read a text as a document and the document as a value.  Nothing but white space may follow. -/
def read {α : Type} (reader : Document → Except Fault α) (text : String) : Except Fault α := do
  let cs := text.toList
  let (d, rest) := value (2 * cs.length + 2) cs
  let a ← reader d
  unless (rest.elim [] skipBlank).isEmpty do
    .error .malformed
  return a

/-- Lists have no surplus items, and `null` stands behind a word. -/
def dialect : Dialect where
  surplus := false
  isUnit
    | .null => true
    | _ => false

/-- A character inside of quotes. -/
def quotedChar (c : Char) : String :=
  match c with
  | '"' => "\\\""
  | '\\' => "\\\\"
  | '\x08' => "\\b"
  | '\x0c' => "\\f"
  | '\n' => "\\n"
  | '\r' => "\\r"
  | '\t' => "\\t"
  | _ => if c.toNat < 0x20 then "\\u" ++ Text.hexPadded 4 c.toNat else String.ofList [c]

/-- A text in quotes. -/
def quotedText (s : String) : String :=
  "\"" ++ String.join (s.toList.map quotedChar) ++ "\""

/-- A key as it is written. -/
def keyText : Key → String
  | .text s => quotedText s
  | _ => "\"\""

mutual

/-- A document as it is written.  What has no text of its own is written as `null`. -/
def write : Document → String
  | .bool b => toString b
  | .integer n => toString n
  | .string s => quotedText s
  | .list items _ => "[" ++ ",".intercalate (writeItems items) ++ "]"
  | .table members _ => "\x7b" ++ ",".intercalate (writeMembers members) ++ "\x7d"
  | _ => "null"

/-- The items of a list as they are written. -/
def writeItems : List Document → List String
  | [] => []
  | d :: ds => write d :: writeItems ds

/-- The members of a table as they are written. -/
def writeMembers : List (Key × Document) → List String
  | [] => []
  | (key, d) :: ds => (keyText key ++ ":" ++ write d) :: writeMembers ds

end

end WasmCall.Json
