import WasmCall.Decimal.Reading
import WasmCall.Document.Basic
import WasmCall.Power
import WasmCall.Text.Grouped
import WasmCall.Text.Hex

/-!
# Scalars of TOML

Keys, texts, numbers and dates.  Every reader takes what it reads from the front of the text and
gives back the rest, or fails.  There is only one fault, so a reader does not say why it failed.

* A text is *basic* (with escapes) or *literal*, and either of them may go over several lines.
* Underscores may stand between two digits of a number.
* Dates and times are checked but not kept, because nothing asks for one.
-/

namespace WasmCall.Toml

open Decimal Text

/-- White space within a line. -/
def isBlank (c : Char) : Bool :=
  c == ' ' || c == '\t'

/-- A text without its leading white space. -/
def skipBlank (cs : List Char) : List Char :=
  cs.dropWhile isBlank

/-- Whether a character may stand within a line: the tab is the only control which may. -/
def isInline (c : Char) : Bool :=
  c == '\t' || (0x20 ≤ c.toNat && c.toNat != 0x7F)

/-- The rest behind a line break. -/
def newline? : List Char → Option (List Char)
  | '\n' :: cs => some cs
  | '\r' :: '\n' :: cs => some cs
  | _ => none

/-! ### Texts -/

/-- A character given by so many hexadecimal digits. -/
def charByNumber (width : Nat) (cs : List Char) : Option (Char × List Char) := do
  let digits := cs.take width
  let n ← readHex digits
  if digits.length = width ∧ n.isValidChar then some (Char.ofNat n, cs.drop width) else none

/-- A character from behind its backslash. -/
def escaped : List Char → Option (Char × List Char)
  | 'b' :: cs => some ('\x08', cs)
  | 't' :: cs => some ('\t', cs)
  | 'n' :: cs => some ('\n', cs)
  | 'f' :: cs => some ('\x0c', cs)
  | 'r' :: cs => some ('\r', cs)
  | '"' :: cs => some ('"', cs)
  | '\\' :: cs => some ('\\', cs)
  | 'u' :: cs => charByNumber 4 cs
  | 'U' :: cs => charByNumber 8 cs
  | _ => none

/-- White space and line breaks. -/
def skipBreaks : List Char → List Char
  | '\r' :: '\n' :: cs => skipBreaks cs
  | c :: cs => if isBlank c || c == '\n' then skipBreaks cs else c :: cs
  | [] => []

/-- A quoted text, by its style.  Texts over several lines have three quotes on either side. -/
structure Quoting where
  quote : Char
  escapes : Bool
  multiline : Bool
  deriving DecidableEq

/-- The end of a text over several lines at a run of quotes: none if the run is too short, else
how many of the quotes belong to the text.  At most two do. -/
def closing? (run : Nat) : Option Nat :=
  if run < 3 then none else some (min 2 (run - 3))

/-- The inside of a text and its end, given the characters before in reverse.  Every step consumes
something of the text, of which there is less than fuel. -/
def quotedTail (q : Quoting) : Nat → List Char → List Char → Option (String × List Char)
  | 0, _, _ => none
  | fuel + 1, acc, cs =>
    match cs with
    | [] => none
    | c :: rest =>
      if c = q.quote then
        if q.multiline then
          match closing? (cs.takeWhile (· == c)).length with
          | none => quotedTail q fuel (c :: acc) rest
          | some n =>
            some (String.ofList (List.replicate n c ++ acc).reverse, cs.drop (n + 3))
        else some (String.ofList acc.reverse, rest)
      else if c = '\\' ∧ q.escapes = true then
        match q.multiline, newline? (skipBlank rest) with
        | true, some rest => quotedTail q fuel acc (skipBreaks rest)
        | _, _ => do
          let (c, rest) ← escaped rest
          quotedTail q fuel (c :: acc) rest
      else if isInline c then quotedTail q fuel (c :: acc) rest
      else
        match q.multiline, newline? cs with
        | true, some rest => quotedTail q fuel ('\n' :: acc) rest
        | _, _ => none

/-- A text in quotes, from its first quote on.  A line break behind three quotes is left out. -/
def quoted (fuel : Nat) (multiline : Bool) (cs : List Char) : Option (String × List Char) :=
  match cs with
  | [] => none
  | c :: rest =>
    if c = '"' ∨ c = '\'' then
      if multiline ∧ [c, c].isPrefixOf rest then
        let rest := rest.drop 2
        quotedTail ⟨c, c == '"', true⟩ fuel [] ((newline? rest).getD rest)
      else quotedTail ⟨c, c == '"', false⟩ fuel [] rest
    else none

/-! ### Keys -/

/-- Whether a character may stand in a key without quotes. -/
def isBare (c : Char) : Bool :=
  c.isAlphanum || c == '_' || c == '-'

/-- One part of a key. -/
def keyPart (fuel : Nat) (cs : List Char) : Option (String × List Char) :=
  match cs with
  | '"' :: _ | '\'' :: _ => quoted fuel false cs
  | _ =>
    let bare := cs.takeWhile isBare
    if bare.isEmpty then none else some (String.ofList bare, cs.dropWhile isBare)

/-- The number of parts which a key must stay below. -/
def maxDepth : Nat := 80

/-- A key: a bounded number of parts with points in between, and white space around each part. -/
def keyParts (fuel : Nat) : Nat → List Char → Option (List String × List Char)
  | 0, _ => none
  | bound + 1, cs => do
    let (part, rest) ← keyPart fuel (skipBlank cs)
    match skipBlank rest with
    | '.' :: rest => do
      let (parts, rest) ← keyParts fuel bound rest
      return (part :: parts, rest)
    | rest => return ([part], rest)

/-- A key, as the path to its last part and that part. -/
def key (fuel : Nat) (cs : List Char) : Option ((List String × String) × List Char) := do
  let (parts, rest) ← keyParts fuel (maxDepth - 1) cs
  let last ← parts.getLast?
  return ((parts.dropLast, last), rest)

/-! ### Numbers -/

/-- An integer of 64 bits. -/
def integerOf (n : Int) : Option Document :=
  if -(pow2 63 : Int) ≤ n ∧ n < (pow2 63 : Int) then some (.integer n) else none

/-- An integer in a base which is a power of two, from behind the letter of the base. -/
def radix (base : Nat) (cs : List Char) : Option (Document × List Char) := do
  let value (c : Char) : Option Nat := (hexDigit? c).filter (· < base)
  let (digits, rest) ← grouped (fun c => (value c).isSome) cs
  let n := digits.foldl (fun acc c => base * acc + (value c).getD 0) 0
  return (← integerOf n, rest)

/-- A sign at the front of a text, if there is one. -/
def takeSign : List Char → Option Bool × List Char
  | '+' :: cs => (some false, cs)
  | '-' :: cs => (some true, cs)
  | cs => (none, cs)

/-- The exponent of a float, if there is one. -/
def exponent? : List Char → Option (Option Int × List Char)
  | c :: cs =>
    if c = 'e' ∨ c = 'E' then do
      let (sign, cs) := takeSign cs
      let (digits, rest) ← grouped Char.isDigit cs
      let size : Int := natOfDigits digits
      return (some (if sign = some true then -size else size), rest)
    else some (none, c :: cs)
  | [] => some (none, [])

/-- A float.  It must not be too large, but it may be too small. -/
def floatOf (negative : Bool) (digits : List Char) (exponent : Int) : Option Document :=
  let f := Floating.binary64
  if toFloat f negative digits exponent = f.infinity then none else some .float

/-- What follows the whole part of a number. -/
def numberTail (negative : Bool) (whole : List Char) : List Char → Option (Document × List Char)
  | '.' :: cs => do
    let (fraction, rest) ← grouped Char.isDigit cs
    let (e, rest) ← exponent? rest
    return (← floatOf negative (whole ++ fraction) (e.getD 0 - fraction.length), rest)
  | cs => do
    match ← exponent? cs with
    | (some e, rest) => return (← floatOf negative whole e, rest)
    | (none, rest) =>
      let n : Int := natOfDigits whole
      return (← integerOf (if negative then -n else n), rest)

/-- A number.  Only the number zero begins with a zero. -/
def number (cs : List Char) : Option (Document × List Char) :=
  let (sign, body) := takeSign cs
  let negative := sign = some true
  match body with
  | 'i' :: 'n' :: 'f' :: rest => some (.float, rest)
  | 'n' :: 'a' :: 'n' :: rest => some (.float, rest)
  | '0' :: rest =>
    match sign, rest with
    | none, 'x' :: rest => radix 16 rest
    | none, 'o' :: rest => radix 8 rest
    | none, 'b' :: rest => radix 2 rest
    | _, rest => numberTail negative ['0'] rest
  | body => do
    let (whole, rest) ← grouped Char.isDigit body
    numberTail negative whole rest

/-! ### Dates and times -/

/-- A number of exactly so many digits, within bounds. -/
def fixed (width low high : Nat) (cs : List Char) : Option (Nat × List Char) :=
  let digits := cs.take width
  let n := natOfDigits digits
  if digits.length = width ∧ digits.all Char.isDigit ∧ low ≤ n ∧ n ≤ high then
    some (n, cs.drop width)
  else none

/-- The number of days of a month. -/
def daysOf (year month : Nat) : Nat :=
  match month with
  | 2 => if year % 4 = 0 ∧ (year % 100 ≠ 0 ∨ year % 400 = 0) then 29 else 28
  | 4 | 6 | 9 | 11 => 30
  | _ => 31

/-- The rest behind a given character. -/
def expect (c : Char) : List Char → Option (List Char)
  | d :: cs => if c = d then some cs else none
  | [] => none

/-- The rest behind a time of day.  A minute may have a leap second, and a second any number of
decimals. -/
def skipTime (cs : List Char) : Option (List Char) := do
  let (_, cs) ← fixed 2 0 23 cs
  let (_, cs) ← fixed 2 0 59 (← expect ':' cs)
  let (_, cs) ← fixed 2 0 60 (← expect ':' cs)
  match cs with
  | '.' :: rest =>
    let (digits, rest) := takeDigits rest
    if digits.isEmpty then none else some rest
  | cs => some cs

/-- The rest behind the distance to universal time, if it is given. -/
def skipOffset (cs : List Char) : Option (List Char) :=
  match cs with
  | 'Z' :: rest | 'z' :: rest => some rest
  | '+' :: rest | '-' :: rest => do
    let (_, rest) ← fixed 2 0 23 rest
    let (_, rest) ← fixed 2 0 59 (← expect ':' rest)
    return rest
  | _ => some cs

/-- The rest behind a date, without what may follow it. -/
def skipDay (cs : List Char) : Option (List Char) := do
  let (year, cs) ← fixed 4 0 9999 cs
  let (month, cs) ← fixed 2 1 12 (← expect '-' cs)
  let (_, cs) ← fixed 2 1 (daysOf year month) (← expect '-' cs)
  return cs

/-- The rest behind a date, with the time and the distance which may follow it. -/
def skipDate (cs : List Char) : Option (List Char) := do
  let cs ← skipDay cs
  match cs with
  | 'T' :: rest | 't' :: rest => skipOffset (← skipTime rest)
  | ' ' :: rest =>
    match rest with
    | c :: _ => if c.isDigit then skipOffset (← skipTime rest) else some cs
    | [] => some cs
  | cs => some cs

/-- Whether a text begins with so many digits and a character. -/
def beginsDigits (width : Nat) (c : Char) (cs : List Char) : Bool :=
  (takeDigits cs).1.length == width && cs[width]? == some c

/-- A number, a date or a time. -/
def numberOrDate (cs : List Char) : Option (Document × List Char) :=
  if beginsDigits 4 '-' cs then (skipDate cs).map (.date, ·)
  else if beginsDigits 2 ':' cs then (skipTime cs).map (.date, ·)
  else number cs

end WasmCall.Toml
