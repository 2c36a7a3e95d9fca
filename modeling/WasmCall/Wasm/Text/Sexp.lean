import WasmCall.Text.Hex

/-!
# The form of module texts

A module text consists of words and strings in parentheses.  Comments are a line behind `;;` or
anything between `(;` and `;)`, which may be nested.

* `tokens` splits a text.  A word and a string have to be kept apart, and so have two strings.
* `trees` puts what is between two parentheses together.
-/

namespace WasmCall.Wasm.Text

open WasmCall.Text

/-- The smallest parts of a text.  A string consists of bytes. -/
inductive Token where
  | opening
  | closing
  | word (s : String)
  | string (bytes : List UInt8)
  deriving DecidableEq, Inhabited

/-- Words, strings and what parentheses hold. -/
inductive Sexp where
  | word (s : String)
  | string (bytes : List UInt8)
  | list (items : List Sexp)
  deriving Inhabited

/-- Whether a character may stand in a word. -/
def isWordChar (c : Char) : Bool :=
  c.isAlphanum || "!#$%&'*+-./:<=>?@\\^_\x60|~".toList.contains c

/-- Whether a character is white space. -/
def isSpace (c : Char) : Bool :=
  c == ' ' || c == '\n' || c == '\t' || c == '\r'

/-- Whether a character changes the direction in which a text is shown.  Such characters may not
stand in comments and strings, because they make a text look like another one. -/
def changesDirection (c : Char) : Bool :=
  [0x202A, 0x202B, 0x202D, 0x202E, 0x2066, 0x2067, 0x2068, 0x2069, 0x206C].contains c.toNat

/-- The bytes of a character. -/
def bytesOf (c : Char) : List UInt8 :=
  (String.ofList [c]).toUTF8.toList

/-- The character in an escape by number, from behind its opening brace, given the digits before in
reverse. -/
def numbered (acc : List Char) : List Char → Option (Char × List Char)
  | '\x7d' :: cs => do
    let n ← readHex acc.reverse
    if n.isValidChar then some (Char.ofNat n, cs) else none
  | c :: cs => numbered (c :: acc) cs
  | [] => none

/-- The bytes of an escape, from behind its backslash. -/
def escaped : List Char → Option (List UInt8 × List Char)
  | 't' :: cs => some ([9], cs)
  | 'n' :: cs => some ([10], cs)
  | 'r' :: cs => some ([13], cs)
  | '"' :: cs => some ([34], cs)
  | '\'' :: cs => some ([39], cs)
  | '\\' :: cs => some ([92], cs)
  | 'u' :: '\x7b' :: cs => do
    let (c, cs) ← numbered [] cs
    return (bytesOf c, cs)
  | a :: b :: cs => do
    let n ← readHex [a, b]
    return ([n.toUInt8], cs)
  | _ => none

/-- The inside of a string, from behind its opening quote, given the bytes before in reverse.  Every
step consumes something of the text, of which there is less than fuel. -/
def stringTail : Nat → List UInt8 → List Char → Option (List UInt8 × List Char)
  | 0, _, _ => none
  | fuel + 1, acc, cs =>
    match cs with
    | [] => none
    | '"' :: rest => some (acc.reverse, rest)
    | '\\' :: rest => do
      let (bytes, rest) ← escaped rest
      stringTail fuel (bytes.reverse ++ acc) rest
    | c :: rest =>
      if c.toNat < 0x20 || c.toNat == 0x7F || changesDirection c then none
      else stringTail fuel ((bytesOf c).reverse ++ acc) rest

/-- The rest behind a comment, given how many comments are open. -/
def skipComment : Nat → List Char → Option (List Char)
  | depth, ';' :: ')' :: cs => if depth ≤ 1 then some cs else skipComment (depth - 1) cs
  | depth, '(' :: ';' :: cs => skipComment (depth + 1) cs
  | depth, c :: cs => if changesDirection c then none else skipComment depth cs
  | _, [] => none

/-- The rest behind a comment to the end of the line. -/
def skipLine : List Char → Option (List Char)
  | '\n' :: cs => some cs
  | c :: cs => if changesDirection c then none else skipLine cs
  | [] => some []

/-- Split a text, given the parts before in reverse.  Every step consumes something of the text, of
which there is less than fuel. -/
def tokensFrom : Nat → List Token → List Char → Option (List Token)
  | 0, _, _ => none
  | fuel + 1, acc, cs =>
    match cs with
    | [] => some acc.reverse
    | '(' :: ';' :: rest => do tokensFrom fuel acc (← skipComment 1 rest)
    | ';' :: ';' :: rest => do tokensFrom fuel acc (← skipLine rest)
    | '(' :: rest => tokensFrom fuel (.opening :: acc) rest
    | ')' :: rest => tokensFrom fuel (.closing :: acc) rest
    | '"' :: rest => do
      let (bytes, rest) ← stringTail fuel [] rest
      match rest with
      | c :: _ =>
        if isWordChar c || c == '"' then none else tokensFrom fuel (.string bytes :: acc) rest
      | [] => tokensFrom fuel (.string bytes :: acc) rest
    | c :: rest =>
      if isSpace c then tokensFrom fuel acc rest
      else if isWordChar c then
        let word := cs.takeWhile isWordChar
        match cs.dropWhile isWordChar with
        | '"' :: _ => none
        | rest => tokensFrom fuel (.word (String.ofList word) :: acc) rest
      else none

/-- Split a text. -/
def tokens (text : String) : Option (List Token) :=
  let cs := text.toList
  tokensFrom (cs.length + 1) [] cs

/-- Put together what is between parentheses, given the lists which are open, and what is in them so
far in reverse. -/
def treesFrom : List (List Sexp) → List Sexp → List Token → Option (List Sexp)
  | [], done, [] => some done.reverse
  | _ :: _, _, [] => none
  | above, done, .word s :: ts => treesFrom above (.word s :: done) ts
  | above, done, .string bytes :: ts => treesFrom above (.string bytes :: done) ts
  | above, done, .opening :: ts => treesFrom (done :: above) [] ts
  | before :: above, done, .closing :: ts =>
    treesFrom above (.list done.reverse :: before) ts
  | [], _, .closing :: _ => none

/-- Read the form of a text. -/
def trees (text : String) : Option (List Sexp) := do
  treesFrom [] [] (← tokens text)

end WasmCall.Wasm.Text
