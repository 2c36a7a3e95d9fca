/-!
# Grouped digits

Digits which may have single underscores in between, as in `1_000`.
-/

namespace WasmCall.Text

/-- Digits with underscores in between, given those before in reverse, and the rest. -/
def groupedTail (isDigit : Char → Bool) (acc : List Char) :
    List Char → Option (List Char × List Char)
  | '_' :: c :: cs => if isDigit c then groupedTail isDigit (c :: acc) cs else none
  | ['_'] => none
  | c :: cs =>
    if isDigit c then groupedTail isDigit (c :: acc) cs else some (acc.reverse, c :: cs)
  | [] => some (acc.reverse, [])

/-- One or more digits with underscores in between, and the rest. -/
def grouped (isDigit : Char → Bool) : List Char → Option (List Char × List Char)
  | [] => none
  | c :: cs => if isDigit c then groupedTail isDigit [c] cs else none

end WasmCall.Text
