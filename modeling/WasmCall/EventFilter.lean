import WasmCall.Event

/-!
# Filters of log events

A filter is a list of directives, separated by commas: `level`, `target=level`, or `target` alone,
which lets everything of that target pass.  Of the directives whose target an event's target begins
with, the one with the longest target decides; a directive without a target has the empty one.
-/

namespace WasmCall

/-- How much of a target passes: the events of at least so high a rank, where zero is none. -/
structure Directive where
  target : String
  threshold : Nat
  deriving DecidableEq, Inhabited

namespace Directive

/-- The thresholds by name. -/
def levels : List (String × Nat) :=
  [("off", 0), ("error", 1), ("warn", 2), ("info", 3), ("debug", 4), ("trace", 5)]

/-- The number at most five which a text writes in decimal digits. -/
def rank? (s : String) : Option Nat :=
  let digits := if s.startsWith "+" then s.toList.tail else s.toList
  if digits.isEmpty || !digits.all Char.isDigit then none
  else
    let n := digits.foldl (fun acc c => 10 * acc + (c.toNat - '0'.toNat)) 0
    if n ≤ 5 then some n else none

/-- The threshold which a text stands for: a level in letters of either case, or its number. -/
def threshold? (s : String) : Option Nat :=
  if s.isEmpty then some 1
  else (rank? s).orElse fun _ => levels.lookup (s.map Char.toLower)

/-- The threshold behind an equals sign.  If there is none, everything passes. -/
def thresholdBehind? (s : String) : Option Nat :=
  if s.isEmpty then some 5 else threshold? s

/-- Whether a directive may begin with a character. -/
def mayBegin (c : Char) : Bool :=
  c.isAlphanum || c == '-' || c == ':' || c == '_' || 0x80 ≤ c.toNat

/-- Read a directive.  Blanks in front of it belong to its target, and there may be none if a level
follows. -/
def ofText? (s : String) : Option Directive :=
  let cs := s.toList
  let body := cs.dropWhile Char.isWhitespace
  if !body.head?.any mayBegin || body.contains '[' then none
  else
    match cs.dropWhile (· != '=') with
    | _ :: level =>
      if body.length < cs.length then none
      else do
        let threshold ← thresholdBehind? (String.ofList level)
        return ⟨String.ofList (cs.takeWhile (· != '=')), threshold⟩
    | [] =>
      match threshold? s with
      | some n => some ⟨"", n⟩
      | none => some ⟨s, 5⟩

end Directive

/-- A filter of events. -/
structure EventFilter where
  directives : List Directive
  deriving DecidableEq, Inhabited

namespace EventFilter

/-- The filter of some directives.  Without any, errors pass. -/
def ofDirectives (ds : List Directive) : EventFilter :=
  ⟨if ds.isEmpty then [⟨"", 1⟩] else ds⟩

/-- The directives in a text, before they are read. -/
def parts (s : String) : List String :=
  (s.splitOn ",").filter (!·.isEmpty)

/-- Read a filter, all directives of which have to be right. -/
def ofText? (s : String) : Option EventFilter := do
  return ofDirectives (← (parts s).mapM Directive.ofText?)

/-- Read a filter and skip what is wrong in it. -/
def ofText (s : String) : EventFilter :=
  ofDirectives ((parts s).filterMap Directive.ofText?)

/-- The directive which decides about a target, given the one which does so far.  Of two with the same
target the later one does. -/
def better (target : String) (best : Option Directive) (d : Directive) : Option Directive :=
  if target.startsWith d.target then
    match best with
    | some b => if b.target.length ≤ d.target.length then some d else best
    | none => some d
  else best

/-- Whether an event passes. -/
def passes (f : EventFilter) (e : Event) : Bool :=
  match f.directives.foldl (better e.target) none with
  | some d => e.level.rank ≤ d.threshold
  | none => false

end EventFilter

end WasmCall
