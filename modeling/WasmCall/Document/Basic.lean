/-!
# Documents

Settings are read from documents of two formats.  Both have the same tree: scalars, lists and
tables whose members keep their order.  What is particular to a format is

* which scalars it has, and
* whether a tree may be *broken*, because the text ended or went wrong in the middle of it.

A reader of text goes from left to right and stops at the first problem, while a reader of trees
may find a member unfit before it gets there.  To let the first problem decide in either case, the
tree up to a problem is kept and the problem stands in it where it was met.
-/

namespace WasmCall

/-- What is wrong with a document.

* `ended`: the text is over too early.
* `malformed`: the text is not one of the format, or goes on where nothing may follow.
* `unfit`: the text is well formed but does not say what was asked for. -/
inductive Fault where
  | ended
  | malformed
  | unfit
  deriving DecidableEq, Inhabited

/-- A place where the text breaks off.  The fault depends on what was asked for at that place:

* `wanted` if a value of some type was wanted,
* `named` if one of several words was wanted, in which case the first character decides,
* `skipped` if the value was to be skipped. -/
structure Break where
  wanted : Fault
  named : Fault
  skipped : Fault
  deriving DecidableEq, Inhabited

namespace Break

/-- A break with the same fault whatever was asked for. -/
def always (f : Fault) : Break := ⟨f, f, f⟩

end Break

/-- How a list or a table comes to its end.

* `closed`: with its bracket.
* `spread`: without one, because its members are spread over lines of their own.
* `broken`: not at all. -/
inductive Ending where
  | closed
  | spread
  | broken (fault : Fault)
  deriving DecidableEq, Inhabited

/-- The key of a member.

* `text` is a key.
* `unreadable` is a text with half a character, which may be skipped but not read.
* `misplaced` is something else in the place of a key.  It is one fault if a key was wanted, and
  another one if the place was read as a value. -/
inductive Key where
  | text (s : String)
  | unreadable
  | misplaced (asKey asValue : Fault)
  deriving DecidableEq, Inhabited

/-- A scalar, a list or a table, up to the first problem of its text.

* `float` is any number which is not an integer, and `date` any date or time; nothing asks for
  either, so no value is kept.
* `unreadable` is a scalar which may be skipped but not read: a text with half a character, or a
  number beyond all floats.
* `broken` stands where the text breaks off. -/
inductive Document where
  | null
  | bool (b : Bool)
  | integer (n : Int)
  | float
  | date
  | string (s : String)
  | unreadable
  | broken (b : Break)
  | list (items : List Document) (ending : Ending)
  | table (members : List (Key × Document)) (ending : Ending)
  deriving Inhabited

end WasmCall
