import WasmCall.Document.Basic

/-!
# Tables of TOML while they are being written

The members of a table need not be in one place: a header opens a table by its path, and a key
with points goes through tables which may be opened elsewhere.  What may still be added to a table
depends on where it comes from, its `Origin`.

* A table is opened by a header at most once.
* A table which a longer header implied may still be opened by a header of its own.
* A table which a key with points made can only be extended by such keys.
* A value which is written out, inline tables included, is complete.
-/

namespace WasmCall.Toml

/-- Where a table comes from. -/
inductive Origin where
  | header
  | implied
  | dotted
  deriving DecidableEq, Inhabited

/-- What stands under a key: a value, a table, or a list of tables with the last one first. -/
inductive Node where
  | value (d : Document)
  | table (origin : Origin) (members : List (String × Node))
  | tables (last : List (String × Node)) (earlier : List (List (String × Node)))
  deriving Inhabited

/-- The members of a table, in order. -/
abbrev Members : Type := List (String × Node)

namespace Members

/-- Put another node under a key which is there. -/
def replace (ms : Members) (key : String) (node : Node) : Members :=
  ms.map fun m => if m.1 == key then (key, node) else m

/-- Change the table at the end of a path, given where the table at its beginning comes from.
Tables on the way are made if they are missing.  The path of a key with points, for which `dotted`
is set, does not go through tables opened by a header; a path goes to the last of several tables,
and it does not go through values. -/
def update (dotted : Bool) (change : Origin → Members → Option Members) (origin : Origin) :
    List String → Members → Option Members
  | [], ms => change origin ms
  | key :: path, ms =>
    match ms.lookup key with
    | none => do
      let made := if dotted then .dotted else .implied
      let inner ← update dotted change made path []
      return ms ++ [(key, .table made inner)]
    | some (.value _) => none
    | some (.table inside inner) =>
      if dotted ∧ inside = .header then none
      else do
        let inner ← update dotted change inside path inner
        return ms.replace key (.table inside inner)
    | some (.tables last earlier) => do
      let last ← update dotted change .header path last
      return ms.replace key (.tables last earlier)

/-- Add a value under a key with points.  The last table on its path has to be made by such keys
too. -/
def insert (path : List String) (key : String) (d : Document) (origin : Origin) (ms : Members) :
    Option Members :=
  let put (origin : Origin) (ms : Members) : Option Members :=
    if origin = .dotted ↔ path = [] then none
    else if (ms.lookup key).isSome then none
    else some (ms ++ [(key, .value d)])
  update true put origin path ms

/-- Open a table by a header.  A table which was implied moves to the end. -/
def openTable (path : List String) (key : String) (ms : Members) : Option Members :=
  let put (_ : Origin) (ms : Members) : Option Members :=
    match ms.lookup key with
    | none => some (ms ++ [(key, .table .header [])])
    | some (.table .implied inner) =>
      some (ms.filter (·.1 != key) ++ [(key, .table .header inner)])
    | some _ => none
  update false put .header path ms

/-- Open the next one of a list of tables by a header. -/
def openItem (path : List String) (key : String) (ms : Members) : Option Members :=
  let put (_ : Origin) (ms : Members) : Option Members :=
    match ms.lookup key with
    | none => some (ms ++ [(key, .tables [] [])])
    | some (.tables last earlier) => some (ms.replace key (.tables [] (last :: earlier)))
    | some _ => none
  update false put .header path ms

end Members

mutual

/-- A node as a document, where tables end in a given way. -/
def Node.toDocument (ending : Ending) : Node → Document
  | .value d => d
  | .table _ members => .table (memberDocuments ending members) ending
  | .tables last earlier =>
    let last := .table (memberDocuments ending last) ending
    .list ((itemDocuments ending earlier).reverse ++ [last]) .closed

/-- Members as members of a document. -/
def memberDocuments (ending : Ending) : List (String × Node) → List (Key × Document)
  | [] => []
  | (key, node) :: ms => (.text key, node.toDocument ending) :: memberDocuments ending ms

/-- Tables as documents. -/
def itemDocuments (ending : Ending) : List (List (String × Node)) → List Document
  | [] => []
  | ms :: rest => .table (memberDocuments ending ms) ending :: itemDocuments ending rest

end

end WasmCall.Toml
