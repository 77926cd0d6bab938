/-! Values of a TOML document. Tables keep the order of their keys, and remember how they came to
be, which decides what may still be added to them. -/
namespace Vivarium.Toml

inductive Origin where
  /-- Opened by a header of its own. -/
  | header
  /-- Named on the way to the table of a longer header. -/
  | path
  /-- Named on the way to a dotted key. -/
  | dotted
  /-- Written in braces. -/
  | braces
  /-- Named on the way to a dotted key between braces. -/
  | bracesDotted
  deriving DecidableEq, Repr

inductive Value where
  | string (s : String)
  | integer (n : Int)
  | float (text : String)
  | boolean (b : Bool)
  /-- A date, a time or both. -/
  | moment (text : String)
  | array (items : List Value)
  | table (origin : Origin) (entries : List (String × Value))
  /-- Tables opened by repeated headers of one name. -/
  | tables (items : List (List (String × Value)))

abbrev Entries := List (String × Value)

/-- A table that no header has opened yet may still be extended by dotted keys. -/
def Origin.isImplicit : Origin → Bool
  | .path | .dotted | .bracesDotted => true
  | .header | .braces => false

def Origin.isDotted : Origin → Bool
  | .dotted | .bracesDotted => true
  | .path | .header | .braces => false

/-- A table between braces is complete once it is read. -/
def Origin.isClosed : Origin → Bool
  | .braces | .bracesDotted => true
  | .path | .dotted | .header => false

namespace Entries

def replace (key : String) (value : Value) (t : Entries) : Entries :=
  t.map fun entry => if entry.1 = key then (key, value) else entry

def remove (key : String) (t : Entries) : Entries := t.filter fun entry => entry.1 ≠ key

def mapLast (f : Entries → Option Entries) : List Entries → Option (List Entries)
  | [] => none
  | [t] => (f t).map ([·])
  | t :: rest => (mapLast f rest).map (t :: ·)

/-- Sets the key at the end of a dotted path. Tables on the way are made, with origin `fresh`, where
there are none; those that exist must not have been opened by a header or written in braces, and the
last of them must stem from a dotted key. -/
def assign (fresh : Origin) (key : String) (value : Value) : List String → Entries → Option Entries
  | [], t => if (t.lookup key).isSome then none else some (t ++ [(key, value)])
  | name :: path, t =>
    match t.lookup name with
    | none => do
      let child ← assign fresh key value path []
      some (t ++ [(name, .table fresh child)])
    | some (.table origin child) =>
      if origin.isImplicit && (origin.isDotted || !path.isEmpty) then do
        let child ← assign fresh key value path child
        some (t.replace name (.table origin child))
      else none
    | some (.tables items) =>
      if path.isEmpty then none
      else do
        let items ← mapLast (assign fresh key value path) items
        some (t.replace name (.tables items))
    | some _ => none

/-- Changes the table that a header path leads to, the last one where there are several. -/
def within (f : Entries → Option Entries) : List String → Entries → Option Entries
  | [], t => f t
  | name :: path, t =>
    match t.lookup name with
    | none => do
      let child ← within f path []
      some (t ++ [(name, .table .path child)])
    | some (.table origin child) =>
      if origin.isClosed then none
      else do
        let child ← within f path child
        some (t.replace name (.table origin child))
    | some (.tables items) => do
      let items ← mapLast (within f path) items
      some (t.replace name (.tables items))
    | some _ => none

/-- Opens the table of a header, which at most a longer header may have named before. -/
def openTable (key : String) (t : Entries) : Option Entries :=
  match t.lookup key with
  | none => some (t ++ [(key, .table .header [])])
  | some (.table .path child) => some (t.remove key ++ [(key, .table .header child)])
  | some _ => none

def openNext (key : String) (t : Entries) : Option Entries :=
  match t.lookup key with
  | none => some (t ++ [(key, .tables [[]])])
  | some (.tables items) => some (t.replace key (.tables (items ++ [[]])))
  | some _ => none

end Entries

end Vivarium.Toml
