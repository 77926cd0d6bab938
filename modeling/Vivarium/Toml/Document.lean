import Vivarium.Toml.Number

/-! Keys, values and statements of a TOML document, and the table that its statements build. -/
namespace Vivarium.Toml

/-! ### Keys -/

def isBareKey (c : Char) : Bool := c.isAlphanum || c = '-' || c = '_'

def simpleKey : Reader String
  | '"' :: s => lineString ('"' :: s)
  | '\x27' :: s => lineString ('\x27' :: s)
  | s =>
    match s.takeWhile isBareKey with
    | [] => none
    | cs => some (String.ofList cs, s.dropWhile isBareKey)

/-- Simple keys with dots between them, blanks around each. -/
def keyNames : (fuel : Nat) → Reader (List String)
  | 0, _ => none
  | fuel + 1, s => do
    let (key, s) ← simpleKey (skipSpace s)
    match skipSpace s with
    | '.' :: s => do
      let (keys, s) ← keyNames fuel s
      some (key :: keys, s)
    | s => some ([key], s)

/-- Keys have fewer parts, and arrays and braces are nested less deeply, than this. -/
def nestingLimit : Nat := 80

structure Key where
  path : List String
  name : String

def key : Reader Key := fun s => do
  let (names, s) ← keyNames (s.length + 1) s
  let name ← names.getLast?
  if names.length < nestingLimit then some (⟨names.dropLast, name⟩, s) else none

/-! ### Values -/

/-- The rest of an array; a comma may follow its last item. -/
def arrayItems (item : Reader Value) : (fuel : Nat) → Reader (List Value)
  | 0, _ => none
  | fuel + 1, s => do
    match ← skipFill? false s with
    | ']' :: s => some ([], s)
    | s => do
      let (value, s) ← item s
      match ← skipFill? false s with
      | ',' :: s => do
        let (values, s) ← arrayItems item fuel s
        some (value :: values, s)
      | ']' :: s => some ([value], s)
      | _ => none

def pair (item : Reader Value) : Reader (Key × Value) := fun s => do
  let (k, s) ← key s
  let (_, s) ← expect '=' s
  let (value, s) ← item (skipSpace s)
  some ((k, value), s)

/-- The rest of a table between braces, from its first pair on. -/
def bracePairs (item : Reader Value) : (fuel : Nat) → Reader (List (Key × Value))
  | 0, _ => none
  | fuel + 1, s => do
    let (first, s) ← pair item s
    match skipSpace s with
    | ',' :: s => do
      let (rest, s) ← bracePairs item fuel s
      some (first :: rest, s)
    | '\x7d' :: s => some ([first], s)
    | _ => none

def ofPairs (pairs : List (Key × Value)) : Option Entries :=
  pairs.foldlM (fun t (k, value) => Entries.assign .bracesDotted k.name value k.path t) []

def braces (item : Reader Value) : Reader Value := fun s =>
  match skipSpace s with
  | '\x7d' :: s => some (.table .braces [], s)
  | _ => do
    let (pairs, s) ← bracePairs item (s.length + 1) s
    let entries ← ofPairs pairs
    some (.table .braces entries, s)

def number : Reader Value := fun s => (moment s).or ((float s).or (integer s))

def scalar : Reader Value
  | 't' :: 'r' :: 'u' :: 'e' :: s => some (.boolean true, s)
  | 'f' :: 'a' :: 'l' :: 's' :: 'e' :: s => some (.boolean false, s)
  | s => ((string s).map fun (text, s) => (.string text, s)).or (number s)

/-- A value in which at most `depth` arrays and braces are nested. -/
def value : (depth : Nat) → Reader Value
  | 0, s => scalar s
  | depth + 1, s =>
    match s with
    | '[' :: s =>
      (arrayItems (value depth) (s.length + 1) s).map fun (items, s) => (.array items, s)
    | '\x7b' :: s => braces (value depth) s
    | s => scalar s

/-! ### Statements -/

inductive Statement where
  | assign (key : Key) (value : Value)
  | openTable (key : Key)
  | openNext (key : Key)

def header : Reader Statement
  | '[' :: s => do
    let (k, s) ← key s
    let (_, s) ← expect ']' s
    let (_, s) ← expect ']' s
    some (.openNext k, s)
  | s => do
    let (k, s) ← key s
    let (_, s) ← expect ']' s
    some (.openTable k, s)

def statement : Reader Statement
  | '[' :: s => header s
  | s => do
    let ((k, v), s) ← pair (value (nestingLimit - 1)) s
    some (.assign k v, s)

/-- Statements, each on a line of its own, up to the end of the text. -/
def statements : (fuel : Nat) → List Char → Option (List Statement)
  | 0, _ => none
  | fuel + 1, s =>
    match skipSpace s with
    | [] => some []
    | s =>
      match lineEnd? s with
      | some rest => statements fuel rest
      | none => do
        let (first, s) ← statement s
        let rest ← lineEnd? s
        let later ← statements fuel rest
        some (first :: later)

/-! ### Documents -/

/-- A document under construction, and the path of the table that pairs go to. -/
structure Draft where
  root : Entries
  current : List String

def Draft.add (d : Draft) : Statement → Option Draft
  | .assign k v => do
    let root ← d.root.within (Entries.assign .dotted k.name v k.path) d.current
    some { d with root }
  | .openTable k => do
    let root ← d.root.within (Entries.openTable k.name) k.path
    some ⟨root, k.path ++ [k.name]⟩
  | .openNext k => do
    let root ← d.root.within (Entries.openNext k.name) k.path
    some ⟨root, k.path ++ [k.name]⟩

def skipByteOrderMark : List Char → List Char
  | '\ufeff' :: s => s
  | s => s

def read? (text : String) : Option Entries := do
  let s := skipByteOrderMark text.toList
  let parts ← statements (s.length + 1) s
  let draft ← parts.foldlM Draft.add ⟨[], []⟩
  some draft.root

end Vivarium.Toml
