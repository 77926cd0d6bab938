/-! JSON documents and their indented text: two blanks a level, one item or field a line, and empty
containers closed at once. Fields keep the order in which they are given. -/
namespace Vivarium

inductive Json where
  | null
  | bool (b : Bool)
  | nat (n : Nat)
  /-- Any number that is not written as a natural number. -/
  | number (text : String)
  | string (s : String)
  | array (items : List Json)
  | object (fields : List (String × Json))
  deriving Inhabited

namespace Json

def hexDigits (n : Nat) : List Char :=
  ['0', '0', Nat.digitChar (n / 16), Nat.digitChar (n % 16)]

/-- Quotes, backslashes and control characters below the blank are escaped, all else is kept. -/
def escapeChar (c : Char) : List Char :=
  if c = '"' then ['\\', '"']
  else if c = '\\' then ['\\', '\\']
  else if c = '\x08' then ['\\', 'b']
  else if c = '\t' then ['\\', 't']
  else if c = '\n' then ['\\', 'n']
  else if c = '\x0c' then ['\\', 'f']
  else if c = '\r' then ['\\', 'r']
  else if c.toNat < 0x20 then '\\' :: 'u' :: hexDigits c.toNat
  else [c]

def quote (s : String) : String := String.ofList ('"' :: s.toList.flatMap escapeChar ++ ['"'])

def indentation (level : Nat) : String := String.ofList (List.replicate (2 * level) ' ')

def block (level : Nat) (first last : String) : List String → String
  | [] => first ++ last
  | lines =>
    let between := ",\n" ++ indentation (level + 1)
    first ++ "\n" ++ indentation (level + 1) ++ between.intercalate lines ++ "\n" ++
      indentation level ++ last

mutual

def pretty (level : Nat) : Json → String
  | .null => "null"
  | .bool b => if b then "true" else "false"
  | .nat n => toString n
  | .number text => text
  | .string s => quote s
  | .array items => block level "[" "]" (prettyItems (level + 1) items)
  | .object fields => block level "\x7b" "\x7d" (prettyFields (level + 1) fields)

def prettyItems (level : Nat) : List Json → List String
  | [] => []
  | item :: rest => pretty level item :: prettyItems level rest

def prettyFields (level : Nat) : List (String × Json) → List String
  | [] => []
  | (key, value) :: rest =>
    (quote key ++ ": " ++ pretty level value) :: prettyFields level rest

end

def text (j : Json) : String := pretty 0 j

def nat? : Json → Option Nat
  | .nat n => some n
  | _ => none

end Json

end Vivarium
