/-! Blanks, line ends, comments and strings of a TOML document. A reader takes its part off the
front of the text and returns what remains. -/
namespace Vivarium.Toml

abbrev Reader (α : Type) := List Char → Option (α × List Char)

def isSpace (c : Char) : Bool := c = ' ' || c = '\t'

/-- Characters that may stand in comments and strings: all but controls, tabs excepted. -/
def isText (c : Char) : Bool := c = '\t' || 0x20 ≤ c.toNat && c.toNat ≠ 0x7F

def skipSpace (s : List Char) : List Char := s.dropWhile isSpace

def newline? : List Char → Option (List Char)
  | '\n' :: s => some s
  | '\r' :: '\n' :: s => some s
  | _ => none

def skipComment : List Char → List Char
  | '#' :: s => s.dropWhile isText
  | s => s

/-- The rest of a line: blanks, perhaps a comment, and the end of the line or of the text. -/
def lineEnd? (s : List Char) : Option (List Char) :=
  match skipComment (skipSpace s) with
  | [] => some []
  | rest => newline? rest

def skipLines : List Char → List Char
  | ' ' :: s => skipLines s
  | '\t' :: s => skipLines s
  | '\n' :: s => skipLines s
  | '\r' :: '\n' :: s => skipLines s
  | s => s

/-- Skips blanks, line ends and comments, each comment with its line end. -/
def skipFill? (inComment : Bool) : List Char → Option (List Char)
  | [] => if inComment then none else some []
  | '\n' :: s => skipFill? false s
  | '\r' :: '\n' :: s => skipFill? false s
  | c :: s =>
    if inComment then if isText c then skipFill? true s else none
    else if isSpace c then skipFill? false s
    else if c = '#' then skipFill? true s
    else some (c :: s)

/-! ### Strings -/

def hexValue? (c : Char) : Option Nat :=
  if '0' ≤ c ∧ c ≤ '9' then some (c.toNat - '0'.toNat)
  else if 'a' ≤ c ∧ c ≤ 'f' then some (c.toNat - 'a'.toNat + 10)
  else if 'A' ≤ c ∧ c ≤ 'F' then some (c.toNat - 'A'.toNat + 10)
  else none

/-- The character with the code point that the next `n` hexadecimal digits give. -/
def codePoint (n : Nat) : Reader Char := fun s => do
  let digits ← (s.take n).mapM hexValue?
  let value := digits.foldl (fun acc d => 16 * acc + d) 0
  if digits.length = n ∧ value.isValidChar then some (Char.ofNat value, s.drop n) else none

def escaped : Reader Char
  | 'b' :: s => some ('\x08', s)
  | 't' :: s => some ('\t', s)
  | 'n' :: s => some ('\n', s)
  | 'f' :: s => some ('\x0c', s)
  | 'r' :: s => some ('\r', s)
  | '"' :: s => some ('"', s)
  | '\\' :: s => some ('\\', s)
  | 'u' :: s => codePoint 4 s
  | 'U' :: s => codePoint 8 s
  | _ => none

def basicBody : (fuel : Nat) → Reader (List Char)
  | 0, _ => none
  | _, [] => none
  | _, '"' :: s => some ([], s)
  | fuel + 1, '\\' :: s => do
    let (c, s) ← escaped s
    let (cs, s) ← basicBody fuel s
    some (c :: cs, s)
  | fuel + 1, c :: s =>
    if isText c then do
      let (cs, s) ← basicBody fuel s
      some (c :: cs, s)
    else none

def literalBody : Reader (List Char)
  | [] => none
  | '\x27' :: s => some ([], s)
  | c :: s =>
    if isText c then do
      let (cs, s) ← literalBody s
      some (c :: cs, s)
    else none

/-- The closing of a multi-line string: three quotes, after at most two that belong to it. -/
def closing? (quote : Char) : Reader (List Char)
  | a :: b :: c :: s =>
    if a = quote ∧ b = quote ∧ c = quote then
      let more := (s.takeWhile (· = quote)).take 2
      some (more, s.drop more.length)
    else none
  | _ => none

/-- What follows a backslash at the end of a line: blanks and line ends up to the next text. -/
def continued? (s : List Char) : Option (List Char) := (newline? (skipSpace s)).map skipLines

/-- The rest of a multi-line string in double quotes; its line ends are read as line feeds. -/
def longBasicBody : (fuel : Nat) → Reader (List Char)
  | 0, _ => none
  | fuel + 1, s =>
    (closing? '"' s).or <|
      match s with
      | [] => none
      | '\n' :: s => do
        let (cs, s) ← longBasicBody fuel s
        some ('\n' :: cs, s)
      | '\r' :: '\n' :: s => do
        let (cs, s) ← longBasicBody fuel s
        some ('\n' :: cs, s)
      | '\\' :: s =>
        match continued? s with
        | some s => longBasicBody fuel s
        | none => do
          let (c, s) ← escaped s
          let (cs, s) ← longBasicBody fuel s
          some (c :: cs, s)
      | c :: s =>
        if isText c then do
          let (cs, s) ← longBasicBody fuel s
          some (c :: cs, s)
        else none

/-- The rest of a multi-line string in single quotes. -/
def longLiteralBody : (fuel : Nat) → Reader (List Char)
  | 0, _ => none
  | fuel + 1, s =>
    (closing? '\x27' s).or <|
      match s with
      | [] => none
      | '\n' :: s => do
        let (cs, s) ← longLiteralBody fuel s
        some ('\n' :: cs, s)
      | '\r' :: '\n' :: s => do
        let (cs, s) ← longLiteralBody fuel s
        some ('\n' :: cs, s)
      | c :: s =>
        if isText c then do
          let (cs, s) ← longLiteralBody fuel s
          some (c :: cs, s)
        else none

/-- A line end right after the opening quotes does not belong to the string. -/
def skipFirstNewline (s : List Char) : List Char := (newline? s).getD s

def lineString : Reader String
  | '"' :: s => (basicBody (s.length + 1) s).map fun (cs, s) => (String.ofList cs, s)
  | '\x27' :: s => (literalBody s).map fun (cs, s) => (String.ofList cs, s)
  | _ => none

def string : Reader String
  | '"' :: '"' :: '"' :: s =>
    (longBasicBody (s.length + 1) (skipFirstNewline s)).map fun (cs, s) => (String.ofList cs, s)
  | '\x27' :: '\x27' :: '\x27' :: s =>
    (longLiteralBody (s.length + 1) (skipFirstNewline s)).map fun (cs, s) => (String.ofList cs, s)
  | s => lineString s

end Vivarium.Toml
