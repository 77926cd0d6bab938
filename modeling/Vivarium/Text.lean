/-! Characters and texts: decimal numbers, blanks and trimming, and the lines of a text. -/
namespace Vivarium.Text

/-! ### Decimal numbers

Numbers are written in ASCII digits; leading zeros are allowed. -/

def isDigit (c : Char) : Bool := '0' ≤ c && c ≤ '9'

/-- Value of a digit string read on from `acc`. -/
def decimalValue (acc : Nat) (cs : List Char) : Nat :=
  cs.foldl (fun n c => 10 * n + (c.toNat - '0'.toNat)) acc

/-- Reads one or more digits and nothing else, of a value below `bound`. -/
def readDecimal? (bound : Nat) (cs : List Char) : Option Nat :=
  if cs ≠ [] ∧ cs.all isDigit ∧ decimalValue 0 cs < bound then some (decimalValue 0 cs) else none

/-- Sizes, counters and seeds are 64-bit words. -/
def wordBound : Nat := 0x10000000000000000

/-! ### Blanks

A character is blank when it has the Unicode property `White_Space`. -/

/-- First and last code point of each run of blanks. -/
def blankRuns : List (Nat × Nat) :=
  [(0x09, 0x0D), (0x20, 0x20), (0x85, 0x85), (0xA0, 0xA0), (0x1680, 0x1680), (0x2000, 0x200A),
    (0x2028, 0x2029), (0x202F, 0x202F), (0x205F, 0x205F), (0x3000, 0x3000)]

def isBlank (c : Char) : Bool :=
  blankRuns.any fun (first, last) => first ≤ c.toNat && c.toNat ≤ last

def trimStart (cs : List Char) : List Char := cs.dropWhile isBlank

def trimEnd (cs : List Char) : List Char := (cs.reverse.dropWhile isBlank).reverse

def trim (cs : List Char) : List Char := trimEnd (trimStart cs)

example : (blankRuns.map fun (first, last) => last - first + 1).sum = 25 := by decide

/-! ### Lines

A line feed ends a line and takes one carriage return before it along; a lone carriage return is an
ordinary character. The last line need not be ended. -/

def lines : List Char → List (List Char)
  | [] => []
  | '\n' :: cs => [] :: lines cs
  | '\r' :: '\n' :: cs => [] :: lines cs
  | c :: cs =>
    match lines cs with
    | [] => [[c]]
    | l :: ls => (c :: l) :: ls

example : lines "ab\r\n\nc\rd".toList = ["ab".toList, [], "c\rd".toList] := by decide

end Vivarium.Text
