import Vivarium.Text
import Vivarium.Toml.Text
import Vivarium.Toml.Value

/-! Integers, floats, dates and times of a TOML document. Integers are signed 64-bit words; floats
are only looked at, so they keep their text, but one that no finite double is nearest to is
refused. -/
namespace Vivarium.Toml

/-- Digits of a class, single underscores between them left out. -/
def moreDigits (isDigit : Char → Bool) : Reader (List Char)
  | [] => some ([], [])
  | '_' :: c :: s =>
    if isDigit c then (moreDigits isDigit s).map fun (cs, s) => (c :: cs, s) else none
  | c :: s =>
    if isDigit c then (moreDigits isDigit s).map fun (cs, s) => (c :: cs, s)
    else if c = '_' then none
    else some ([], c :: s)

def digits (isDigit : Char → Bool) : Reader (List Char)
  | c :: s => if isDigit c then (moreDigits isDigit s).map fun (cs, s) => (c :: cs, s) else none
  | [] => none

def sign : List Char → Bool × List Char
  | '+' :: s => (false, s)
  | '-' :: s => (true, s)
  | s => (false, s)

/-- Decimal digits without a leading zero, or a single zero. -/
def decimalDigits : Reader (List Char)
  | '0' :: s => some (['0'], s)
  | s => digits Text.isDigit s

/-- An integer that fits a signed word. -/
def word? (n : Int) : Option Value :=
  if -0x8000000000000000 ≤ n ∧ n < 0x8000000000000000 then some (.integer n) else none

def basedInteger (base : Nat) : Reader Value := fun s => do
  let isDigit c := (hexValue? c).any (· < base)
  let (cs, s) ← digits isDigit s
  let n := (cs.filterMap hexValue?).foldl (fun acc d => base * acc + d) 0
  let value ← word? n
  some (value, s)

def decimalInteger : Reader Value := fun s => do
  let (negative, s) := sign s
  let (cs, s) ← decimalDigits s
  let n : Int := Text.decimalValue 0 cs
  let value ← word? (if negative then -n else n)
  some (value, s)

def integer : Reader Value
  | '0' :: 'x' :: s => basedInteger 16 s
  | '0' :: 'o' :: s => basedInteger 8 s
  | '0' :: 'b' :: s => basedInteger 2 s
  | s => decimalInteger s

/-! ### Floats -/

/-- The least number to which infinity is nearer than the largest finite double. -/
def doubleBound : Nat := 0x3FFFFFFFFFFFFF <<< 970

/-- Whether `m * 10 ^ e` reaches `doubleBound`. The bound has 309 digits. -/
def overflows (m : Nat) (e : Int) : Bool :=
  if m = 0 then false
  else
    let digitCount : Int := (Nat.toDigits 10 m).length
    if digitCount + e < 300 then false
    else if 320 < digitCount + e then true
    else if 0 ≤ e then doubleBound ≤ m * Nat.pow 10 e.toNat
    else doubleBound * Nat.pow 10 (-e).toNat ≤ m

def exponent : Reader Int
  | 'e' :: s | 'E' :: s => do
    let (negative, s) := sign s
    let (cs, s) ← digits Text.isDigit s
    let n : Int := Text.decimalValue 0 cs
    some (if negative then -n else n, s)
  | _ => none

def special : Reader Unit
  | 'i' :: 'n' :: 'f' :: s => some ((), s)
  | 'n' :: 'a' :: 'n' :: s => some ((), s)
  | _ => none

/-- What follows the integral digits of a float: a fraction, an exponent or both. -/
def floatTail : Reader (List Char × Int)
  | '.' :: s => do
    let (fraction, s) ← digits Text.isDigit s
    match s with
    | 'e' :: _ | 'E' :: _ => (exponent s).map fun (e, s) => ((fraction, e), s)
    | _ => some ((fraction, 0), s)
  | s => (exponent s).map fun (e, s) => (([], e), s)

def finiteFloat : Reader Unit := fun s => do
  let (negative, s) := sign s
  let (whole, s) ← decimalDigits s
  let ((fraction, e), s) ← floatTail s
  let m := Text.decimalValue 0 (whole ++ fraction)
  if !negative && overflows m (e - fraction.length) then none else some ((), s)

def taken (before after : List Char) : String :=
  String.ofList (before.take (before.length - after.length))

def float : Reader Value := fun s =>
  ((finiteFloat s).or (special (sign s).2)).map fun (_, rest) => (.float (taken s rest), rest)

/-! ### Dates and times -/

def fixedDigits (n low high : Nat) : Reader Nat := fun s =>
  let cs := s.take n
  let value := Text.decimalValue 0 cs
  if cs.length = n ∧ cs.all Text.isDigit ∧ low ≤ value ∧ value ≤ high then some (value, s.drop n)
  else none

def expect (c : Char) : Reader Unit
  | d :: s => if d = c then some ((), s) else none
  | [] => none

def isLeapYear (year : Nat) : Bool := year % 4 = 0 && (year % 100 ≠ 0 || year % 400 = 0)

def daysInMonth (year month : Nat) : Nat :=
  if month = 2 then if isLeapYear year then 29 else 28
  else if month ∈ [4, 6, 9, 11] then 30
  else 31

def date : Reader Unit := fun s => do
  let (year, s) ← fixedDigits 4 0 9999 s
  let (_, s) ← expect '-' s
  let (month, s) ← fixedDigits 2 1 12 s
  let (_, s) ← expect '-' s
  let (_, s) ← fixedDigits 2 1 (daysInMonth year month) s
  some ((), s)

/-- A second of 60 is a leap second. -/
def time : Reader Unit := fun s => do
  let (_, s) ← fixedDigits 2 0 23 s
  let (_, s) ← expect ':' s
  let (_, s) ← fixedDigits 2 0 59 s
  let (_, s) ← expect ':' s
  let (_, s) ← fixedDigits 2 0 60 s
  match s with
  | '.' :: c :: rest =>
    if Text.isDigit c then some ((), rest.dropWhile Text.isDigit) else some ((), s)
  | _ => some ((), s)

def zone : Reader Unit
  | 'Z' :: s => some ((), s)
  | 'z' :: s => some ((), s)
  | '+' :: s | '-' :: s => do
    let (_, s) ← fixedDigits 2 0 23 s
    let (_, s) ← expect ':' s
    let (_, s) ← fixedDigits 2 0 59 s
    some ((), s)
  | _ => none

def dayTime : Reader Unit
  | 'T' :: s | 't' :: s | ' ' :: s => do
    let (_, s) ← time s
    (zone s).or (some ((), s))
  | _ => none

def moment : Reader Value := fun s =>
  let read : Option (Unit × List Char) :=
    match date s with
    | some (_, rest) => (dayTime rest).or (some ((), rest))
    | none => time s
  read.map fun (_, rest) => (.moment (taken s rest), rest)

end Vivarium.Toml
