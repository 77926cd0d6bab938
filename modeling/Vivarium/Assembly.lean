import Vivarium.Fault
import Vivarium.Instruction
import Vivarium.Text

/-! The text form of programs, one instruction a line. `#` starts a comment, lines without code
do not count as instructions, and mnemonics are read without regard to ASCII case. -/
namespace Vivarium.Assembly

def isGap (c : Char) : Bool := c = ' ' || c = '\t'

def act? (word : List Char) : Option Act :=
  Act.all.find? fun a => a.mnemonic.toList = word.map Char.toLower

def condition? (word : List Char) : Option Condition :=
  Condition.all.find? fun c => c.mnemonic.toList = word.map Char.toLower

/-- Reads a mnemonic with nothing after it, or a mnemonic, a gap and a 64-bit operand. -/
def instruction? (code : List Char) : Option Instruction :=
  let word := code.takeWhile fun c => !isGap c
  match code.dropWhile fun c => !isGap c with
  | [] => (act? word).map .act
  | rest => do
    let condition ← condition? word
    let target ← Text.readDecimal? Text.wordBound (rest.dropWhile isGap)
    some (.jump condition target)

def readInstruction? (text : String) : Option Instruction := instruction? (Text.trim text.toList)

/-- The code of a line: what stands before the first `#`, trimmed. -/
def code (line : List Char) : List Char := Text.trim (line.takeWhile (· ≠ '#'))

def assembleLines (number : Nat) : List (List Char) → Except Fault Program
  | [] => .ok []
  | line :: rest =>
    if code line = [] then assembleLines (number + 1) rest
    else
      match instruction? (code line) with
      | none => .error (.unrecognised number (String.ofList (code line)))
      | some i => (assembleLines (number + 1) rest).map (i :: ·)

def assemble (source : String) : Except Fault Program :=
  assembleLines 1 (Text.lines source.toList)

def disassemble (program : Program) : String :=
  String.join (program.map fun i => i.text ++ "\n")

end Vivarium.Assembly
