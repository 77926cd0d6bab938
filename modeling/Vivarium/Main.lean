import Vivarium.Session

/-! The command. The log goes to the error stream, filtered as the environment says. -/
namespace Vivarium

def readFault : IO.Error → ReadFault
  | .noFileOrDirectory .. => .notFound
  | .inappropriateType .. => .isDirectory
  | error => .other (toString error)

def readFile (path : String) : IO (Except ReadFault ByteArray) := do
  try
    let bytes ← IO.FS.readBinFile path
    return .ok bytes
  catch error => return .error (readFault error)

/-- The one file that the arguments name, if they name one. -/
def filesFor (args : List String) : IO Files := do
  match CommandLine.read args with
  | some (.perform { scenario? := some path, listSpecies := false, .. }) =>
    let contents ← readFile path
    return fun _ => contents
  | _ => return fun _ => .error .notFound

def logFilter : IO Log.Filter := do
  let text ← IO.getEnv "RUST_LOG"
  return (text.map Log.Filter.ofText).getD .standard

end Vivarium

def main (args : List String) : IO UInt32 := do
  let files ← Vivarium.filesFor args
  let admitted ← Vivarium.logFilter
  let session := Vivarium.Session.run files args
  IO.print session.output
  for record in session.log do
    if admitted.admits record then IO.eprintln record.text
  return UInt32.ofNat session.exitCode
