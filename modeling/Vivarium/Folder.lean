import Vivarium.Session

/-! A folder of files held in memory. Paths are resolved from the folder; nothing outside it is
known but that its parents are folders. -/
namespace Vivarium

/-- Files by their path within the folder. -/
structure Folder where
  files : List (List String × ByteArray)

namespace Folder

def names (path : String) : List String := path.splitOn "/"

/-- Longest name of a file, in bytes. -/
def nameLimit : Nat := 255

/-- Longest path, in bytes. -/
def pathLimit : Nat := 4095

/-- Whether the names, read from the folder `here`, lead to a file, and to which. -/
def resolve (f : Folder) (here : List String) : List String → Except ReadFault ByteArray
  | [] => .error .isDirectory
  | name :: rest =>
    if name = "" ∨ name = "." then resolve f here rest
    else if name = ".." then
      if here = [] then outside rest else resolve f here.dropLast rest
    else if nameLimit < name.utf8ByteSize then .error .nameTooLong
    else
      match f.files.lookup (here ++ [name]) with
      | some bytes => if rest = [] then .ok bytes else .error .notDirectory
      | none =>
        if f.files.any fun file => (here ++ [name]).isPrefixOf file.1 then
          resolve f (here ++ [name]) rest
        else .error .notFound
where
  outside : List String → Except ReadFault ByteArray
    | [] => .error .isDirectory
    | name :: rest =>
      if name = "" ∨ name = "." ∨ name = ".." then outside rest
      else if nameLimit < name.utf8ByteSize then .error .nameTooLong
      else .error .notFound

def read (f : Folder) : Files := fun path =>
  if pathLimit < path.utf8ByteSize then .error .nameTooLong
  else if path.startsWith "/" then resolve.outside (names path) else f.resolve [] (names path)

end Folder

end Vivarium
