/-
Net descriptions in files. A file that cannot be read is told apart from one
whose content does not decode. Either error names its cause: its messages are a
chain, the outermost first.
-/
import Dataflow.Spec.Net
import Dataflow.Text.Split

namespace Dataflow

open Json Text

inductive FileFault
  | missing
  | denied
  | notFolder
  | folder
  | nameTooLong
  | nameHoldsNul
  | notText
  | other (reason : String)
  deriving DecidableEq

def FileFault.message : FileFault → String
  | missing => "No such file or directory (os error 2)"
  | denied => "Permission denied (os error 13)"
  | notFolder => "Not a directory (os error 20)"
  | folder => "Is a directory (os error 21)"
  | nameTooLong => "File name too long (os error 36)"
  | nameHoldsNul => "file name contained an unexpected NUL byte"
  | notText => "stream did not contain valid UTF-8"
  | other reason => reason

abbrev Files := String → Except FileFault ByteArray

/-- Why the description of a net cannot be taken from a file. -/
inductive LoadError
  | reading (path : String) (fault : FileFault)
  | decoding (fault : ReadError)

namespace LoadError

def chain : LoadError → List String
  | reading path fault => ["reading net spec " ++ quoted path, fault.message]
  | decoding fault => ["decoding net spec", fault.message]

def category? : LoadError → Option Category
  | reading .. => none
  | decoding fault => some fault.category

end LoadError

namespace Files

/-- Follows the parts of a path. `inside` says whether they start in the folder at hand, which holds
one file at most; no other folder is known to hold anything. A path that ends in a folder names no
file, and nothing lies behind a file. -/
def follow (name : String) (content : Option ByteArray) (inside : Bool) :
    List (List Char) → Except FileFault ByteArray
  | [] => .error .folder
  | [] :: rest | ['.'] :: rest => follow name content inside rest
  | ['.', '.'] :: rest => follow name content false rest
  | part :: rest =>
    let part := String.ofList part
    if 255 < part.utf8ByteSize then .error .nameTooLong
    else
      match inside && part = name, content with
      | true, some bytes => if rest.isEmpty then .ok bytes else .error .notFolder
      | _, _ => .error .missing

/-- The folder at hand when it holds one file of a given name at most. -/
def folder (name : String) (content : Option ByteArray) : Files := fun path =>
  if path = "" then .error .missing
  else if path.contains '\x00' then .error .nameHoldsNul
  else if 4096 ≤ path.utf8ByteSize then .error .nameTooLong
  else follow name content (!path.startsWith "/") (pieces '/' path.toList)

def text (files : Files) (path : String) : Except FileFault String := do
  match String.fromUTF8? (← files path) with
  | some text => .ok text
  | none => .error .notText

end Files

def NetSpec.load (files : Files) (path : String) : Except LoadError NetSpec := do
  let text ← (files.text path).mapError (LoadError.reading path)
  (NetSpec.decode text).mapError LoadError.decoding

end Dataflow
