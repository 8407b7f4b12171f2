import MemberAddress.Config
import MemberAddress.Yaml.Document

/-!
# Configuration files

* `DocumentReader` is whatever tells the value of a document; `Yaml.read` is the usual one;
* `Config.ofText` reads a configuration from a document, and `Config.ofYaml` with the usual reader;
* `StoredFile` is what stands under a path, `Config.ofStored` reads a configuration from it, and
  `Config.ofFile` with the usual reader.

Apart from what its document brings about, bytes that are no text are the one way in which a file
fails without a fault of the library.
-/

namespace MemberAddress

/-- What stands under a path: nothing, something that cannot be read, or bytes. -/
inductive StoredFile
  | missing
  | unreadable (error : OutsideError)
  | bytes (content : ByteArray)

/-- The error of a path under which a directory stands. -/
def StoredFile.directory (path : Text) : StoredFile :=
  .unreadable ⟨.directory, "[Errno 21] Is a directory: ".toList ++ Text.quoted path⟩

/-- A reader of documents: the value that a text denotes, or what is wrong with it. -/
abbrev DocumentReader := Text → Except Yaml.Error Value

namespace Config

/-- The fault of a document that cannot be read. -/
def documentFault : Yaml.Error → Fault
  | .malformed => .malformedYaml
  | e => .document e

/-- The configuration in a document, as a reader understands it. -/
def ofText (read : DocumentReader) (t : Text) : Except Fault Config :=
  match read t with
  | .ok v => ofDocument v
  | .error e => .error (documentFault e)

/-- The configuration in a file, whose document is left to a reader. -/
def ofStored (read : DocumentReader) (path : Text) : StoredFile → Except Fault Config
  | .missing => .error (.fileMissing path)
  | .unreadable e => .error (.fileUnreadable e)
  | .bytes content =>
    match String.fromUTF8? content with
    | some t => ofText read t.toList
    | none => .error .undecodable

/-- The configuration in a document. -/
def ofYaml (t : Text) : Except Fault Config := ofText Yaml.read t

/-- The configuration in a file. -/
def ofFile (path : Text) (file : StoredFile) : Except Fault Config := ofStored Yaml.read path file

end Config

end MemberAddress
