/-!
# Requests for files

A file is replaced as a whole: a request that is answered by a failure has left the old content, and
one that is answered by success has put the new one in its place.
-/
namespace HealthAgent

/-- Files are compared by the built-in comparison of their bytes. -/
instance (priority := high) instDecidableEqBytes : DecidableEq ByteArray :=
  ByteArray.instDecidableEq

inductive ReadAnswer where
  /-- There is no such file. -/
  | absent
  /-- The file cannot be read. -/
  | failed
  | content (bytes : ByteArray)
  deriving DecidableEq

inductive WriteAnswer where
  | written
  /-- The folder of the file cannot take a new file. -/
  | noFolder
  /-- The file cannot be replaced. -/
  | refused
  deriving DecidableEq, Repr

inductive FileRequest where
  /-- Create a folder, with the folders above it, unless it is there; tells whether it is. -/
  | makeFolder (path : String)
  | load (path : String)
  | replace (path : String) (bytes : ByteArray)

@[reducible] def FileRequest.Answer : FileRequest → Type
  | makeFolder _ => Bool
  | load _ => ReadAnswer
  | replace _ _ => WriteAnswer

end HealthAgent
