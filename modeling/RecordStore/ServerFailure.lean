import RecordStore.Error
import RecordStore.Value.Reading
/-!
# Failures of a server

What a server or the connection to it reports is sorted into three errors: a write
that meets an identity already taken, an argument that was refused, and everything else. Only
the code of a write error tells the first; the code of a failed command or of a write concern
does not.

## Main definitions

* `ServerFailure`, `ServerFailure.toError`.
-/

namespace RecordStore

/-- A report of a failure. -/
inductive ServerFailure
  /-- A write failed with a code. -/
  | writeError (code : Int32)
  /-- Writes of a list of documents failed with these codes. -/
  | insertMany (codes : List Int32)
  /-- Writes of a list of requests failed with these codes. -/
  | bulkWrite (codes : List Int32)
  /-- An argument was refused. -/
  | invalidArgument
  /-- Something else. -/
  | other
deriving DecidableEq

namespace ServerFailure

/-- The code of a write that meets an identity already taken. -/
def duplicateKeyCode : Int32 := 11000

/-- Whether a write met an identity already taken. -/
def isDuplicateKey : ServerFailure → Bool
  | writeError code => code == duplicateKeyCode
  | insertMany codes => codes.contains duplicateKeyCode
  | bulkWrite codes => codes.contains duplicateKeyCode
  | invalidArgument => false
  | other => false

/-- The error for a report with the given wording. -/
def toError (report : String) (failure : ServerFailure) : StorageError :=
  if failure.isDuplicateKey then .duplicateKey report
  else
    match failure with
    | invalidArgument => .invalidRequest (.reported report)
    | _ => .store (.reported report)

/-- The code of a write error. -/
def readCode : Reader Value Int32 :=
  Reader.struct "WriteError" (Fields.required "code" Reader.int32)

/-- The codes in the report of a failed insertion, whose list of write errors may be absent. -/
def readInsertCodes : Reader Value (List Int32) :=
  Reader.struct "InsertManyError" <|
    (fun codes => codes.getD []) <$>
      Fields.optional "writeErrors" none (Reader.nullable (Reader.list readCode))

end ServerFailure

end RecordStore
