/-!
# Refusals of a storage

Why a storage does not carry an operation out, with the wording that operating systems give it.
-/

namespace ApiShapes

/-- Why the storage refused an operation. -/
inductive StorageFault where
  | notFound
  | alreadyExists
  | notADirectory
  | isADirectory
  | invalidArgument
  | nameTooLong
  | notEmpty
  | busy
  | nulInName
  | invalidText
  | other (text : String)
  deriving Repr, DecidableEq

/-- The wording of a refusal. -/
def StorageFault.message : StorageFault → String
  | notFound => "No such file or directory (os error 2)"
  | busy => "Device or resource busy (os error 16)"
  | alreadyExists => "File exists (os error 17)"
  | notADirectory => "Not a directory (os error 20)"
  | isADirectory => "Is a directory (os error 21)"
  | invalidArgument => "Invalid argument (os error 22)"
  | nameTooLong => "File name too long (os error 36)"
  | notEmpty => "Directory not empty (os error 39)"
  | nulInName => "file name contained an unexpected NUL byte"
  | invalidText => "stream did not contain valid UTF-8"
  | other text => text

end ApiShapes
