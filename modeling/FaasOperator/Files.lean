/-
# `FaasOperator.Files` — files and environment variables

What a program finds where it runs: files by their paths, with the system's wording of why one
cannot be read, and the values of environment variables.
-/
namespace FaasOperator

/-- The value of each environment variable that is set. -/
abbrev Environment := String → Option String

/-- Why a file cannot be read. -/
inductive FileError where
  | notFound
  | notDirectory
  | isDirectory
  | longName
  | other (description : String)
deriving DecidableEq, Repr

/-- The system's wording of each cause. -/
def FileError.message : FileError → String
  | .notFound => "No such file or directory (os error 2)"
  | .notDirectory => "Not a directory (os error 20)"
  | .isDirectory => "Is a directory (os error 21)"
  | .longName => "File name too long (os error 36)"
  | .other description => description

abbrev ReadFile (m : Type → Type) := String → m (Except FileError String)

namespace FilePath

/-- A path below a directory.  A slash at the end of the directory is enough. -/
def join (directory path : String) : String :=
  if path.toList.head? = some '/' || directory.isEmpty then path
  else if directory.toList.getLast? = some '/' then directory ++ path
  else directory ++ "/" ++ path

/-- The directory that a path is in; a bare name has none. -/
def directory (path : String) : String :=
  String.ofList (path.toList.reverse.dropWhile (· != '/')).reverse

end FilePath

end FaasOperator
