/-
# `FaasOperator.Main` — the command line of the operator

All decisions are made elsewhere (`Startup.run`); here the environment and files are read and the
outcome is printed.
-/
import FaasOperator.Startup

namespace FaasOperator

/-- Why a file could not be read. -/
def FileError.ofSystem : IO.Error → FileError
  | .noFileOrDirectory _ _ _ => .notFound
  | .inappropriateType _ 21 _ => .isDirectory
  | .inappropriateType _ _ _ => .notDirectory
  | .invalidArgument _ 36 _ => .longName
  | e => .other (toString e)

def readContents : ReadFile IO := fun path => do
  try
    return .ok (← IO.FS.readFile path)
  catch e =>
    return .error (.ofSystem e)

/-- The environment variables that matter. -/
def readEnvironment : IO Environment := do
  let names := Setting.all.filterMap (·.environmentName?) ++ Startup.furtherVariables
  let values ← names.mapM fun name => do
    return (name, ← IO.getEnv name)
  return fun name => (values.lookup name).join

/-- Starts as far as the choice of the cluster, and says which one it is. -/
def start (words : List String) : IO UInt32 := do
  let home := (← IO.getEnv "HOME").getD "/root"
  match ← Startup.run readContents (← readEnvironment) home words with
  | .error e => do
      IO.eprintln e.message
      return e.exitCode.toUInt32
  | .ok s => do
      IO.println s.server
      return 0

end FaasOperator

def main (words : List String) : IO UInt32 := FaasOperator.start words
