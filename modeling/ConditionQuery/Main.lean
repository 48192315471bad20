import ConditionQuery.CommandLine.Program

/-! The program `cq`. It compiles and binds conditions on its own; commands that ask a hub need a
connection, which this program does not make. -/
namespace ConditionQuery.CommandLine

def ReadFailure.ofError : IO.Error → ReadFailure
  | .noFileOrDirectory _ _ _ => .missing
  | .permissionDenied _ _ _ => .denied
  | .inappropriateType _ 21 _ => .directory
  | .inappropriateType _ _ _ => .notDirectory
  | error => .other (toString error)

def attempt (action : IO ByteArray) : IO (Except ReadFailure ByteArray) := do
  match ← action.toBaseIO with
  | .ok bytes => return .ok bytes
  | .error error => return .error (.ofError error)

def Environment.system : Environment IO where
  fileContent path := attempt (IO.FS.readBinFile path)
  inputContent := attempt do (← IO.getStdin).readBinToEnd
  send _ := return .error "no connection to a hub"

end ConditionQuery.CommandLine

def main (arguments : List String) : IO UInt32 := do
  let outcome ← ConditionQuery.CommandLine.run .system arguments
  (← IO.getStdout).putStr outcome.out
  (← IO.getStderr).putStr outcome.err
  return outcome.code.toUInt32
