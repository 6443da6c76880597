import ServiceHealth.Server
import ServiceHealth.Settings.Document

/-!
# The command

Looks for the configuration in the usual places and makes a server of it, as far as that is
possible without a network: it prints where the server would listen, or what is wrong with the
configuration.
-/
namespace ServiceHealth.Command

def look (path : String) : IO Settings.Place := do
  try
    return .file (← IO.FS.readBinFile path).toList
  catch
    | .inappropriateType .. => return .directory
    | _ => return .absent

def locate : IO (Except Settings.Fault Settings) := do
  let named ← (← IO.getEnv Settings.variableName).mapM look
  let usual ← (Settings.usualPaths (← IO.getEnv "HOME")).mapM look
  return Settings.locate named usual

def prepare (s : Settings) : Except Error Server :=
  match s.setup with
  | .ok setup => Server.make setup
  | .error f => .error f.toError

end ServiceHealth.Command

open ServiceHealth in
/-- Makes a server of the configuration and reports on it. -/
def main : IO UInt32 := do
  match (← Command.locate).mapError Settings.Fault.toError |>.bind Command.prepare with
  | .ok server =>
      IO.println ("ready to listen on " ++ server.setup.listen.text)
      return 0
  | .error e =>
      IO.eprintln e.message
      return 1
