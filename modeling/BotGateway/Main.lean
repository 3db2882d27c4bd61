import BotGateway.Echo
import Std.Time.DateTime.Timestamp

/-! The command. Settings come from the environment, and the report on them goes to the standard
output. The bot is then run on a line that nothing answers, which shows what keeps it from running. -/
namespace BotGateway.Command

def readVariables : IO Variables :=
  Settings.variableNames.filterMapM fun name => do
    return (← IO.getEnv name).map fun value => ((name : Text),(value : Text))

def now : IO Value := do
  return .int (← Std.Time.Timestamp.now).toSecondsSinceUnixEpoch.val

def writeLine (stream : IO.FS.Stream) (line : Text) : IO Unit := do
  stream.write ⟨(Utf8.bytesOf (line ++ "\n")).toArray⟩
  stream.flush

def idle : Server world := ⟨fun _ => return .null,fun _ => return .null,fun _ _ => return .null⟩

def unanswered : Line := ⟨[],.failed (.raised .network "Network is unreachable"),[]⟩

def bot (settings : Settings) : Action (Station Unit) Unit :=
  Echo.run settings Client.defaultTimeout "boundary" fun _ => idle

end BotGateway.Command

open BotGateway in
def main : IO UInt32 := do
  let settings := Settings.ofVariables (← Command.readVariables)
  let start : Scene (Station Unit) := ⟨.empty,⟨[],Command.unanswered⟩,.empty 0,()⟩
  let (_,reported) := settings.report.perform start
  match settings.lines (← Command.now) reported.journal.entries with
  | .ok lines => lines.forM (Command.writeLine (← IO.getStdout))
  | .error failure => Command.writeLine (← IO.getStderr) failure.message
  match ((Command.bot settings).perform reported).1 with
  | .ok _ => return 0
  | .error failure =>
    Command.writeLine (← IO.getStderr) failure.message
    return 1
