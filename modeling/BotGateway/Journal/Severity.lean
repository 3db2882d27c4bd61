import BotGateway.Text.Case
import BotGateway.Number.Numeral

/-! Severities as numbers and by name. -/
namespace BotGateway.Severity

def names : List (String × Int) := [
  ("CRITICAL",50),("ERROR",40),("WARNING",30),("INFO",20),("DEBUG",10),("NOTSET",0)]

def others : List (String × Int) := [("FATAL",50),("WARN",30)]

def standard : Int := 20

def name (severity : Int) : Text :=
  match names.find? fun (_,n) => n == severity with
  | some (name,_) => name
  | none => "Level " ++ Numeral.ofInt severity

def ofName? (name : Text) : Option Int :=
  ((names ++ others).find? fun (known,_) => (known : Text) == name).map (·.2)

def ofSetting (setting : Text) : Int :=
  (ofName? (Case.upper (Text.trim Class.isBlank setting))).getD standard

end BotGateway.Severity
