import Banter.Errand
import Banter.Json.Standard
import Banter.Settings
import Banter.Text.Utf8

namespace Banter.Settings

def parse (library : Json.Library) (text : String) : Except JsonTrouble Settings :=
  (library.read record usual.values text).map ofValues

def print (library : Json.Library) (settings : Settings) : String :=
  library.write record settings.values

def ofJson (text : String) : Except JsonTrouble Settings :=
  parse Json.standard text

def toJson (settings : Settings) : String :=
  settings.print Json.standard

def load (path : String) : Errand (Except Fault Settings) :=
  .read path fun
    | .error trouble => .done (.error (.file trouble))
    | .ok content =>
      match Text.ofUtf8? content with
      | none => .done (.error (.file .notUtf8))
      | some text => .done ((ofJson text).mapError Fault.settings)

end Banter.Settings
