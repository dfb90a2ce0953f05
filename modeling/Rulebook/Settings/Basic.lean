import Rulebook.Json.Basic

/-!
# Settings

What the client needs to know about the backend and about its own log. The file that holds the
settings has one section for each.
-/

namespace Rulebook

/-- How to reach the backend. -/
structure ApiSettings where
  /-- The address below which all routes lie. -/
  baseUrl : String
  /-- The secret that the backend asks for, empty where it asks for none. -/
  token : String
  /-- How many seconds to wait for an answer. -/
  timeout : Binary64
deriving DecidableEq, Repr, Inhabited

/-- What the program notes, and where. -/
structure LogSettings where
  /-- The name of the least level that is recorded. -/
  level : String
  file : String
  /-- Whether the log file is written. -/
  toFile : Bool
deriving DecidableEq, Repr, Inhabited

/-- Everything that can be set. -/
structure Settings where
  /-- How to reach the backend. -/
  api : ApiSettings
  log : LogSettings
deriving DecidableEq, Repr, Inhabited

/-- The section of the backend unless something else is set. -/
def ApiSettings.default : ApiSettings where
  baseUrl := "https://api.zigran.com/api"
  token := ""
  timeout := .ofInt 10

/-- The section of the log unless something else is set. -/
def LogSettings.default : LogSettings where
  level := "info"
  file := "~/.local/share/zigran/automations.log"
  toFile := false

/-- The settings unless something else is set. -/
def Settings.default : Settings := ⟨.default, .default⟩

end Rulebook
