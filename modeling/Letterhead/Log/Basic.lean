import Letterhead.Text.Basic

/-
  Notices: messages about a run that are not part of its result, each with a level. Only notices at
  or above a threshold are shown.
-/

namespace Letterhead

/-- A message with its level; higher levels are graver. -/
structure Notice where
  level : Int
  text : String
  deriving DecidableEq, Repr

namespace Level

def trace : Int := 5
def debug : Int := 10
def info : Int := 20
def warning : Int := 30
def error : Int := 40
def critical : Int := 50

/-- The name of a level. -/
def name (level : Int) : String :=
  if level = 0 then "NOTSET"
  else if level = trace then "TRACE"
  else if level = debug then "DEBUG"
  else if level = info then "INFO"
  else if level = warning then "WARNING"
  else if level = error then "ERROR"
  else if level = critical then "CRITICAL"
  else "Level " ++ toString level

end Level

namespace Notice

def info (text : String) : Notice := ⟨Level.info, text⟩
def warning (text : String) : Notice := ⟨Level.warning, text⟩
def error (text : String) : Notice := ⟨Level.error, text⟩

end Notice
end Letterhead
