import PgSession.Log
import PgSession.Message.Fields

/-! Notices and errors of the server. Both carry the same fields and read almost the same; an error
ends whatever was in flight. -/

namespace PgSession

structure Notice where
  fields : Fields
deriving DecidableEq

namespace Notice

def field? (notice : Notice) (code : Char) : Option String := notice.fields.find? code.toUInt8

def severity? (notice : Notice) : Option String := notice.field? 'S'
def plainSeverity? (notice : Notice) : Option String := notice.field? 'V'
def code? (notice : Notice) : Option String := notice.field? 'C'
def message? (notice : Notice) : Option String := notice.field? 'M'
def detail? (notice : Notice) : Option String := notice.field? 'D'
def hint? (notice : Notice) : Option String := notice.field? 'H'
def position? (notice : Notice) : Option String := notice.field? 'P'
def where? (notice : Notice) : Option String := notice.field? 'W'

private def part (before : String) (text? : Option String) (after : String) : String :=
  match text? with
  | some text => before ++ text ++ after
  | none => ""

def display (notice : Notice) : String :=
  notice.severity?.getD "NOTICE" ++ ": " ++ notice.message?.getD "" ++
    part " (" notice.code? ")" ++ part "\nDETAIL: " notice.detail? "" ++
    part "\nHINT: " notice.hint? ""

/-- The severity that is never translated decides, if the server sent it. -/
def level (notice : Notice) : Log.Level :=
  let severity := (notice.plainSeverity? <|> notice.severity?).getD ""
  if severity = "ERROR" ∨ severity = "FATAL" ∨ severity = "PANIC" then .error
  else if severity = "WARNING" then .warn
  else if "DEBUG".toList.isPrefixOf severity.toList then .debug
  else .info

/-- The record that logs a notice on behalf of a target. -/
def record (notice : Notice) (target : String) : Log.Record :=
  ⟨notice.level, s!"{target} {notice.display}"⟩

end Notice

structure ErrorReport where
  notice : Notice
deriving DecidableEq

namespace ErrorReport

/-- A report without a severity shows nothing but its message. -/
def display (report : ErrorReport) : String :=
  match report.notice.severity? with
  | some _ => report.notice.display
  | none => "ERROR: " ++ report.notice.message?.getD ""

end ErrorReport

end PgSession
