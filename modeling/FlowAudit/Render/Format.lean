import FlowAudit.Json.Codec
import FlowAudit.Render.Page

/-!
# FlowAudit.Render.Format

The formats that reports are written in: text for a terminal, or JSON.
-/

namespace FlowAudit.Render

open FlowAudit.Json

/-- A format of reports. -/
inductive Format where
  | text
  | json
  deriving Repr, DecidableEq

namespace Format

def name : Format → String
  | text => "text"
  | json => "json"

/-- The format with the given name, in capital or small letters. -/
def ofName? (name : String) : Option Format :=
  match name.toLower with
  | "text" | "txt" | "terminal" => some text
  | "json" => some json
  | _ => none

/-- What is said about a name that stands for no format. -/
def unknown (name : String) : String :=
  "Unknown format '" ++ name ++ "'. Valid formats: text, json"

end Format

variable {α : Type} [ToPage α]

/-- A report as text, with or without the styles of its pieces. -/
def renderText (styled : Bool) (report : α) : String :=
  if styled then Page.colored (page report) else Page.plain (page report)

variable [ToValue α]

/-- A report in a format. -/
def render (format : Format) (styled : Bool) (report : α) : String :=
  match format with
  | .text => renderText styled report
  | .json => (toValue report).pretty

/-- A report as one of a stream; JSON takes one line. -/
def renderLine (format : Format) (styled : Bool) (report : α) : String :=
  match format with
  | .text => renderText styled report
  | .json => (toValue report).line

end FlowAudit.Render
