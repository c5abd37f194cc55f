import Switchboard.Config.Logging
import Switchboard.Text.Quoted

set_option autoImplicit false

namespace Switchboard

structure LoggingPlan where
  /-- Levels of single targets, each as `target=level`, the oldest first. -/
  directives : List String
  level : LogLevel
  spanEvents : SpanEvents
  format : LogFormat
  output : LogOutput
  withTarget : Bool
  withThreadIds : Bool
  withFile : Bool
  withLineNumber : Bool
  filePath : Option String
  rotation : LogRotation
deriving DecidableEq

namespace LoggingPlan

def default : LoggingPlan :=
  ⟨[], .info, .none, .compact, .stdout, true, false, false, false, none, .never⟩

def addDirective (plan : LoggingPlan) (directive : String) : LoggingPlan :=
  { plan with directives := plan.directives ++ [directive] }

def ofConfig (config : LoggingConfig) : LoggingPlan where
  directives := config.filters.map fun (target, level) => target ++ "=" ++ level.name
  level := config.level
  spanEvents := config.spanEvents
  format := config.format
  output := config.output
  withTarget := default.withTarget
  withThreadIds := config.threadIds
  withFile := config.fileLocation
  withLineNumber := config.fileLocation
  filePath := config.filePath
  rotation := config.rotation

/-- One change of a plan. -/
inductive Change where
  | directive (text : String)
  | level (level : LogLevel)
  | spanEvents (events : SpanEvents)
  | format (format : LogFormat)
  | output (output : LogOutput)
  | target (shown : Bool)
  | threadIds (shown : Bool)
  | file (shown : Bool)
  | lineNumber (shown : Bool)
  | filePath (path : String)
  | rotation (rotation : LogRotation)

def apply (plan : LoggingPlan) : Change → LoggingPlan
  | .directive text => plan.addDirective text
  | .level level => { plan with level := level }
  | .spanEvents events => { plan with spanEvents := events }
  | .format format => { plan with format := format }
  | .output output => { plan with output := output }
  | .target shown => { plan with withTarget := shown }
  | .threadIds shown => { plan with withThreadIds := shown }
  | .file shown => { plan with withFile := shown }
  | .lineNumber shown => { plan with withLineNumber := shown }
  | .filePath path => { plan with filePath := some path }
  | .rotation rotation => { plan with rotation := rotation }

def capitalized (name : String) : String :=
  match name.toList with
  | [] => ""
  | c :: rest => String.ofList (c.toUpper :: rest)

def flag (value : Bool) : String := if value then "true" else "false"

/-- Parts of a description with their names, between braces. -/
def described (title : String) (parts : List (String × String)) : String :=
  title ++ " \x7b " ++ ", ".intercalate (parts.map fun (name, value) => name ++ ": " ++ value) ++
    " \x7d"

def describeEvents (events : SpanEvents) : String :=
  described "SpanEvents" [("new", flag events.opened), ("enter", flag events.entered),
    ("exit", flag events.exited), ("close", flag events.closed)]

def describe (plan : LoggingPlan) : String :=
  described "LoggingBuilder" [
    ("directives", "[" ++ ", ".intercalate (plan.directives.map Text.quoted) ++ "]"),
    ("level", "Level(" ++ capitalized plan.level.name ++ ")"),
    ("span_events", describeEvents plan.spanEvents),
    ("format", capitalized plan.format.name),
    ("output", capitalized plan.output.name),
    ("with_target", flag plan.withTarget),
    ("with_thread_ids", flag plan.withThreadIds),
    ("with_file", flag plan.withFile),
    ("with_line_number", flag plan.withLineNumber),
    ("file_path", match plan.filePath with
      | none => "None"
      | some path => "Some(" ++ Text.quotedPath path ++ ")"),
    ("rotation", capitalized plan.rotation.name)]

end LoggingPlan
end Switchboard
