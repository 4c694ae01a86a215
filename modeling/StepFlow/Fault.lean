import StepFlow.Text.Quoted

/-!
# Faults

Everything that can go wrong and leave the operation that met it. A fault is a cause with the data
of the case; `Fault.label` names its kind and `Fault.message` words it. Kinds and wordings are part
of what the program prints: a step that fails unexpectedly records both.
-/

namespace StepFlow

/-- The system's answers to an operation on a path that it refuses. -/
inductive FileCause where
  | notFound
  | permissionDenied
  | alreadyExists
  | notDirectory
  | isDirectory
  | nameTooLong
  deriving DecidableEq, Repr

namespace FileCause

def number : FileCause → Nat
  | notFound => 2
  | permissionDenied => 13
  | alreadyExists => 17
  | notDirectory => 20
  | isDirectory => 21
  | nameTooLong => 36

def description : FileCause → String
  | notFound => "No such file or directory"
  | permissionDenied => "Permission denied"
  | alreadyExists => "File exists"
  | notDirectory => "Not a directory"
  | isDirectory => "Is a directory"
  | nameTooLong => "File name too long"

def label : FileCause → String
  | notFound => "FileNotFoundError"
  | permissionDenied => "PermissionError"
  | alreadyExists => "FileExistsError"
  | notDirectory => "NotADirectoryError"
  | isDirectory => "IsADirectoryError"
  | nameTooLong => "OSError"

end FileCause

/-- Text that is no numeral, and numbers that do not fit. -/
inductive NumberFault where
  /-- An integer with more digits than may be written. -/
  | tooLongToWrite
  /-- A numeral with more digits than may be read. -/
  | tooLongToRead (digits : Nat)
  /-- Text that is no numeral in the given base. -/
  | notInteger (base : Nat) (text : String)
  /-- Text that is no decimal. -/
  | notDecimal (text : String)
  /-- An integer beyond the finite doubles. -/
  | beyondDouble
  deriving DecidableEq, Repr

/-- Most digits of an integer that are read or written in decimal. -/
def digitLimit : Nat := 4300

/-- How deep one thing may lie in another where a function calls itself to follow it: collections in
collections, or the parts of a path. It stands for what is left of the program's stack, of which a
call takes one place. -/
def nestingLimit : Nat := 985

/-- Why the system does not wait. -/
inductive WaitFault where
  /-- The clock has no time that lies so far ahead. -/
  | beyondClock
  | refused (reason : String)
  deriving DecidableEq, Repr

namespace WaitFault

def label : WaitFault → String
  | beyondClock => "OverflowError"
  | refused _ => "OSError"

def message : WaitFault → String
  | beyondClock => "timestamp out of range for platform time_t"
  | refused reason => reason

end WaitFault

namespace NumberFault

def label : NumberFault → String
  | beyondDouble => "OverflowError"
  | _ => "ValueError"

def message : NumberFault → String
  | tooLongToWrite =>
    s!"Exceeds the limit ({digitLimit} digits) for integer string conversion; " ++
      "use sys.set_int_max_str_digits() to increase the limit"
  | tooLongToRead n =>
    s!"Exceeds the limit ({digitLimit} digits) for integer string conversion: value has {n} digits; " ++
      "use sys.set_int_max_str_digits() to increase the limit"
  | notInteger base text =>
    let shown := String.ofList ((Text.Quoted.encode text.toList).take 200)
    s!"invalid literal for int() with base {base}: {shown}"
  | notDecimal text => s!"could not convert string to float: {Text.quoted text}"
  | beyondDouble => "int too large to convert to float"

end NumberFault

/-- Why an agent gives no answer. -/
inductive AgentFault where
  | invalidTemplate (errors : List String)
  | missingPlaceholders (template : String) (names : List String)
  | clientNotFound (template program : String)
  | timedOut (template timeout : String)
  | notStarted (template reason : String)
  | exited (template : String) (code : Int) (stderr : String)
  | keyRequired
  | service (reason : String)
  deriving DecidableEq, Repr

def AgentFault.message : AgentFault → String
  | invalidTemplate errors => "Invalid command template: " ++ "; ".intercalate errors
  | missingPlaceholders template names =>
    s!"Missing placeholders in '{template}' template: " ++ ", ".intercalate names
  | clientNotFound template program => s!"{template} CLI not found: {program}"
  | timedOut template timeout => s!"{template} timed out after {timeout} seconds"
  | notStarted template reason => s!"{template} failed to start: {reason}"
  | exited template code stderr => s!"{template} exited with code {code}: {stderr}"
  | keyRequired =>
    "OpenAI API key is required. Set OPENAI_API_KEY environment variable " ++
      "or configure it in ~/.ai-workflow/config.yml"
  | service reason => s!"OpenAI API error: {reason}"

/-- Why a settings file is refused. -/
inductive SettingsFault where
  | unreadable (path reason : String)
  | notMapping (path : String)
  | keysNotMapping
  /-- The list is already in quoted form. -/
  | unknownKeys (names : String)
  | badLevel (found : String)
  | directoryNotText
  | agentNotMapping
  | unknownAgent (found : String)
  | temperatureNotNumber
  | temperatureOutOfRange
  deriving DecidableEq, Repr

/-- The log levels a settings file may name, least severe first. -/
def logLevelNames : List String := ["debug", "info", "warn", "error"]

def SettingsFault.message : SettingsFault → String
  | unreadable path reason => s!"Failed to read config file {path}: {reason}"
  | notMapping path => s!"Config file {path} must contain a mapping"
  | keysNotMapping => "'api_keys' must be a mapping"
  | unknownKeys names => s!"Unknown api_keys entries: {names}"
  | badLevel found => s!"'log_level' must be one of {Text.quotedList logLevelNames}, got '{found}'"
  | directoryNotText => "'log_dir' must be a string"
  | agentNotMapping => "'default_agent' must be a mapping"
  | unknownAgent found => s!"Unknown default_agent type '{found}'"
  | temperatureNotNumber => "'default_agent.temperature' must be a number"
  | temperatureOutOfRange => "'default_agent.temperature' must be between 0 and 1"

/-- Why an item that should bind a variable is refused. -/
inductive VariableFault where
  | noSeparator (item : String)
  | noKey (item : String)
  deriving DecidableEq, Repr

def VariableFault.message : VariableFault → String
  | noSeparator item => s!"Invalid variable format: {item}. Expected KEY=VALUE"
  | noKey item => s!"Invalid variable format: {item}. KEY cannot be empty"

/-- One fault of a workflow definition, with the place where it lies; the empty path means the
definition as a whole. -/
structure DefinitionError where
  message : String
  path : String
  deriving DecidableEq, Repr

def DefinitionError.text (e : DefinitionError) : String :=
  if e.path = "" then s!"Validation error: {e.message}"
  else s!"Validation error at {e.path}: {e.message}"

/-- A fault that leaves the operation that met it. -/
inductive Fault where
  /-- The system refuses an operation on a path. -/
  | file (cause : FileCause) (path : String)
  /-- A path with a NUL character in it. -/
  | nulInPath
  /-- Bytes that are not UTF-8. -/
  | undecodable
  /-- A text that has no bytes in UTF-8, since halves of surrogate pairs stand in it. -/
  | unencodable
  | number (fault : NumberFault)
  /-- A date or time that does not exist. -/
  | calendar (reason : String)
  /-- A value of a kind that does not fit here. -/
  | wrongKind (reason : String)
  /-- A key that a mapping lacks, in quoted form. -/
  | missingKey (key : String)
  | outOfRange (reason : String)
  | wait (fault : WaitFault)
  /-- A value that holds itself, where only a finite text will do. -/
  | circular
  /-- Nesting beyond what is followed. -/
  | tooDeep
  /-- Text that is no JSON. -/
  | notJson
  /-- Text that is no YAML document. -/
  | notYaml
  /-- The outside world breaks down in a way of its own: kind and message. -/
  | foreign (label message : String)
  | agent (fault : AgentFault)
  /-- An agent type that is unknown or has no implementation. -/
  | agentUnavailable (reason : String)
  | settings (fault : SettingsFault)
  | variableItem (fault : VariableFault)
  | definition (errors : List DefinitionError)
  | unknownStepType (type name : String)
  /-- A fault that escaped a run, by its message. -/
  | execution (reason : String)
  deriving DecidableEq, Repr

namespace Fault

/-- The name of a fault's kind. -/
def label : Fault → String
  | file cause _ => cause.label
  | nulInPath | calendar _ | circular | variableItem _ => "ValueError"
  | undecodable => "UnicodeDecodeError"
  | unencodable => "UnicodeEncodeError"
  | number fault => fault.label
  | wrongKind _ => "TypeError"
  | missingKey _ => "KeyError"
  | outOfRange _ => "IndexError"
  | wait fault => fault.label
  | tooDeep => "RecursionError"
  | notJson => "JSONDecodeError"
  | notYaml => "YAMLError"
  | foreign label _ => label
  | agent _ => "AgentError"
  | agentUnavailable _ => "AgentNotImplementedError"
  | settings _ => "ConfigError"
  | definition _ => "WorkflowValidationError"
  | unknownStepType .. => "WorkflowDefinitionError"
  | execution _ => "WorkflowExecutionError"

/-- The wording of a fault. -/
def message : Fault → String
  | file cause path => s!"[Errno {cause.number}] {cause.description}: {Text.quoted path}"
  | nulInPath => "embedded null byte"
  | undecodable => "invalid UTF-8"
  | unencodable => "surrogates not allowed"
  | number fault => fault.message
  | calendar reason | wrongKind reason | outOfRange reason | agentUnavailable reason => reason
  | missingKey key => key
  | wait fault => fault.message
  | circular => "Circular reference detected"
  | tooDeep => "maximum recursion depth exceeded"
  | notJson => "invalid JSON"
  | notYaml => "invalid YAML"
  | foreign _ message => message
  | agent fault => fault.message
  | settings fault => fault.message
  | variableItem fault => fault.message
  | definition errors => "\n".intercalate (errors.map DefinitionError.text)
  | unknownStepType type name => s!"Unknown step type '{type}' for step '{name}'"
  | execution reason => s!"Workflow execution failed: {reason}"

end Fault

/-- What lies at a depth can be followed further. -/
def requireRoom (limit depth : Nat) : Except Fault Unit :=
  if depth < limit then return () else throw .tooDeep

end StepFlow
