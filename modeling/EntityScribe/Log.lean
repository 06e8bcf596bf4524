/-!
# Log records

A record has a level, a source and a message. A reader of the log sets a threshold and sees the
records at or above it, in their order.
-/

namespace EntityScribe

inductive LogLevel where
  | debug
  | info
  | warning
  | error
  | critical
  deriving DecidableEq, Repr

namespace LogLevel

def all : List LogLevel := [debug, info, warning, error, critical]

def rank : LogLevel → Nat
  | debug => 10
  | info => 20
  | warning => 30
  | error => 40
  | critical => 50

/-- The name of a level in settings. -/
def name : LogLevel → String
  | debug => "debug"
  | info => "info"
  | warning => "warning"
  | error => "error"
  | critical => "critical"

/-- The name of a level in the log. -/
def label : LogLevel → String
  | debug => "DEBUG"
  | info => "INFO"
  | warning => "WARNING"
  | error => "ERROR"
  | critical => "CRITICAL"

def ofName? (name : String) : Option LogLevel :=
  all.find? (·.name = name)

@[simp]
theorem ofName?_name (level : LogLevel) : ofName? level.name = some level := by
  cases level <;> decide

end LogLevel

/-- The parts of the program that keep a log. -/
inductive LogSource where
  | template
  | directory
  | settings
  | poolGenerators
  | componentGenerators
  | generation
  | commandLine
  deriving DecidableEq, Repr

def LogSource.name : LogSource → String
  | template => "entigen.common.template"
  | directory => "entigen.common.directory"
  | settings => "entigen.config"
  | poolGenerators => "entigen.generators.gen_pools"
  | componentGenerators => "entigen.generators.gen_components"
  | generation => "entigen.code_generator"
  | commandLine => "entigen.generate_code"

structure LogRecord where
  level : LogLevel
  source : LogSource
  message : String
  deriving DecidableEq, Repr

namespace LogRecord

def line (record : LogRecord) : String :=
  record.level.label ++ " " ++ record.source.name ++ ": " ++ record.message

/-- Whether a reader with the given threshold sees the record. -/
def reaches (record : LogRecord) (threshold : LogLevel) : Bool :=
  threshold.rank ≤ record.level.rank

end LogRecord

/-- The records that a reader with the given threshold sees. -/
def visible (threshold : LogLevel) (records : List LogRecord) : List LogRecord :=
  records.filter (·.reaches threshold)

end EntityScribe
