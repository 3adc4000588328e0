/-! Records of what happened during a run, each with a level. Only those at or above the level in
force are kept. -/
namespace CloneScan

inductive Level where
  | debug
  | info
  | warning
  | error
  deriving DecidableEq, Repr

namespace Level

def name : Level → String
  | debug => "DEBUG"
  | info => "INFO"
  | warning => "WARNING"
  | error => "ERROR"

def rank : Level → Nat
  | debug => 10
  | info => 20
  | warning => 30
  | error => 40

end Level

inductive Part where
  | settings
  | index
  | grouping
  | analysis
  | utilities
  | command
  deriving DecidableEq, Repr

def Part.name : Part → String
  | settings => "code_dupe_finder.config"
  | index => "code_dupe_finder.indexer"
  | grouping => "code_dupe_finder.grouper"
  | analysis => "code_dupe_finder.pipeline"
  | utilities => "code_dupe_finder.suggester"
  | command => "code_dupe_finder.cli"

structure LogRecord where
  level : Level
  part : Part
  message : String
  deriving DecidableEq, Repr

def LogRecord.text (r : LogRecord) : String :=
  r.level.name ++ " " ++ r.part.name ++ ": " ++ r.message

def LogRecord.isKept (inForce : Level) (r : LogRecord) : Bool := inForce.rank ≤ r.level.rank

end CloneScan
