import MarineFix.Text.Basic
/-!
What the parts of the library report about their work.
-/

namespace MarineFix

inductive LogLevel where
  | debug
  | info
  | warning
  | error
deriving DecidableEq

def LogLevel.name : LogLevel → Text
  | .debug => "DEBUG".toList
  | .info => "INFO".toList
  | .warning => "WARNING".toList
  | .error => "ERROR".toList

structure LogLine where
  level : LogLevel
  text : Text
deriving DecidableEq

end MarineFix
