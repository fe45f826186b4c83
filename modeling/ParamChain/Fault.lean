/-
This file holds the ways in which reading a configuration, reading sources and reporting can
fail, and the words in which each failure is told.
-/

namespace ParamChain

/-- Why a check could not be carried out. -/
inductive Fault where
  | config (text : String)
  | parser (text : String)
  | sourceModel (path reason : String)
  | io (text : String)
  | serialization (text : String)
  | fileSystem (text : String)
  | invalidPattern (pattern reason : String)
  deriving DecidableEq, Repr, Inhabited

/-- The message of a failure. -/
def Fault.message : Fault → String
  | .config text => "Configuration error: " ++ text
  | .parser text => "Parser error: " ++ text
  | .sourceModel path reason => "Source model unavailable for " ++ path ++ ": " ++ reason
  | .io text => "IO error: " ++ text
  | .serialization text => "Serialization error: " ++ text
  | .fileSystem text => "File system error: " ++ text
  | .invalidPattern pattern reason => "Invalid pattern '" ++ pattern ++ "': " ++ reason

end ParamChain
