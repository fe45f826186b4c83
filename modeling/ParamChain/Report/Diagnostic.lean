import ParamChain.Chain.Explore
import ParamChain.Digest.Sha256
import ParamChain.Source.JsonForm

/-
This file holds the diagnostics that a check reports. A diagnostic stands at the leaf of its
chain and carries a fingerprint, which depends on the call stack and the shared arguments alone
and so stays the same when code moves.
-/

namespace ParamChain.Report

open Json

/-- A recommended parameter struct. -/
structure Diagnostic where
  position : SourcePosition
  message : String
  arguments : List String
  callStack : List String
  fingerprint : String
  deriving DecidableEq, Repr, Inhabited

/-- The text that a fingerprint is the digest of. -/
def fingerprintText (callStack arguments : List String) : String :=
  Text.join " -> " callStack ++ "\n" ++ Text.join ", " arguments

/-- The identity of a finding across runs. -/
def fingerprintOf (callStack arguments : List String) : String :=
  Digest.sha256 (fingerprintText callStack arguments)

/-- The diagnostic of a chain. -/
def Diagnostic.ofChain (c : Chain.CallChain) : Diagnostic where
  position := c.leaf.position
  message := c.message
  arguments := c.sharedArgs.expanded
  callStack := c.callStack
  fingerprint := fingerprintOf c.callStack c.sharedArgs.expanded

/-- How much a check has looked at and found. -/
structure Summary where
  units : Nat
  files : Nat
  diagnostics : Nat
  deriving DecidableEq, Repr, Inhabited

/-! ### JSON form -/

def Diagnostic.toJson (d : Diagnostic) : Json :=
  .obj [("position", d.position.toJson), ("message", .str d.message),
    ("arguments", ofTexts d.arguments), ("call_stack", ofTexts d.callStack),
    ("fingerprint", .str d.fingerprint)]

def Diagnostic.ofJson? : Json → Option Diagnostic :=
  record? 5 ["position", "message", "arguments", "call_stack", "fingerprint"] do
    return {
      position := ← field (required? SourcePosition.ofJson?)
      message := ← field (required? text?)
      arguments := ← field (required? (list? text?))
      callStack := ← field (required? (list? text?))
      fingerprint := ← field (required? text?) }

def Summary.toJson (s : Summary) : Json :=
  .obj [("units", .int s.units), ("files", .int s.files), ("diagnostics", .int s.diagnostics)]

def Summary.ofJson? : Json → Option Summary :=
  record? 3 ["units", "files", "diagnostics"] do
    return ⟨← field (required? size?), ← field (required? size?), ← field (required? size?)⟩

end ParamChain.Report
