import BuildHook.Config.Basic
import BuildHook.Decimal.Shortest
import BuildHook.Shape.FromTree
import BuildHook.Toml.Parser

/-!
# Configurations in TOML
-/

namespace BuildHook.Config

/-- Why a text is no configuration: it is no TOML document, or its content does not fit. -/
inductive Fault where
  | malformed
  | mismatch (cause : Mismatch)

/-- The message of a fault. -/
def Fault.message : Fault → String
  | .malformed => "the document is not well formed"
  | .mismatch cause => cause.message

/-- A floating-point number in messages: without an exponent, whatever its size. -/
def shownFloat (x : Float) : String :=
  if x.isNaN then "NaN"
  else if x.isInf then if 0.0 < x then "inf" else "-inf"
  else Decimal.expanded.show x

/-- Reads a configuration from a tree of values. -/
def ofTree (tree : Json) : Except Mismatch Config :=
  (shape.ofTree shownFloat tree).map ofDatum

/-- Reads a configuration from a TOML document. -/
def ofToml (text : String) : Except Fault Config :=
  match Toml.parse? text with
  | none => .error .malformed
  | some tree => (ofTree tree).mapError .mismatch

end BuildHook.Config
