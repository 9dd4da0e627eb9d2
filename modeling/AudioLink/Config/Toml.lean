import AudioLink.Config.Session
import AudioLink.Toml.Document
import AudioLink.Toml.Sheet

/-
Session configurations as texts.

A text is read as a document and the document as a configuration, where either step may fail. A
configuration is written section by section; it has no text if a number in it is too large for the
format.
-/
set_option autoImplicit false

namespace AudioLink.SessionConfig

/-- The error for a text that is no configuration. -/
def notRead : Error := .toml "not a session configuration"

/-- The error for a configuration that has no text. -/
def notWritten : Error := .toml "a number is out of range"

/-- Reads a configuration. -/
def ofToml (text : String) : Except Error SessionConfig :=
  match (Toml.parse? text.toList).bind (Form.read? .toml) with
  | some c => .ok c
  | none => .error notRead

/-- Writes a configuration. -/
def toToml (c : SessionConfig) : Except Error String :=
  match Toml.write? (Form.write c) with
  | some cs => .ok (String.ofList cs)
  | none => .error notWritten

end AudioLink.SessionConfig
