import ModeChoice.Selection.Error

/-!
# Fallback policies

What happens when a trip ends without a mode.
-/

namespace ModeChoice

/-- What happens when a trip ends without a mode. -/
inductive Fallback where
  /-- The trip keeps its initial mode, and the tour goes on. -/
  | initialChoice
  /-- The whole tour goes back to its initial modes. -/
  | ignoreAgent
  /-- The selection fails. -/
  | exception
  deriving DecidableEq, Repr

namespace Fallback

instance : Inhabited Fallback := ⟨.exception⟩

/-- Every policy. -/
def all : List Fallback :=
  [.initialChoice, .ignoreAgent, .exception]

/-- The name of a policy in configuration files. -/
def label : Fallback → String
  | .initialChoice => "INITIAL_CHOICE"
  | .ignoreAgent => "IGNORE_AGENT"
  | .exception => "EXCEPTION"

/-- The policy with exactly this name. -/
def ofLabel? (text : String) : Option Fallback :=
  all.find? fun policy => policy.label == text

/-- The policy with exactly this name, or the error that there is none. -/
def parse (text : String) : Except ChoiceError Fallback :=
  match ofLabel? text with
  | some policy => .ok policy
  | none => .error (.config (.unknownFallback text))

end Fallback

end ModeChoice
