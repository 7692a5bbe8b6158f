/-!
# Vendors of models

Who can be asked for a review, under which name, and for which model unless another is named.
-/

namespace Assay

/-- A vendor of models. -/
inductive Vendor where
  | gemini
  | openai
  | anthropic
  deriving DecidableEq, Repr

namespace Vendor

def name : Vendor → String
  | gemini => "gemini"
  | openai => "openai"
  | anthropic => "anthropic"

/-- The name in messages. -/
def brand : Vendor → String
  | gemini => "Gemini"
  | openai => "OpenAI"
  | anthropic => "Anthropic"

/-- The vendors in the order in which they are offered. -/
def all : List Vendor :=
  [gemini, openai, anthropic]

def ofName? (name : String) : Option Vendor :=
  all.find? fun v => v.name == name

/-- The model that is asked unless another is named. -/
def defaultModel : Vendor → String
  | gemini => "gemini-2.0-flash"
  | openai => "gpt-4o-mini"
  | anthropic => "claude-sonnet-4-5-20250929"

end Vendor

end Assay
