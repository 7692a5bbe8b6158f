import Assay.Trail
import Assay.Vendor.Basic
import Assay.Yaml.Value

/-!
# Clients of vendors

A vendor can be asked if its client is installed and one of its keys is set; otherwise an analysis
goes on without a model.

* `Environment`: what a program can see of its machine;
* `Client`, `Client.choose`: a model that can be asked, and the one for a name.
-/

namespace Assay

namespace Vendor

/-- The names of the settings that may hold the key. -/
def keyNames : Vendor → List String
  | gemini => ["GEMINI_API_KEY", "GOOGLE_API_KEY"]
  | openai => ["OPENAI_API_KEY"]
  | anthropic => ["ANTHROPIC_API_KEY"]

/-- What is said where no key is set. -/
def keyMissing : Vendor → String
  | gemini => "GEMINI_API_KEY (or GOOGLE_API_KEY) environment variable is required"
  | openai => "OPENAI_API_KEY environment variable is required"
  | anthropic => "ANTHROPIC_API_KEY environment variable is required"

/-- What is said where the client is not installed; one client always is. -/
def clientMissing? : Vendor → Option String
  | gemini => some "google-genai is not installed. Install with: pip install google-genai"
  | openai => some "openai is not installed. Install with: pip install 'codeqa[openai]'"
  | anthropic => none

end Vendor

/-- What a program can see of its machine. -/
structure Environment where
  settings : List (String × String) := []
  /-- The vendors whose clients are not installed. -/
  missing : List Vendor := []

namespace Environment

/-- The value of a setting that is there and not empty. -/
def lookup? (e : Environment) (name : String) : Option String :=
  (e.settings.lookup name).filter fun v => !v.isEmpty

/-- Why a vendor cannot be asked, if it cannot. -/
def obstacle? (e : Environment) (v : Vendor) : Option String :=
  match if e.missing.contains v then v.clientMissing? else none with
  | some m => some m
  | none => if v.keyNames.any fun k => (e.lookup? k).isSome then none else some v.keyMissing

end Environment

/-- A model that can be asked. -/
structure Client where
  vendor : Vendor
  model : Yaml

namespace Client

/-- The name that stands for no vendor. -/
def nobody : String := "none"

/-- The names of the vendors in alphabetical order. -/
def vendorNames : List String :=
  [Vendor.anthropic, Vendor.gemini, Vendor.openai].map Vendor.name

/-- The client for a name, if the vendor can be asked. -/
def choose (e : Environment) (name : String) (model : Yaml) : Trail (Option Client) :=
  if name == nobody then pure none
  else
    match Vendor.ofName? name with
    | none => .fail (.unknownProvider name vendorNames)
    | some v =>
      match e.obstacle? v with
      | some m => do
        Trail.warn s!"AI analysis disabled: {m}"
        return none
      | none =>
        pure (some ⟨v, if model.isTruthy then model else .str v.defaultModel⟩)

end Client

end Assay
