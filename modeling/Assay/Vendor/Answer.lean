import Assay.Json.Value
import Assay.Review.Reply
import Assay.Vendor.Basic

/-!
# Prompts and answers of vendors

* `Vendor.request`: what is sent for a prompt;
* `Vendor.Answer`, `Vendor.reply`: what a vendor sends back, and what that says.
-/

namespace Assay.Vendor

/-- The most tokens that an answer may take, where the vendor wants a limit. -/
def maxTokens : Nat := 4096

/-- What is sent for a prompt. -/
def request (v : Vendor) (model prompt : String) : Json :=
  let messages : Json := .arr [.obj [("role", .str "user"), ("content", .str prompt)]]
  match v with
  | gemini => .obj [("model", .str model), ("contents", .str prompt)]
  | openai => .obj [("model", .str model), ("messages", messages)]
  | anthropic =>
    .obj [("model", .str model), ("max_tokens", .int maxTokens), ("messages", messages)]

/-- A block of an answer; one without a kind is text. -/
structure Block where
  kind : Option String
  text : String
  deriving DecidableEq, Repr

/-- What a vendor sends back. -/
inductive Answer where
  | blocks (bs : List Block)
  /-- Several texts to choose from. -/
  | choices (texts : List (Option String))
  | single (text : Option String)
  /-- The vendor reports an error. -/
  | refusal (message : String)
  deriving DecidableEq, Repr

/-- A text as a reply; an empty one is a failure of the service. -/
def replyOfText (v : Vendor) (text : Option String) : Reply :=
  match text.filter fun t => !t.isEmpty with
  | some t => .text t
  | none => .serviceError (v.brand ++ " returned an empty response")

/-- What an answer says: the text of its blocks, the first of its choices, or its only text. -/
def reply (v : Vendor) : Answer → Reply
  | .blocks bs =>
    let texts := bs.filter fun b => b.kind.getD "text" == "text"
    v.replyOfText (some (String.join (texts.map (·.text))))
  | .choices [] => .serviceError (v.brand ++ " returned no choices")
  | .choices (t :: _) => v.replyOfText t
  | .single t => v.replyOfText t
  | .refusal message => .serviceError (v.brand ++ " API error: " ++ message)

end Assay.Vendor
