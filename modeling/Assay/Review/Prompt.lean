import Assay.Failure
import Assay.SourceUnit

/-!
# What a model is asked to review

Files go to the model a few at a time, each cut to a limit.

* `chunks`: a list in pieces of one size, the last of which may be shorter;
* `batches`: the same for any step, as far as the step makes sense;
* `reviewPrompt`: the text sent for one batch.
-/

namespace Assay

/-- A list in pieces of `size` items, the last of which may be shorter. -/
def chunks {α : Type} (size : Nat) (xs : List α) : List (List α) :=
  if _h : size = 0 ∨ xs = [] then [] else xs.take size :: chunks size (xs.drop size)
termination_by xs.length
decreasing_by
  cases xs with
  | nil => simp_all
  | cons x xs => simp only [List.length_drop, List.length_cons]; omega

/-- The files of one call. -/
def batchSize : Int := 3

/-- Files in batches. A step of zero leads nowhere and is refused; one below zero has no batch. -/
def batches {α : Type} (size : Int) (xs : List α) : Except Failure (List (List α)) :=
  if size = 0 then .error .zeroStep
  else .ok (if size < 0 then [] else chunks size.toNat xs)

/-- How many characters of a file are sent. -/
def reviewLimit : Nat := 2000

/-- A file as the model sees it. -/
def reviewExcerpt (u : SourceUnit) : String :=
  let name := u.language.name
  "File: " ++ u.path ++ " (" ++ name ++ ")\n```" ++ name ++ "\n" ++
    Text.clip u.content reviewLimit ++ "\n```"

/-- The part of the prompt before the files. -/
def reviewIntroduction : String :=
  "You are a senior code reviewer analyzing the following code files for quality issues.

Please identify issues in these categories:
1. Security vulnerabilities
2. Performance problems
3. Code duplication
4. Complexity issues
5. Testing gaps
6. Documentation problems
7. Maintainability concerns

For each issue found, provide:
- type (security/performance/duplication/complexity/testing/documentation/maintainability)
- severity (low/medium/high/critical)
- title (brief description)
- description (detailed explanation)
- file and line number (if applicable)
- suggestion (how to fix)
- impact (why it matters)
- effort (low/medium/high to fix)

Format your response as a JSON array of issues:
[
  \x7b
    \x22type\x22: \x22security\x22,
    \x22severity\x22: \x22high\x22,
    \x22title\x22: \x22Issue title\x22,
    \x22description\x22: \x22Detailed description\x22,
    \x22file\x22: \x22path/to/file.js\x22,
    \x22line\x22: 42,
    \x22suggestion\x22: \x22How to fix this\x22,
    \x22impact\x22: \x22Why this matters\x22,
    \x22effort\x22: \x22medium\x22
  \x7d
]

Files to analyze:
"

/-- The part of the prompt after the files. -/
def reviewConclusion : String :=
  "

Focus on real, actionable issues that would help developers improve their code quality.
Return ONLY the JSON array, no other text."

/-- The prompt for one batch. -/
def reviewPrompt (batch : List SourceUnit) : String :=
  reviewIntroduction ++ Text.join "\n\n" (batch.map reviewExcerpt) ++ reviewConclusion

end Assay
