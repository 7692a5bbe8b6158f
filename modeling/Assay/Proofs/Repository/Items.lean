import Assay.Proofs.Outcome
import Assay.Repository.Fetch

/-!
# Items of listings

* `isLeftOut_error_iff`, `isLeftOut_ok_iff`: whether an item is left out;
* `walkItem_of_directory`, `walkItem_of_file`, `walkItem_of_other`, `walkItem_of_shape`: what a walk
  does at an item;
* `fileOf_error_of_path`, `fileOf_eq`: what is done with the file of an item, without a path and with
  one.
-/

namespace Assay

theorem Json.asString_eq_some {v : Json} {s : String} : v.asString? = some s ↔ v = .str s := by
  cases v <;> simp [Json.asString?]

namespace RepositoryName

open Web (Connection)

variable {c : Connection} {config : Configuration} {r : RepositoryName} {branch : Json}
  {exclusions : List Yaml} {xs : List String} {depth : Nat} {item : Json} {e : Failure}

theorem pathOf_eq {item : Json} {path : String} (h : item.field "path" = .str path)
    (hne : path ≠ "") : pathOf item = .str path := by
  have htruthy : (Json.str path).isTruthy = true := by simpa [Json.isTruthy] using hne
  rw [pathOf, h]
  exact if_pos htruthy

theorem isLeftOut_error_iff {v : Json} {xs : List String} :
    isLeftOut v (xs.map .str) = .error e ↔
      v.asString? = none ∧ e = .missingMember v.kindName "replace" := by
  cases v with
  | str s => simp [isLeftOut, isExcludedBy_str, Json.asString?]
  | _ => simp [isLeftOut, Json.asString?, eq_comm (a := e)]

theorem isLeftOut_ok_iff {v : Json} {xs : List String} {b : Bool} :
    isLeftOut v (xs.map .str) = .ok b ↔ ∃ s, v = .str s ∧ isExcluded s xs = b := by
  cases v with
  | str s => simp [isLeftOut, isExcludedBy_str]
  | _ => simp [isLeftOut]

theorem walkItem_of_shape (h : ∀ fields, item ≠ .obj fields) :
    walkItem c config exclusions r branch depth item =
      .fail (.missingMember item.kindName "get") := by
  cases item with
  | obj fields => exact absurd rfl (h fields)
  | _ => rw [walkItem]; simp

/-- What is neither a directory nor a file is passed over if it is an object. -/
theorem walkItem_of_other (hdirectory : item.field "type" ≠ .str "dir")
    (hfile : item.field "type" ≠ .str "file") :
    (∀ fields, item ≠ .obj fields) ∨ walkItem c config exclusions r branch depth item = pure {} := by
  cases item with
  | obj fields =>
    refine .inr ?_
    rw [walkItem]
    split
    · exact absurd ‹_› hdirectory
    · exact absurd ‹_› hfile
    · rfl
  | _ =>
    refine .inl fun fields hobject => ?_
    cases hobject

theorem walkItem_of_directory (h : item.field "type" = .str "dir") :
    (walkItem c config exclusions r branch depth item).outcome = (do
      if ← isHidden item then return {}
      if ← isLeftOut (pathOf item) exclusions then return {}
      match depth with
      | 0 => throw .nestedTooDeep
      | depth + 1 =>
        let items ← (list c r ((pathOf item).asString?.getD "") branch).outcome
        (walk c config exclusions r branch depth items).outcome) := by
  cases item with
  | obj fields =>
    rw [walkItem, h]
    simp only [Trail.outcome_bind, Trail.outcome_ofExcept]
    cases isHidden (.obj fields) with
    | error e => rfl
    | ok hidden =>
      cases hidden with
      | true => rfl
      | false =>
        simp only [ok_bind, Bool.false_eq_true, if_false, Trail.outcome_bind,
          Trail.outcome_ofExcept]
        cases isLeftOut (pathOf (.obj fields)) exclusions with
        | error e => rfl
        | ok out => cases out <;> cases depth <;> first | rfl | simp
  | _ => cases h

theorem walkItem_of_file (h : item.field "type" = .str "file") :
    walkItem c config exclusions r branch depth item = fileOf c config exclusions item := by
  cases item with
  | obj fields =>
    rw [walkItem, h]
    all_goals simp
  | _ => cases h

theorem fileOf_error_of_path (h : (pathOf item).asString? = none) :
    (fileOf c config (xs.map .str) item).outcome =
      .error (.missingMember (pathOf item).kindName "replace") := by
  unfold fileOf
  simp only [Trail.outcome_bind, Trail.outcome_ofExcept, isLeftOut_error_iff.mpr ⟨h, rfl⟩]
  rfl

/-- What is done with the file of an item, step by step. -/
theorem fileOf_eq {path : String} (hplace : pathOf item = .str path) :
    (fileOf c config (xs.map .str) item).outcome =
      if isExcluded path xs then .ok {}
      else
        match Language.ofPath? path with
        | none => .ok (.ofOther path)
        | some language => do
          if ← isTooLarge config (sizeOf item) then return {}
          match ← (content c item path).outcome with
          | none => return {}
          | some text =>
            let size ← unitSize (sizeOf item) text
            return .ofUnit ⟨path, text, language, size⟩ := by
  unfold fileOf
  simp only [Trail.outcome_bind, Trail.outcome_ofExcept, hplace, isLeftOut, isExcludedBy_str,
    ok_bind, Json.asString?, Option.getD_some]
  cases isExcluded path xs with
  | true => rfl
  | false =>
    cases Language.ofPath? path with
    | none => rfl
    | some language =>
      simp only [Bool.false_eq_true, if_false, Trail.outcome_bind, Trail.outcome_ofExcept]
      refine bind_congr fun large => ?_
      cases large with
      | true => rfl
      | false =>
        simp only [Bool.false_eq_true, if_false, Trail.outcome_bind]
        refine bind_congr fun text => ?_
        cases text with
        | none => rfl
        | some text =>
          simp only [Trail.outcome_bind, Trail.outcome_ofExcept]
          rfl

end RepositoryName

end Assay
