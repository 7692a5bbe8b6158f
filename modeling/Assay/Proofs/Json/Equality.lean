import Assay.Json.Value

/-!
# Equality of documents

* `Json.isSame`: whether two documents are the same, field by field; `Json.isSame_iff`.
-/

namespace Assay.Json

mutual

/-- Whether two documents are the same. -/
def isSame : Json → Json → Bool
  | null, null => true
  | bool a, bool b => a == b
  | int m, int n => m == n
  | real x, real y => decide (x = y)
  | str s, str t => s == t
  | arr xs, arr ys => areSame xs ys
  | obj fs, obj gs => haveSame fs gs
  | _, _ => false

/-- Whether items are the same, one by one. -/
def areSame : List Json → List Json → Bool
  | [], [] => true
  | x :: xs, y :: ys => isSame x y && areSame xs ys
  | _, _ => false

/-- Whether fields are the same, one by one. -/
def haveSame : List (String × Json) → List (String × Json) → Bool
  | [], [] => true
  | (k, v) :: fs, (l, w) :: gs => k == l && isSame v w && haveSame fs gs
  | _, _ => false

end

mutual

theorem isSame_iff : ∀ a b : Json, isSame a b = true ↔ a = b
  | arr xs, b => by
    cases b with
    | arr ys => rw [isSame, areSame_iff xs ys, arr.injEq]
    | _ => simp [isSame]
  | obj fs, b => by
    cases b with
    | obj gs => rw [isSame, haveSame_iff fs gs, obj.injEq]
    | _ => simp [isSame]
  | null, b | bool _, b | int _, b | real _, b | str _, b => by cases b <;> simp [isSame]

theorem areSame_iff : ∀ xs ys : List Json, areSame xs ys = true ↔ xs = ys
  | [], ys => by cases ys <;> simp [areSame]
  | x :: xs, [] => by simp [areSame]
  | x :: xs, y :: ys => by
    rw [areSame, Bool.and_eq_true, isSame_iff x y, areSame_iff xs ys, List.cons.injEq]

theorem haveSame_iff : ∀ fs gs : List (String × Json), haveSame fs gs = true ↔ fs = gs
  | [], gs => by cases gs <;> simp [haveSame]
  | f :: fs, [] => by simp [haveSame]
  | (k, v) :: fs, (l, w) :: gs => by
    rw [haveSame, Bool.and_eq_true, Bool.and_eq_true, beq_iff_eq, isSame_iff v w,
      haveSame_iff fs gs, List.cons.injEq, Prod.mk.injEq]

end

instance : DecidableEq Json := fun a b => decidable_of_iff _ (isSame_iff a b)

end Assay.Json
