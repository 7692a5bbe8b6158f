import Assay.Proofs.Outcome
import Assay.Web.Connection

/-!
# What a request comes to

* `Connection.answered`: what is answered at an address, as a response or a failure;
* `Connection.get_outcome`: a request comes to what is answered at its address;
* `Connection.LeadsTo`, `Connection.get_of_leadsTo`: a text and a query lead to an address, and a
  plain answer there is the response.
-/

namespace Assay.Web.Connection

variable {c c' : Connection} {url accept place text : String}
  {query : Option (List (String × String))}

/-- What is answered at an address. -/
def answered (c : Connection) (a : Address) : Except Failure Response :=
  match c.answer a.render with
  | .lost message => .error (.requestFailed message)
  | .message m => do
    let response ← m.receive
    if !a.isAbsolute then .error (.unknownScheme a.render)
    else do
      checkRedirection a response
      return response

theorem answered_congr {a : Address} (h : c'.answer a.render = c.answer a.render) :
    c'.answered a = c.answered a := by
  rw [answered, answered, h]

/-- A request comes to what is answered at its address. -/
theorem get_outcome (c : Connection) (url : String) (query : Option (List (String × String)))
    (accept : String) :
    (c.get url query accept).outcome = c.addressOf url query >>= c.answered := by
  unfold get
  simp only [Trail.outcome_bind, Trail.outcome_ofExcept, Trail.outcome_emit, ok_bind]
  refine bind_congr fun a => ?_
  unfold answered
  cases c.answer a.render with
  | lost message => rfl
  | message m =>
    simp only [Trail.outcome_bind, Trail.outcome_ofExcept]
    refine bind_congr fun response => ?_
    split
    · rfl
    · simp only [Trail.outcome_bind, Trail.outcome_ofExcept]
      rfl

/-- Addresses do not depend on what is answered. -/
theorem addressOf_congr (h : c'.token = c.token) : c'.addressOf = c.addressOf := by
  unfold addressOf credentials
  rw [h]

/-- A text and a query name an address with a scheme and a host, which is written so. -/
def LeadsTo (c : Connection) (url : String) (query : Option (List (String × String)))
    (place : String) : Prop :=
  (c.addressOf url query).map (fun a => (a.render, a.isAbsolute)) = .ok (place, true)

instance : Decidable (c.LeadsTo url query place) :=
  inferInstanceAs (Decidable (_ = _))

/-- An answer without headers is received as it is. -/
theorem get_of_leadsTo (h : c.LeadsTo url query place)
    (hanswer : c.answer place = .message ⟨200, [], text⟩) :
    (c.get url query accept).outcome = .ok ⟨200, [], text.toUTF8.toList⟩ := by
  obtain ⟨a, ha, hplace⟩ := map_eq_ok.mp h
  obtain ⟨hrender, habsolute⟩ := Prod.mk.inj hplace
  have hreceive : Message.receive ⟨200, [], text⟩ = .ok ⟨200, [], text.toUTF8.toList⟩ := rfl
  rw [get_outcome, ha, ok_bind, answered, hrender, hanswer]
  simp only [hreceive, ok_bind, habsolute, Bool.not_true, Bool.false_eq_true, if_false]
  rfl

end Assay.Web.Connection
