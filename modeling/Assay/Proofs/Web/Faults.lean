import Assay.Proofs.Outcome
import Assay.Web.Connection

/-!
# How requests fail

* `FailsAs`: an operation fails in some ways only;
* `Connection.get_failsAs`: the ways of a request;
* `Response.text_failsAs`: the ways of reading a text.
-/

namespace Assay

/-- An operation fails in ways of a kind only. -/
def FailsAs {α : Type} (kind : Failure → Bool) (x : Except Failure α) : Prop :=
  ∀ e, x = .error e → kind e = true

namespace FailsAs

variable {α β : Type} {kind : Failure → Bool}

theorem ok (a : α) : FailsAs kind (.ok a) := nofun

theorem error {e : Failure} (h : kind e = true) : FailsAs kind (.error e : Except Failure α) := by
  rintro _ ⟨⟩
  exact h

theorem bind {x : Except Failure α} {f : α → Except Failure β} (hx : FailsAs kind x)
    (hf : ∀ a, FailsAs kind (f a)) : FailsAs kind (x >>= f) := by
  intro e he
  rcases bind_eq_error.mp he with h | ⟨a, _, h⟩
  · exact hx e h
  · exact hf a e h

theorem mapError {ε : Type} {g : ε → Failure} (x : Except ε α) (hg : ∀ e, kind (g e) = true) :
    FailsAs kind (x.mapError g) := by
  cases x with
  | ok a => exact ok a
  | error e => exact error (hg e)

theorem mapM {f : α → Except Failure β} (hf : ∀ a, FailsAs kind (f a)) (xs : List α) :
    FailsAs kind (xs.mapM f) := by
  induction xs with
  | nil => exact ok []
  | cons x xs ih =>
    rw [List.mapM_cons]
    exact (hf x).bind fun y => ih.bind fun ys => ok (y :: ys)

theorem foldlM {f : β → α → Except Failure β} (hf : ∀ b a, FailsAs kind (f b a)) (xs : List α)
    (b : β) : FailsAs kind (xs.foldlM f b) := by
  induction xs generalizing b with
  | nil => exact ok b
  | cons x xs ih =>
    rw [List.foldlM_cons]
    exact (hf b x).bind ih

end FailsAs

/-- A request is not made, or its answer is lost or is not taken in. -/
def Failure.isRequest : Failure → Bool
  | requestFailed _ | unknownScheme _ | badAddress _ | badLabel _ | unencodable _ | wrongType _ =>
    true
  | _ => false

/-- A text is not read in the encoding that it is said to have. -/
def Failure.isReading : Failure → Bool
  | unreadableText _ | nameWithZero | wrongType _ => true
  | _ => false

namespace Web

theorem checkAscii_failsAs (s : String) : FailsAs Failure.isRequest (checkAscii s) := by
  unfold checkAscii
  split
  · exact .error rfl
  · exact .ok ()

theorem isRequest_ofAddress (f : AddressFault) : (Failure.ofAddress f).isRequest = true := by
  unfold Failure.ofAddress
  split <;> rfl

theorem fullHost_failsAs (a : Address) : FailsAs Failure.isRequest (fullHost a) :=
  .mapError _ fun _ => rfl

theorem headerOf_failsAs (h : String × Json) : FailsAs Failure.isRequest (headerOf h) := by
  unfold headerOf
  split
  · exact (checkAscii_failsAs _).bind fun _ => (checkAscii_failsAs _).bind fun _ => .ok _
  · exact (checkAscii_failsAs _).bind fun _ => .error rfl

theorem resolve_failsAs (compression : String) (bytes : List UInt8) :
    FailsAs Failure.isRequest (resolve compression bytes) := by
  unfold resolve
  split
  · exact .ok _
  · split
    · split
      · exact .ok _
      · exact .error rfl
    · split
      · split
        · exact .ok _
        · exact .mapError _ fun _ => rfl
      · exact .ok _

theorem receive_failsAs (m : Message) : FailsAs Failure.isRequest m.receive :=
  (FailsAs.mapM headerOf_failsAs _).bind fun _ =>
    (FailsAs.foldlM (fun bytes c => resolve_failsAs c bytes) _ _).bind fun _ => .ok _

theorem checkPlace_failsAs (requested : Address) (place : String) :
    FailsAs Failure.isRequest (checkPlace requested place) := by
  have hkept (a : Address) : FailsAs Failure.isRequest (do
      let kept := unescape (requested.fragment.getD [])
      if !kept.isEmpty && (a.fragment.getD []).isEmpty then
        let _ ← (Address.checked { a with fragment := some kept }).mapError .ofAddress
      let _ ← fullHost a) := by
    have hhost : FailsAs Failure.isRequest (fullHost a >>= fun _ => pure ()) :=
      (fullHost_failsAs a).bind fun _ => .ok ()
    dsimp only
    split
    · exact FailsAs.bind (.mapError _ isRequest_ofAddress) fun _ => hhost
    · exact hhost
  unfold checkPlace
  refine FailsAs.bind (.mapError _ fun _ => rfl) fun a => ?_
  dsimp only
  split
  · exact hkept a
  · refine (fullHost_failsAs a).bind fun host => ?_
    split
    · exact hkept a
    · exact (fullHost_failsAs requested).bind fun _ =>
        FailsAs.bind (.mapError _ isRequest_ofAddress) hkept

theorem checkRedirection_failsAs (requested : Address) (r : Response) :
    FailsAs Failure.isRequest (checkRedirection requested r) := by
  unfold checkRedirection
  split
  · split
    · exact checkPlace_failsAs requested _
    · exact .ok ()
  · exact .ok ()

theorem addressOf_failsAs (c : Connection) (url : String)
    (query : Option (List (String × String))) :
    FailsAs Failure.isRequest (c.addressOf url query) := by
  have hplace (a : Address) : FailsAs Failure.isRequest (do
      let _ ← fullHost a
      checkAscii (String.ofList a.place)
      return a) :=
    (fullHost_failsAs a).bind fun _ => (checkAscii_failsAs _).bind fun _ => .ok a
  have hroot {f : Address → Except Failure Address}
      (hf : ∀ a, FailsAs Failure.isRequest (f a)) : FailsAs Failure.isRequest (do
        let a ← (Address.parse url).mapError .ofAddress
        if a.isAbsolute then f a
        else
          let a ← a.belowRoot.mapError .ofAddress
          f a) := by
    refine FailsAs.bind (.mapError _ isRequest_ofAddress) fun a => ?_
    split
    · exact hf a
    · exact FailsAs.bind (.mapError _ isRequest_ofAddress) hf
  unfold Connection.addressOf
  cases query with
  | none => exact hroot fun a => (checkAscii_failsAs _).bind fun _ => hplace a
  | some q =>
    exact hroot fun a => (checkAscii_failsAs _).bind fun _ =>
      FailsAs.bind (.mapError (a.withQuery q) isRequest_ofAddress) hplace

/-- A request fails because it is not made, or because its answer is lost or is not taken in. -/
theorem Connection.get_failsAs (c : Connection) (url : String)
    (query : Option (List (String × String))) (accept : String) :
    FailsAs Failure.isRequest (c.get url query accept).outcome := by
  unfold Connection.get
  simp only [Trail.outcome_bind, Trail.outcome_ofExcept, Trail.outcome_emit]
  refine (addressOf_failsAs c url query).bind fun a => FailsAs.bind (.ok ()) fun _ => ?_
  split
  · exact .error rfl
  · simp only [Trail.outcome_bind, Trail.outcome_ofExcept]
    refine (receive_failsAs _).bind fun r => ?_
    split
    · exact .error rfl
    · simp only [Trail.outcome_bind, Trail.outcome_ofExcept]
      exact (checkRedirection_failsAs a r).bind fun _ => .ok r

theorem parameter_failsAs (s : List Char) (name : String) :
    FailsAs Failure.isReading (MediaType.parameter? s name) := by
  unfold MediaType.parameter?
  dsimp only
  split
  · exact .error rfl
  · exact .ok _

theorem charset_failsAs (r : Response) : FailsAs Failure.isReading r.charset := by
  unfold Response.charset
  split
  · refine FailsAs.bind ((parameter_failsAs _ _).bind fun _ => .ok _) fun name => ?_
    split
    · dsimp only
      split
      · exact .error rfl
      · exact .ok _
    · exact .ok _
  · exact .ok _

/-- A text fails to be read for its encoding only. -/
theorem Response.text_failsAs (r : Response) : FailsAs Failure.isReading r.text := by
  unfold Response.text
  split
  · exact .ok ""
  · refine (charset_failsAs r).bind fun charset => ?_
    cases charset.text r.body with
    | ok s => exact .ok _
    | error f => exact .error rfl

end Web

end Assay
