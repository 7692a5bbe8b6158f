import Assay.Trail

/-!
# Operations one after another, and operations that recover

* `Trail.mem_events_bind`: what the second of two operations does is seen of both;
* `Trail.recover_ok`: after an operation that ends there is nothing to recover;
* `Trail.recover_congr`: what is done instead depends on the outcome alone;
* `Trail.recover_eq_ok`, `Trail.recover_eq_error`, `Trail.recover_eq_error_of_ok`: what comes of an
  operation and of what is done instead.
-/

namespace Assay

namespace Trail

theorem mem_events_bind {α β : Type} {t : Trail α} {a : α} (h : t.outcome = .ok a)
    {f : α → Trail β} {x : Event} (hx : x ∈ (f a).events) : x ∈ (t >>= f).events := by
  change x ∈ (Trail.bind t f).events
  simp only [Trail.bind, h]
  exact List.mem_append_right _ hx

variable {α : Type} {t : Trail α} {f : Failure → Option (Trail α)} {e : Failure}

theorem recover_ok {a : α} (h : t.outcome = .ok a) (f : Failure → Option (Trail α)) :
    (t.recover f).outcome = .ok a := by
  unfold recover
  split
  · exact h
  · rename_i e he
    rw [h] at he
    cases he

theorem recover_congr {t' : Trail α} (h : t.outcome = t'.outcome)
    (f : Failure → Option (Trail α)) : (t.recover f).outcome = (t'.recover f).outcome := by
  unfold recover
  rw [h]
  split
  · exact h
  · split
    · exact h
    · rfl

theorem recover_eq_ok {a : α} : (t.recover f).outcome = .ok a ↔
    t.outcome = .ok a ∨ ∃ e u, t.outcome = .error e ∧ f e = some u ∧ u.outcome = .ok a := by
  unfold recover
  split
  · rename_i b hb
    simp [hb]
  · rename_i e he
    split
    · rename_i hf
      simp [he, hf]
    · rename_i u hu
      simp [he, hu]

theorem recover_eq_error : (t.recover f).outcome = .error e ↔
    ∃ e', t.outcome = .error e' ∧
      (f e' = none ∧ e' = e ∨ ∃ u, f e' = some u ∧ u.outcome = .error e) := by
  unfold recover
  split
  · rename_i a ha
    simp [ha]
  · rename_i e' he'
    split
    · rename_i hf
      simp [he', hf]
    · rename_i u hu
      simp [he', hu]

/-- Where all that is done instead ends, only a failure that nothing is done about remains. -/
theorem recover_eq_error_of_ok (hok : ∀ e' u, f e' = some u → ∃ a, u.outcome = .ok a) :
    (t.recover f).outcome = .error e ↔ t.outcome = .error e ∧ f e = none := by
  rw [recover_eq_error]
  constructor
  · rintro ⟨e', he', ⟨hnone, rfl⟩ | ⟨u, hu, hfails⟩⟩
    · exact ⟨he', hnone⟩
    · obtain ⟨a, ha⟩ := hok e' u hu
      rw [ha] at hfails
      cases hfails
  · exact fun ⟨h, hnone⟩ => ⟨e, h, .inl ⟨hnone, rfl⟩⟩

end Trail

end Assay
