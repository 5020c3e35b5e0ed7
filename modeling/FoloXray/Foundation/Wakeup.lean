import Mathlib.Logic.Function.Basic

/-! # Wake-ups that are not lost

Parties that wait for a condition are parked.  A notifier holds at most one token, and a parked party
that takes it looks at the condition again.  Nothing is lost as long as, whenever the condition holds
while somebody is parked, the token is there, or somebody is about to send it, or somebody else is on
the way to look.
-/

namespace FoloXray.Foundation

/-- Where a party stands towards the condition: it does not care, is about to look at it, is parked, or
is about to send the token. -/
inductive Stance where
  | away
  | awake
  | parked
  | signalling
  deriving DecidableEq, Repr

variable {κ : Type*} {ready : Prop} {token : Bool} {stance : κ → Stance}

/-- A wake-up is under way whenever the condition holds while somebody is parked. -/
def Attended (ready : Prop) (token : Bool) (stance : κ → Stance) : Prop :=
  ready → (∃ k, stance k = .parked) →
    token = true ∨ ∃ k, stance k = .awake ∨ stance k = .signalling

theorem attended_of_not (h : ¬ ready) : Attended ready token stance :=
  fun hready => absurd hready h

theorem attended_of_token (stance : κ → Stance) : Attended ready true stance :=
  fun _ _ => .inl rfl

/-- Once nobody is on the way, and the token is gone, the condition does not hold while somebody is
parked. -/
theorem Attended.not_ready (h : Attended ready token stance) {k : κ} (hk : stance k = .parked)
    (hidle : ∀ j, stance j ≠ .awake ∧ stance j ≠ .signalling) (htoken : token ≠ true) : ¬ ready := by
  intro hready
  rcases h hready ⟨k, hk⟩ with htrue | ⟨j, hj | hj⟩
  · exact htoken htrue
  · exact (hidle j).1 hj
  · exact (hidle j).2 hj

variable [DecidableEq κ]

/-- A party that wakes up, or turns to sending the token, attends to the others. -/
theorem attended_update (k : κ) {s : Stance} (hs : s = .awake ∨ s = .signalling) :
    Attended ready token (Function.update stance k s) := by
  intro _ _
  refine .inr ⟨k, ?_⟩
  rwa [Function.update_self]

/-- A party that did not attend to the others may go. -/
theorem Attended.leave (h : Attended ready token stance) {k : κ}
    (hk : stance k = .away ∨ stance k = .parked) (hready : ready' → ready)
    (htoken : token = true → token' = true) :
    Attended ready' token' (Function.update stance k .away) := by
  rintro hr ⟨j, hj⟩
  have hne : j ≠ k := by
    rintro rfl
    rw [Function.update_self] at hj
    cases hj
  rw [Function.update_of_ne hne] at hj
  rcases h (hready hr) ⟨j, hj⟩ with ht | ⟨i, hi⟩
  · exact .inl (htoken ht)
  · have hik : i ≠ k := by
      rintro rfl
      rcases hk with hk | hk <;> rcases hi with hi | hi <;> rw [hk] at hi <;> cases hi
    refine .inr ⟨i, ?_⟩
    rwa [Function.update_of_ne hik]

end FoloXray.Foundation
