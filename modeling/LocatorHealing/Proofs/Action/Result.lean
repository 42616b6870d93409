import LocatorHealing.Action

set_option autoImplicit false
set_option relaxedAutoImplicit false

/-!
Actions that always come to a value. What is known of the value of each part is handed on to what
follows it, so that something is known of the value of the whole.
-/

namespace LocatorHealing.Action

variable {ε τ α β : Type} {P Q : α → Prop} {R : β → Prop}

/-- An action raises nothing, and its value is as described. -/
def Gives (P : α → Prop) (x : Action ε τ α) : Prop :=
  ∀ w, ∃ a v, x.run w = (.ok a, v) ∧ P a

theorem gives_pure {a : α} (holds : P a) : Gives P (pure a : Action ε τ α) :=
  fun w => ⟨a, w, rfl, holds⟩

theorem gives_read (f : World ε τ → α) : Gives (fun _ => True) (read f) :=
  fun w => ⟨f w, w, rfl, trivial⟩

theorem gives_modify (f : World ε τ → World ε τ) : Gives (fun _ => True) (modify f) :=
  fun w => ⟨(), f w, rfl, trivial⟩

theorem gives_log (level : Level) (message : String) :
    Gives (fun _ => True) (log level message : Action ε τ Unit) :=
  gives_modify _

theorem gives_attempt (x : Action ε τ α) : Gives (fun _ => True) x.attempt :=
  fun w => ⟨(x.run w).1, (x.run w).2, rfl, trivial⟩

theorem gives_ofExcept (r : Except Fault α) :
    Gives (fun s => s = r) (attempt (ofExcept r : Action ε τ α)) := by
  intro w
  refine ⟨r, w, ?_, rfl⟩
  rw [run_attempt, run_ofExcept]

theorem gives_bind {x : Action ε τ α} {f : α → Action ε τ β} (first : Gives P x)
    (second : ∀ a, P a → Gives R (f a)) : Gives R (x >>= f) := by
  intro w
  obtain ⟨a, v, ran, holds⟩ := first w
  obtain ⟨b, u, rest, end_⟩ := second a holds v
  exact ⟨b, u, (run_bind_ok ran).trans rest, end_⟩

theorem gives_each {items : List α} {f : α → Action ε τ Unit}
    (gives : ∀ a ∈ items, Gives (fun _ => True) (f a)) : Gives (fun _ => True) (each items f) := by
  induction items with
  | nil => exact gives_pure trivial
  | cons a rest ih =>
    refine gives_bind (gives a List.mem_cons_self) fun _ _ => ih fun b there => ?_
    exact gives b (List.mem_cons_of_mem a there)

end LocatorHealing.Action
