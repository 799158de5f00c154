import Mathlib.Data.List.Basic

/-! Runs of a deterministic system: what holds of each call in the state it finds,
and of each state the run passes through. -/
namespace Library
variable {σ α : Type*} (step : σ → α → σ)

/-- Every call of the run meets `Q` in the state it finds. -/
def CallsMeet (Q : σ → α → Prop) (s : σ) : List α → Prop
  | [] => True
  | a :: l => Q s a ∧ CallsMeet Q (step s a) l

/-- Every state of the run, the first and the last included, meets `P`. -/
def StatesMeet (P : σ → Prop) (s : σ) : List α → Prop
  | [] => P s
  | a :: l => P s ∧ StatesMeet P (step s a) l

instance callsMeetDecidable {Q : σ → α → Prop} [∀ s a, Decidable (Q s a)] :
    (s : σ) → (l : List α) → Decidable (CallsMeet step Q s l)
  | _, [] => .isTrue trivial
  | s, a :: l =>
    have : Decidable (CallsMeet step Q (step s a) l) := callsMeetDecidable (step s a) l
    inferInstanceAs (Decidable (Q s a ∧ CallsMeet step Q (step s a) l))

variable {step} {P : σ → Prop} {Q : σ → α → Prop} {s : σ} {l : List α}

theorem CallsMeet.mono {Q' : σ → α → Prop} (hQ : ∀ s a, a ∈ l → Q s a → Q' s a)
    (h : CallsMeet step Q s l) : CallsMeet step Q' s l := by
  induction l generalizing s with
  | nil => trivial
  | cons a l ih =>
    exact ⟨hQ s a (by simp) h.1, ih (fun s b hb => hQ s b (by simp [hb])) h.2⟩

/-- The call made after the run `l`. -/
theorem CallsMeet.at_end {a : α} {l' : List α} (h : CallsMeet step Q s (l ++ a :: l')) :
    Q (l.foldl step s) a := by
  induction l generalizing s with
  | nil => exact h.1
  | cons b l ih => exact ih h.2

theorem callsMeet_of_forall (h : ∀ s, ∀ a ∈ l, Q s a) : CallsMeet step Q s l := by
  induction l generalizing s with
  | nil => trivial
  | cons a l ih => exact ⟨h s a (by simp), ih fun s b hb => h s b (by simp [hb])⟩

/-- The invariant rule, with a condition on the calls. -/
theorem StatesMeet.of_callsMeet (hs : P s)
    (hstep : ∀ s, ∀ a ∈ l, P s → Q s a → P (step s a)) (h : CallsMeet step Q s l) :
    StatesMeet step P s l := by
  induction l generalizing s with
  | nil => exact hs
  | cons a l ih =>
    exact ⟨hs, ih (hstep s a (by simp) hs h.1) (fun s b hb => hstep s b (by simp [hb])) h.2⟩

/-- The invariant rule for an invariant that every call keeps. -/
theorem StatesMeet.of_step (hs : P s) (hstep : ∀ s, ∀ a ∈ l, P s → P (step s a)) :
    StatesMeet step P s l :=
  .of_callsMeet (Q := fun _ _ => True) hs (fun s a ha hP _ => hstep s a ha hP)
    (callsMeet_of_forall fun _ _ _ => trivial)

theorem StatesMeet.head (h : StatesMeet step P s l) : P s := by
  cases l with
  | nil => exact h
  | cons a l => exact h.1

theorem StatesMeet.last (h : StatesMeet step P s l) : P (l.foldl step s) := by
  induction l generalizing s with
  | nil => exact h
  | cons a l ih => exact ih h.2

theorem StatesMeet.mono {P' : σ → Prop} (hP : ∀ s, P s → P' s) (h : StatesMeet step P s l) :
    StatesMeet step P' s l := by
  induction l generalizing s with
  | nil => exact hP s h
  | cons a l ih => exact ⟨hP s h.1, ih h.2⟩

theorem StatesMeet.and {P' : σ → Prop} (h : StatesMeet step P s l) (h' : StatesMeet step P' s l) :
    StatesMeet step (fun s => P s ∧ P' s) s l := by
  induction l generalizing s with
  | nil => exact ⟨h, h'⟩
  | cons a l ih => exact ⟨⟨h.1, h'.1⟩, ih h.2 h'.2⟩

/-- What two successive good states say of the call between them. -/
theorem StatesMeet.callsMeet (hstep : ∀ s, ∀ a ∈ l, P s → P (step s a) → Q s a)
    (h : StatesMeet step P s l) : CallsMeet step Q s l := by
  induction l generalizing s with
  | nil => trivial
  | cons a l ih =>
    exact ⟨hstep s a (by simp) h.1 h.2.head, ih (fun s b hb => hstep s b (by simp [hb])) h.2⟩

end Library
