import Mathlib.Data.List.Basic

/-! A text as the gaps between the separators that it is cut at, and the places of the
separators. -/
namespace Library
variable {α : Type*} {separator : List α} {gaps : List (List α)}

/-- The places of the separators between the gaps, in a text with separators of this width. -/
def places (width : Nat) : List (List α) → List Nat
  | [] => []
  | [_] => []
  | gap :: next :: gaps => gap.length :: (places width (next :: gaps)).map (· + (gap.length + width))

theorem length_places (width : Nat) (gaps : List (List α)) :
    (places width gaps).length = gaps.length - 1 := by
  fun_induction places width gaps with
  | case1 => rfl
  | case2 gap => rfl
  | case3 gap next gaps ih => simp [ih]

theorem mem_places_cons {width : Nat} {gap : List α} (h : gaps ≠ []) {place : Nat} :
    place ∈ places width (gap :: gaps) ↔ place = gap.length ∨
      ∃ later ∈ places width gaps, place = later + (gap.length + width) := by
  cases gaps with
  | nil => exact absurd rfl h
  | cons next gaps => simp [places, eq_comm]

/-- A longer first gap moves every place. -/
theorem mem_places_grow {width : Nat} {gap : List α} (a : α) {place : Nat}
    (h : place ∈ places width (gap :: gaps)) : place + 1 ∈ places width ((a :: gap) :: gaps) := by
  cases gaps with
  | nil => cases h
  | cons next gaps =>
    rw [mem_places_cons (by simp)] at h ⊢
    rcases h with rfl | ⟨later, hlater, rfl⟩
    · exact .inl rfl
    · exact .inr ⟨later, hlater, by simp only [List.length_cons]; omega⟩

theorem mem_intercalate_of_mem {gap : List α} (hgap : gap ∈ gaps) {a : α} (ha : a ∈ gap) :
    a ∈ separator.intercalate gaps := by
  induction gaps with
  | nil => cases hgap
  | cons head gaps ih =>
    cases gaps with
    | nil => simpa [List.mem_singleton.mp hgap] using ha
    | cons next gaps =>
      rw [List.intercalate_cons_cons, List.mem_append, List.mem_append]
      cases List.mem_cons.mp hgap with
      | inl heq => exact .inl (.inl (heq ▸ ha))
      | inr htail => exact .inr (ih htail)

theorem of_mem_intercalate {a : α} (ha : a ∈ separator.intercalate gaps) :
    a ∈ separator ∨ ∃ gap ∈ gaps, a ∈ gap := by
  induction gaps with
  | nil => cases ha
  | cons head gaps ih =>
    cases gaps with
    | nil => exact .inr ⟨head, by simp, by simpa using ha⟩
    | cons next gaps =>
      rw [List.intercalate_cons_cons, List.mem_append, List.mem_append] at ha
      rcases ha with (hhead | hseparator) | htail
      · exact .inr ⟨head, by simp, hhead⟩
      · exact .inl hseparator
      · rcases ih htail with hseparator | ⟨gap, hgap, hmem⟩
        · exact .inl hseparator
        · exact .inr ⟨gap, List.mem_cons_of_mem _ hgap, hmem⟩

theorem intercalate_nil_cons (h : gaps ≠ []) :
    separator.intercalate ([] :: gaps) = separator ++ separator.intercalate gaps := by
  rw [List.intercalate_cons_of_ne_nil h, List.nil_append]

theorem intercalate_cons_grow (a : α) (gap : List α) :
    separator.intercalate ((a :: gap) :: gaps) = a :: separator.intercalate (gap :: gaps) :=
  List.intercalate_cons_cons_left

end Library
