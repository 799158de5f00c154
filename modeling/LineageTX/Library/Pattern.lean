import Mathlib.Data.List.Forall2
import Mathlib.Data.List.Infix

/-! Patterns that are looked for in a text: the texts that a pattern accepts, and the search,
which follows every way to match and finds exactly the accepted parts. -/
namespace Library
variable {α : Type}

/-- Patterns over classes of characters; `many` stands for one or more of a class. -/
inductive Pattern (α : Type) where
  | empty
  | one (p : α → Bool)
  | many (p : α → Bool)
  | seq (first second : Pattern α)
  | either (left right : Pattern α)

namespace Pattern

/-- The texts that a pattern accepts. -/
inductive Accepts : Pattern α → List α → Prop
  | empty : Accepts .empty []
  | one {p : α → Bool} {a : α} (h : p a = true) : Accepts (.one p) [a]
  | many {p : α → Bool} {w : List α} (hne : w ≠ []) (h : ∀ a ∈ w, p a = true) : Accepts (.many p) w
  | seq {r r' : Pattern α} {w w' : List α} (h : r.Accepts w) (h' : r'.Accepts w') :
      Accepts (.seq r r') (w ++ w')
  | left {r r' : Pattern α} {w : List α} (h : r.Accepts w) : Accepts (.either r r') w
  | right {r r' : Pattern α} {w : List α} (h : r'.Accepts w) : Accepts (.either r r') w

/-- What is left behind one character of the class, behind two, and so on. -/
def behindMany (p : α → Bool) : List α → List (List α)
  | [] => []
  | a :: cs => if p a then cs :: behindMany p cs else []

/-- What is left of a text behind each match at its start. -/
def rests : Pattern α → List α → List (List α)
  | .empty, cs => [cs]
  | .one _, [] => []
  | .one p, a :: cs => if p a then [cs] else []
  | .many p, cs => behindMany p cs
  | .seq r r', cs => (r.rests cs).flatMap r'.rests
  | .either r r', cs => r.rests cs ++ r'.rests cs

/-- Whether the pattern matches somewhere in the text. -/
def found (r : Pattern α) (cs : List α) : Bool := cs.tails.any fun t => !(r.rests t).isEmpty

/-- The pattern of a fixed text. -/
def literal (same : α → α → Bool) : List α → Pattern α
  | [] => .empty
  | a :: cs => .seq (.one (same a)) (literal same cs)

/-- The pattern, or nothing. -/
def optional (r : Pattern α) : Pattern α := .either r .empty

theorem mem_behindMany {p : α → Bool} {cs rest : List α} :
    rest ∈ behindMany p cs ↔ ∃ w, w ≠ [] ∧ (∀ a ∈ w, p a = true) ∧ cs = w ++ rest := by
  induction cs with
  | nil =>
    constructor
    · exact fun h => by cases h
    · rintro ⟨w, hne, -, hcs⟩
      exact absurd (List.append_eq_nil_iff.mp hcs.symm).1 hne
  | cons a cs ih =>
    rw [behindMany]
    split
    · next ha =>
      rw [List.mem_cons, ih]
      constructor
      · rintro (rfl | ⟨w, -, hall, rfl⟩)
        · exact ⟨[a], by simp, by simpa using ha, rfl⟩
        · exact ⟨a :: w, by simp, List.forall_mem_cons.mpr ⟨ha, hall⟩, rfl⟩
      · rintro ⟨w, hne, hall, hcs⟩
        cases w with
        | nil => exact absurd rfl hne
        | cons b w =>
          obtain ⟨rfl, rfl⟩ := List.cons.inj hcs
          cases w with
          | nil => exact .inl rfl
          | cons b' w => exact .inr ⟨b' :: w, by simp, (List.forall_mem_cons.mp hall).2, rfl⟩
    · next ha =>
      constructor
      · exact fun h => by cases h
      · rintro ⟨w, hne, hall, hcs⟩
        cases w with
        | nil => exact absurd rfl hne
        | cons b w =>
          obtain ⟨rfl, -⟩ := List.cons.inj hcs
          exact absurd (hall a (by simp)) ha

/-- The search at one place goes through exactly the accepted beginnings. -/
theorem mem_rests {r : Pattern α} {cs rest : List α} :
    rest ∈ r.rests cs ↔ ∃ w, r.Accepts w ∧ cs = w ++ rest := by
  induction r generalizing cs rest with
  | empty =>
    constructor
    · intro h
      exact ⟨[], .empty, (List.mem_singleton.mp h).symm⟩
    · rintro ⟨_, ⟨⟩, rfl⟩
      exact List.mem_singleton_self _
  | one p =>
    cases cs with
    | nil =>
      constructor
      · exact fun h => by cases h
      · rintro ⟨_, ⟨_⟩, h⟩
        cases h
    | cons a cs =>
      rw [rests]
      constructor
      · intro h
        split at h
        · next ha =>
          obtain rfl := List.mem_singleton.mp h
          exact ⟨[a], .one ha, rfl⟩
        · cases h
      · rintro ⟨w, hw, h⟩
        cases hw with
        | one ha =>
          obtain ⟨rfl, rfl⟩ := List.cons.inj h
          rw [if_pos ha]
          exact List.mem_singleton_self _
  | many p =>
    rw [rests, mem_behindMany]
    constructor
    · rintro ⟨w, hne, hall, hcs⟩
      exact ⟨w, .many hne hall, hcs⟩
    · rintro ⟨w, hw, hcs⟩
      cases hw with
      | many hne hall => exact ⟨w, hne, hall, hcs⟩
  | seq r r' ih ih' =>
    rw [rests, List.mem_flatMap]
    constructor
    · rintro ⟨middle, hmiddle, hrest⟩
      obtain ⟨w, hw, rfl⟩ := ih.mp hmiddle
      obtain ⟨w', hw', rfl⟩ := ih'.mp hrest
      exact ⟨w ++ w', .seq hw hw', (List.append_assoc ..).symm⟩
    · rintro ⟨_, hw, rfl⟩
      cases hw with
      | seq hw hw' => exact ⟨_, ih.mpr ⟨_, hw, List.append_assoc ..⟩, ih'.mpr ⟨_, hw', rfl⟩⟩
  | either r r' ih ih' =>
    rw [rests, List.mem_append, ih, ih']
    constructor
    · rintro (⟨w, hw, hcs⟩ | ⟨w, hw, hcs⟩)
      · exact ⟨w, .left hw, hcs⟩
      · exact ⟨w, .right hw, hcs⟩
    · rintro ⟨w, hw, hcs⟩
      cases hw with
      | left hw => exact .inl ⟨w, hw, hcs⟩
      | right hw => exact .inr ⟨w, hw, hcs⟩

/-- A pattern is found exactly if the text has a part that it accepts. -/
theorem found_iff {r : Pattern α} {cs : List α} : r.found cs = true ↔ ∃ w, r.Accepts w ∧ w <:+: cs := by
  simp only [found, List.any_eq_true, List.mem_tails, Bool.not_eq_true', List.isEmpty_eq_false_iff_exists_mem,
    mem_rests]
  constructor
  · rintro ⟨t, ⟨before, rfl⟩, rest, w, hw, rfl⟩
    exact ⟨w, hw, before, rest, List.append_assoc ..⟩
  · rintro ⟨w, hw, before, rest, rfl⟩
    exact ⟨w ++ rest, ⟨before, (List.append_assoc ..).symm⟩, rest, w, hw, rfl⟩

theorem accepts_literal {same : α → α → Bool} {cs w : List α} :
    (literal same cs).Accepts w ↔ List.Forall₂ (fun a b => same a b = true) cs w := by
  induction cs generalizing w with
  | nil =>
    constructor
    · rintro ⟨⟩
      exact .nil
    · rintro ⟨⟩
      exact .empty
  | cons a cs ih =>
    constructor
    · intro h
      cases h with
      | seq hone hrest =>
        cases hone with
        | one ha => exact .cons ha (ih.mp hrest)
    · intro h
      cases h with
      | cons ha hrest => exact .seq (.one ha) (ih.mpr hrest)

end Pattern
end Library
