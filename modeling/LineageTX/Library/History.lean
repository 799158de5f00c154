import Mathlib.Data.List.Basic
import Mathlib.Data.List.Range

/-! Histories of an entity with a status and a version: events that note the status it
has, and events that move it and raise the version. -/
namespace Library
variable {σ : Type*} [DecidableEq σ]

structure Link (σ : Type*) where
  source : σ
  target : σ
  version : Int

def Link.changes (l : Link σ) : Bool := l.target ≠ l.source

/-- An event that continues a history: it starts at the status reached, and either
leaves status and version or makes an allowed move and raises the version by one. -/
structure Link.Follows (can : σ → σ → Bool) (at' : σ × Int) (l : Link σ) : Prop where
  source : l.source = at'.1
  stays : l.changes = false → l.version = at'.2
  moves : l.changes = true → can l.source l.target = true ∧ l.version = at'.2 + 1

/-- The links lead from one status and version to another. -/
def Replays (can : σ → σ → Bool) (start : σ × Int) : List (Link σ) → σ × Int → Prop
  | [], final => start = final
  | l :: links, final => l.Follows can start ∧ Replays can (l.target, l.version) links final

variable {can : σ → σ → Bool} {start final : σ × Int} {links : List (Link σ)} {l : Link σ}

theorem Replays.concat (h : Replays can start links final) (hl : l.Follows can final) :
    Replays can start (links ++ [l]) (l.target, l.version) := by
  induction links generalizing start with
  | nil =>
    have hstart : start = final := h
    exact ⟨hstart ▸ hl, rfl⟩
  | cons k links ih => exact ⟨h.1, ih h.2⟩

/-- An event that only notes where the entity stands. -/
theorem Replays.note (h : Replays can start links final) :
    Replays can start (links ++ [⟨final.1, final.1, final.2⟩]) final :=
  h.concat ⟨rfl, fun _ => rfl, fun hc => by simp [Link.changes] at hc⟩

theorem Replays.move (h : Replays can start links final) {target : σ}
    (hcan : can final.1 target = true) (hne : target ≠ final.1) :
    Replays can start (links ++ [⟨final.1, target, final.2 + 1⟩]) (target, final.2 + 1) :=
  h.concat ⟨rfl, fun hc => by simp [Link.changes, hne] at hc, fun _ => ⟨hcan, rfl⟩⟩

/-- The versions that the moves of a history produced: every one between the first and
the last, once and in order. -/
theorem Replays.versions (h : Replays can start links final) : ∃ n : Nat,
    final.2 = start.2 + n ∧ (links.filter Link.changes).map (·.version) =
      (List.range n).map fun k : Nat => start.2 + 1 + (k : Int) := by
  induction links generalizing start with
  | nil =>
    have hstart : start = final := h
    exact ⟨0, by simp [hstart], rfl⟩
  | cons l links ih =>
    obtain ⟨n, hn, hver⟩ := ih h.2
    cases hc : l.changes with
    | false =>
      have hv := h.1.stays hc
      exact ⟨n, by rw [hn, hv], by simp [hc, hver, hv]⟩
    | true =>
      have hv := (h.1.moves hc).2
      refine ⟨n + 1, by rw [hn, hv]; omega, ?_⟩
      simp only [List.filter_cons, hc, if_true, List.map_cons, hver, List.range_succ_eq_map,
        List.map_map, hv]
      refine congrArg₂ List.cons (by simp) (List.map_congr_left fun k _ => ?_)
      simp only [Function.comp_apply]
      omega

end Library
