import Mathlib.Data.List.Sort
import Mathlib.Data.List.Dedup

/-! Sorting by a key and sorting a set: canonical forms of a list up to order.
Both are stable insertion sorts, so that they evaluate inside the kernel. -/
namespace Library
variable {α β κ : Type*} [LinearOrder κ]

def sortBy (key : α → κ) (l : List α) : List α :=
  l.insertionSort fun a b => key a ≤ key b

instance keyTotal (key : α → κ) : Std.Total fun a b : α => key a ≤ key b :=
  ⟨fun a b => le_total (key a) (key b)⟩

instance keyTrans (key : α → κ) : IsTrans α fun a b : α => key a ≤ key b :=
  ⟨fun _ _ _ => le_trans⟩

theorem sortBy_perm (key : α → κ) (l : List α) : (sortBy key l).Perm l :=
  List.perm_insertionSort _ l

@[simp] theorem mem_sortBy (key : α → κ) (l : List α) (a : α) :
    a ∈ sortBy key l ↔ a ∈ l := (sortBy_perm key l).mem_iff

@[simp] theorem length_sortBy (key : α → κ) (l : List α) :
    (sortBy key l).length = l.length := (sortBy_perm key l).length_eq

theorem sortBy_pairwise (key : α → κ) (l : List α) :
    (sortBy key l).Pairwise fun a b => key a ≤ key b :=
  List.pairwise_insertionSort _ l

/-- The canonical form forgets the order of entries that their keys tell apart. -/
theorem sortBy_eq_of_perm (key : α → κ) {l l' : List α} (h : l.Perm l')
    (hk : ∀ a ∈ l, ∀ b ∈ l, key a = key b → a = b) :
    sortBy key l = sortBy key l' := by
  have hp : (sortBy key l).Perm (sortBy key l') :=
    (sortBy_perm key l).trans (h.trans (sortBy_perm key l').symm)
  refine hp.eq_of_pairwise ?_ (sortBy_pairwise key l) (sortBy_pairwise key l')
  intro a b ha hb hab hba
  have hb' : b ∈ l := h.mem_iff.mpr ((mem_sortBy key l' b).mp hb)
  exact hk a ((mem_sortBy key l a).mp ha) b hb' (le_antisymm hab hba)

theorem perm_of_sortBy_eq {key : α → κ} {l l' : List α}
    (h : sortBy key l = sortBy key l') : l.Perm l' :=
  (sortBy_perm key l).symm.trans (h ▸ sortBy_perm key l')

theorem sortBy_of_pairwise {key : α → κ} {l : List α}
    (h : l.Pairwise fun a b => key a ≤ key b) : sortBy key l = l :=
  h.insertionSort_eq

/-- Two lists sorted by a key that tells their entries apart agree once they
hold the same entries. -/
theorem eq_of_perm_of_sorted (key : α → κ) {l l' : List α} (h : l.Perm l')
    (hl : l.Pairwise fun a b => key a ≤ key b) (hl' : l'.Pairwise fun a b => key a ≤ key b)
    (hk : ∀ a ∈ l, ∀ b ∈ l, key a = key b → a = b) : l = l' := by
  rw [← sortBy_of_pairwise hl, ← sortBy_of_pairwise hl']
  exact sortBy_eq_of_perm key h hk

theorem sortBy_map (key : β → κ) (f : α → β) (l : List α) :
    sortBy key (l.map f) = (sortBy (fun a => key (f a)) l).map f :=
  (List.map_insertionSort _ _ f l fun _ _ _ _ => Iff.rfl).symm

/-- What one way of showing entries tells apart, lists of them tell apart. -/
theorem map_eq_of_map_eq {α β γ : Type*} {f : α → β} {g : α → γ}
    (hfg : ∀ a b, f a = f b → g a = g b) {l l' : List α} (h : l.map f = l'.map f) :
    l.map g = l'.map g := by
  induction l generalizing l' with
  | nil => cases l' <;> simp_all
  | cons a l ih =>
    cases l' with
    | nil => simp at h
    | cons b l' =>
      simp only [List.map_cons, List.cons.injEq] at h ⊢
      exact ⟨hfg a b h.1, ih h.2⟩

theorem map_eq_map_iff {α β γ : Type*} {f : α → β} {g : α → γ}
    (hfg : ∀ a b, f a = f b ↔ g a = g b) {l l' : List α} :
    l.map f = l'.map f ↔ l.map g = l'.map g :=
  ⟨map_eq_of_map_eq fun a b => (hfg a b).mp, map_eq_of_map_eq fun a b => (hfg a b).mpr⟩

/-- Sorted without repetitions, as a sorted set is listed. -/
def sortedSet (l : List κ) : List κ := sortBy id l.dedup

@[simp] theorem mem_sortedSet (l : List κ) (a : κ) : a ∈ sortedSet l ↔ a ∈ l := by
  simp [sortedSet]

theorem sortedSet_eq_nil {l : List κ} : sortedSet l = [] ↔ l = [] := by
  simp only [List.eq_nil_iff_forall_not_mem, mem_sortedSet]

theorem sortedSet_nodup (l : List κ) : (sortedSet l).Nodup :=
  (sortBy_perm id l.dedup).nodup_iff.mpr l.nodup_dedup

theorem sortedSet_pairwise (l : List κ) : (sortedSet l).Pairwise (· ≤ ·) :=
  sortBy_pairwise id l.dedup

/-- A sorted set is determined by its members. -/
theorem sortedSet_ext {l l' : List κ} (h : ∀ a, a ∈ l ↔ a ∈ l') :
    sortedSet l = sortedSet l' := by
  refine sortBy_eq_of_perm id ?_ fun _ _ _ _ he => he
  exact (List.perm_ext_iff_of_nodup l.nodup_dedup l'.nodup_dedup).mpr
    fun a => by simp [h a]

end Library
