import Mathlib.Data.List.Dedup
import Mathlib.Data.List.Perm.Subperm

/-! A fixed set of items that is read page by page, each page from an order of its own. -/
namespace Library
variable {α κ : Type*}

/-- Items told apart by a key, and the order in which each call lists them. -/
structure Listing (key : α → κ) where
  items : List α
  order : Nat → List α
  perm : ∀ n, (order n).Perm items
  nodup : (items.map key).Nodup

namespace Listing
variable {key : α → κ} (l : Listing key)

def keys : List κ := l.items.map key

/-- What call `n` answers to a request for `size` items from an offset. -/
def page (n offset size : Nat) : List α := ((l.order n).drop offset).take size

/-- The items of consecutive pages, read by consecutive calls. -/
def pages (size : Nat) : (count n offset : Nat) → List α
  | 0, _, _ => []
  | count + 1, n, offset => l.page n offset size ++ pages size count (n + 1) (offset + size)

variable {l}

theorem page_length (n offset size : Nat) :
    (l.page n offset size).length = min size (l.items.length - offset) := by
  simp [page, (l.perm n).length_eq]

theorem mem_of_mem_page {n offset size : Nat} {a : α} (h : a ∈ l.page n offset size) : a ∈ l.items :=
  (l.perm n).mem_iff.mp (List.mem_of_mem_drop (List.mem_of_mem_take h))

/-- Past the end of the listing the pages are empty. -/
theorem pages_of_le {size count n offset : Nat} (h : l.items.length ≤ offset) :
    l.pages size count n offset = [] := by
  induction count generalizing n offset with
  | zero => rfl
  | succ count ih =>
    have hnil : l.page n offset size = [] :=
      List.eq_nil_of_length_eq_zero (by rw [page_length]; omega)
    rw [pages, hnil, ih (by omega), List.nil_append]

/-- Pages enough for the whole listing have as many items as the listing. -/
theorem pages_length {size count n offset : Nat} (h : l.items.length ≤ count * size + offset) :
    (l.pages size count n offset).length = l.items.length - offset := by
  induction count generalizing n offset with
  | zero => simp [pages]; omega
  | succ count ih =>
    rw [pages, List.length_append, page_length, ih (by rw [Nat.add_mul] at h; omega)]
    omega

theorem mem_of_mem_pages {size count n offset : Nat} {a : α} (h : a ∈ l.pages size count n offset) :
    a ∈ l.items := by
  induction count generalizing n offset with
  | zero => cases h
  | succ count ih =>
    rcases List.mem_append.mp h with h | h
    · exact mem_of_mem_page h
    · exact ih h

theorem eq_of_key_eq {a b : α} (ha : a ∈ l.items) (hb : b ∈ l.items) (h : key a = key b) : a = b :=
  List.inj_on_of_nodup_map l.nodup ha hb h

/-- As many distinct keys as there are items are the keys of all items. -/
theorem perm_keys {found : List κ} (hsub : found ⊆ l.keys) (hn : found.Nodup)
    (hlen : l.items.length ≤ found.length) : found.Perm l.keys :=
  (List.subperm_of_subset hn hsub).perm_of_length_le (by simpa [keys] using hlen)

/-- The distinct keys among as many items as there are, are all keys exactly if no
item was read twice. -/
theorem perm_keys_iff [DecidableEq κ] {read : List α} {found : List κ} (hsub : read ⊆ l.items)
    (hlen : read.length = l.items.length) (hn : found.Nodup)
    (hmem : ∀ k, k ∈ found ↔ k ∈ read.map key) : found.Perm l.keys ↔ (read.map key).Nodup := by
  have hdedup : found.Perm (read.map key).dedup :=
    (List.perm_ext_iff_of_nodup hn (List.nodup_dedup _)).mpr fun k => by rw [List.mem_dedup, hmem]
  constructor
  · intro h
    have hsame : (read.map key).dedup.length = (read.map key).length := by
      rw [← hdedup.length_eq, h.length_eq, keys, List.length_map, List.length_map, hlen]
    rw [← (List.dedup_sublist _).eq_of_length hsame]
    exact List.nodup_dedup _
  · intro h
    have hfound : found.length = l.items.length := by
      rw [hdedup.length_eq, List.dedup_eq_self.mpr h, List.length_map, hlen]
    exact perm_keys (fun k hk => List.map_subset key hsub ((hmem k).mp hk)) hn (Nat.le_of_eq hfound.symm)

end Listing
end Library
