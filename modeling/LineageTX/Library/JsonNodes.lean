import LineageTX.Library.Json
import Mathlib.Algebra.GroupWithZero.Nat

/-! Properties of every node of a JSON document, and what keeps them. -/
namespace Library
namespace Json
variable {P Q : Json → Prop}

mutual
/-- The test holds of the document and of every document inside it. -/
def Every (P : Json → Prop) : Json → Prop
  | .arr xs => P (.arr xs) ∧ EveryItem P xs
  | .obj m => P (.obj m) ∧ EveryMember P m
  | j => P j
def EveryItem (P : Json → Prop) : List Json → Prop
  | [] => True
  | x :: xs => Every P x ∧ EveryItem P xs
def EveryMember (P : Json → Prop) : List (String × Json) → Prop
  | [] => True
  | (_, v) :: m => Every P v ∧ EveryMember P m
end

theorem everyItem_iff {xs : List Json} : EveryItem P xs ↔ ∀ x ∈ xs, Every P x := by
  induction xs with
  | nil => simp [EveryItem]
  | cons x xs ih => simp [EveryItem, ih]

theorem everyMember_iff {m : List (String × Json)} : EveryMember P m ↔ ∀ e ∈ m, Every P e.2 := by
  induction m with
  | nil => simp [EveryMember]
  | cons e m ih => simp [EveryMember, ih]

theorem every_arr {xs : List Json} : Every P (.arr xs) ↔ P (.arr xs) ∧ ∀ x ∈ xs, Every P x := by
  rw [Every, everyItem_iff]

theorem every_obj {m : List (String × Json)} :
    Every P (.obj m) ↔ P (.obj m) ∧ ∀ e ∈ m, Every P e.2 := by
  rw [Every, everyMember_iff]

theorem Every.here {j : Json} (h : Every P j) : P j := by
  cases j with
  | arr xs => exact (every_arr.mp h).1
  | obj m => exact (every_obj.mp h).1
  | _ => exact h

mutual
/-- Induction over the nodes of a document. -/
theorem nodes {motive : Json → Prop} (leaf : ∀ j, (∀ xs, j ≠ .arr xs) → (∀ m, j ≠ .obj m) → motive j)
    (arr : ∀ xs, (∀ x ∈ xs, motive x) → motive (.arr xs))
    (obj : ∀ m, (∀ e ∈ m, motive e.2) → motive (.obj m)) : ∀ j, motive j
  | .null => leaf _ nofun nofun
  | .bool _ => leaf _ nofun nofun
  | .int _ => leaf _ nofun nofun
  | .float _ => leaf _ nofun nofun
  | .str _ => leaf _ nofun nofun
  | .arr xs => arr xs (nodesItems leaf arr obj xs)
  | .obj m => obj m (nodesMembers leaf arr obj m)
theorem nodesItems {motive : Json → Prop}
    (leaf : ∀ j, (∀ xs, j ≠ .arr xs) → (∀ m, j ≠ .obj m) → motive j)
    (arr : ∀ xs, (∀ x ∈ xs, motive x) → motive (.arr xs))
    (obj : ∀ m, (∀ e ∈ m, motive e.2) → motive (.obj m)) : ∀ xs : List Json, ∀ x ∈ xs, motive x
  | [], _, h => (nomatch h)
  | y :: ys, x, h => by
    cases List.mem_cons.mp h with
    | inl heq => exact heq ▸ nodes leaf arr obj y
    | inr htail => exact nodesItems leaf arr obj ys x htail
theorem nodesMembers {motive : Json → Prop}
    (leaf : ∀ j, (∀ xs, j ≠ .arr xs) → (∀ m, j ≠ .obj m) → motive j)
    (arr : ∀ xs, (∀ x ∈ xs, motive x) → motive (.arr xs))
    (obj : ∀ m, (∀ e ∈ m, motive e.2) → motive (.obj m)) :
    ∀ m : List (String × Json), ∀ e ∈ m, motive e.2
  | [], _, h => (nomatch h)
  | (k, v) :: m, e, h => by
    cases List.mem_cons.mp h with
    | inl heq => exact heq ▸ nodes leaf arr obj v
    | inr htail => exact nodesMembers leaf arr obj m e htail
end

theorem every_leaf {j : Json} (harr : ∀ xs, j ≠ .arr xs) (hobj : ∀ m, j ≠ .obj m) :
    Every P j ↔ P j := by
  cases j with
  | arr xs => exact absurd rfl (harr xs)
  | obj m => exact absurd rfl (hobj m)
  | _ => rfl

theorem Every.mono (hPQ : ∀ j, P j → Q j) {j : Json} (h : Every P j) : Every Q j := by
  induction j using nodes with
  | leaf j harr hobj => exact (every_leaf harr hobj).mpr (hPQ j ((every_leaf harr hobj).mp h))
  | arr xs ih =>
    rw [every_arr] at h ⊢
    exact ⟨hPQ _ h.1, fun x hx => ih x hx (h.2 x hx)⟩
  | obj m ih =>
    rw [every_obj] at h ⊢
    exact ⟨hPQ _ h.1, fun e he => ih e he (h.2 e he)⟩

theorem every_of_forall (h : ∀ j, P j) (j : Json) : Every P j := by
  induction j using nodes with
  | leaf j harr hobj => exact (every_leaf harr hobj).mpr (h j)
  | arr xs ih => exact every_arr.mpr ⟨h _, ih⟩
  | obj m ih => exact every_obj.mpr ⟨h _, ih⟩

/-- Objects have one member for each key. -/
def DistinctKeys : Json → Prop
  | .obj m => (m.map Prod.fst).Nodup
  | _ => True

/-- A property of the members holds of a document put under a key, and of the rest. -/
theorem forall_mem_assign {α : Type*} {p : α → Prop} {key : String} {value : α}
    {m : List (String × α)} (hm : ∀ e ∈ m, p e.2) (hvalue : p value) :
    ∀ e ∈ assign key value m, p e.2 := by
  induction m with
  | nil => simpa [assign] using hvalue
  | cons e m ih =>
    obtain ⟨k, v⟩ := e
    have htail := ih fun e he => hm e (by simp [he])
    unfold assign
    split
    · intro e he
      cases List.mem_cons.mp he with
      | inl heq => exact heq ▸ hvalue
      | inr hmem => exact hm e (by simp [hmem])
    · intro e he
      cases List.mem_cons.mp he with
      | inl heq => exact heq ▸ hm (k, v) (by simp)
      | inr hmem => exact htail e hmem

section Remove
variable {α : Type*}

theorem lookup_remove (key key' : String) (m : List (String × α)) :
    (remove key m).lookup key' = if key' = key then none else m.lookup key' := by
  induction m with
  | nil => simp [remove]
  | cons e m ih =>
    obtain ⟨k, v⟩ := e
    unfold remove at ih ⊢
    rw [List.filter_cons, lookup_cons_if]
    by_cases hk : k = key
    · subst hk
      rw [if_neg (by simp), ih]
      split <;> rfl
    · rw [if_pos (by simpa using hk), lookup_cons_if, ih]
      by_cases hk' : key' = k
      · subst hk'
        simp [hk]
      · simp [hk']

theorem mem_remove {key : String} {m : List (String × α)} {e : String × α} :
    e ∈ remove key m ↔ e ∈ m ∧ e.1 ≠ key := by simp [remove]

theorem nodup_keys_remove (key : String) {m : List (String × α)} (h : (m.map Prod.fst).Nodup) :
    ((remove key m).map Prod.fst).Nodup :=
  h.sublist (List.filter_sublist.map Prod.fst)

/-- A sum over the members after one of them got another value. -/
theorem sum_assign (f : String × α → Nat) {key : String} {m : List (String × α)} {old : α}
    (h : m.lookup key = some old) (value : α) :
    ((assign key value m).map f).sum + f (key, old) = (m.map f).sum + f (key, value) := by
  induction m with
  | nil => cases h
  | cons e m ih =>
    obtain ⟨k, v⟩ := e
    rw [lookup_cons_if] at h
    by_cases hk : key = k
    · subst hk
      rw [if_pos rfl] at h
      cases h
      simp only [assign, if_true, List.map_cons, List.sum_cons]
      omega
    · rw [if_neg hk] at h
      have hrest := ih h
      simp only [assign, if_neg (Ne.symm hk), List.map_cons, List.sum_cons]
      omega

/-- A sum over the members loses what it had of the member that was removed. -/
theorem sum_remove (f : String × α → Nat) {key : String} {m : List (String × α)} {old : α}
    (hkeys : (m.map Prod.fst).Nodup) (h : m.lookup key = some old) :
    ((remove key m).map f).sum + f (key, old) = (m.map f).sum := by
  induction m with
  | nil => cases h
  | cons e m ih =>
    obtain ⟨k, v⟩ := e
    rw [List.map_cons, List.nodup_cons] at hkeys
    rw [lookup_cons_if] at h
    by_cases hk : key = k
    · subst hk
      rw [if_pos rfl] at h
      cases h
      have hrest : remove key m = m := by
        refine List.filter_eq_self.mpr fun e he => decide_eq_true fun heq : e.1 = key => ?_
        exact hkeys.1 (List.mem_map.mpr ⟨e, he, heq⟩)
      have hhead : remove key ((key, old) :: m) = remove key m := List.filter_cons_of_neg (by simp)
      rw [hhead, hrest, List.map_cons, List.sum_cons]
      omega
    · rw [if_neg hk] at h
      have hrest := ih hkeys.2 h
      have hhead : remove key ((k, v) :: m) = (k, v) :: remove key m :=
        List.filter_cons_of_pos (by simpa using Ne.symm hk)
      rw [hhead, List.map_cons, List.map_cons, List.sum_cons, List.sum_cons]
      omega

end Remove

theorem collapseItems_eq (xs : List Json) : collapseItems xs = xs.map collapse := by
  induction xs with
  | nil => rfl
  | cons x xs ih => rw [collapseItems, ih, List.map_cons]

theorem collapseMembers_spec {m done : List (String × Json)} (hm : ∀ e ∈ m, P (collapse e.2))
    (hdone : ∀ e ∈ done, P e.2) (hkeys : (done.map Prod.fst).Nodup) :
    (∀ e ∈ collapseMembers m done, P e.2) ∧ ((collapseMembers m done).map Prod.fst).Nodup := by
  induction m generalizing done with
  | nil => exact ⟨hdone, hkeys⟩
  | cons e m ih =>
    obtain ⟨k, v⟩ := e
    exact ih (fun e he => hm e (by simp [he])) (forall_mem_assign hdone (hm (k, v) (by simp)))
      (nodup_keys_assign k _ hkeys)

/-- What is said of a float or another leaf, and nothing of arrays and objects. -/
def OfLeaf (P : Json → Prop) : Prop := (∀ xs, P (.arr xs)) ∧ ∀ m, P (.obj m)

theorem collapse_leaf {j : Json} (harr : ∀ xs, j ≠ .arr xs) (hobj : ∀ m, j ≠ .obj m) :
    collapse j = j := by
  cases j with
  | arr xs => exact absurd rfl (harr xs)
  | obj m => exact absurd rfl (hobj m)
  | _ => rfl

/-- A collapsed document has distinct keys everywhere, and the leaves that it had. -/
theorem collapse_every (hleaf : OfLeaf P) {j : Json} (h : Every P j) :
    Every (fun j => P j ∧ DistinctKeys j) (collapse j) := by
  induction j using nodes with
  | leaf j harr hobj =>
    rw [collapse_leaf harr hobj, every_leaf harr hobj]
    refine ⟨h.here, ?_⟩
    cases j with
    | obj m => exact absurd rfl (hobj m)
    | _ => trivial
  | arr xs ih =>
    rw [collapse, collapseItems_eq, every_arr]
    refine ⟨⟨hleaf.1 _, trivial⟩, fun x hx => ?_⟩
    obtain ⟨y, hy, rfl⟩ := List.mem_map.mp hx
    exact ih y hy ((every_arr.mp h).2 y hy)
  | obj m ih =>
    rw [collapse, every_obj]
    have hempty : ∀ e ∈ ([] : List (String × Json)), Every (fun j => P j ∧ DistinctKeys j) e.2 := by
      simp
    obtain ⟨hmembers, hkeys⟩ := collapseMembers_spec
      (fun e he => ih e he ((every_obj.mp h).2 e he)) hempty List.nodup_nil
    exact ⟨⟨hleaf.2 _, hkeys⟩, hmembers⟩

theorem collapseMembers_append {m done : List (String × Json)} (hm : ∀ e ∈ m, collapse e.2 = e.2)
    (hkeys : ((done ++ m).map Prod.fst).Nodup) : collapseMembers m done = done ++ m := by
  induction m generalizing done with
  | nil => exact (List.append_nil _).symm
  | cons e m ih =>
    obtain ⟨k, v⟩ := e
    have hnew : k ∉ done.map Prod.fst := by
      rw [List.map_append, List.nodup_append] at hkeys
      exact fun hmem => hkeys.2.2 _ hmem _ (by simp) rfl
    rw [collapseMembers, assign_of_notMem hnew, hm (k, v) (by simp),
      ih (fun e he => hm e (by simp [he])) (by simpa using hkeys), List.append_assoc]
    rfl

/-- With distinct keys there is nothing to collapse. -/
theorem collapse_eq_self {j : Json} (h : Every DistinctKeys j) : collapse j = j := by
  induction j using nodes with
  | leaf j harr hobj => exact collapse_leaf harr hobj
  | arr xs ih =>
    have hitems : xs.map collapse = xs.map id :=
      List.map_congr_left fun x hx => ih x hx ((every_arr.mp h).2 x hx)
    rw [collapse, collapseItems_eq, hitems, List.map_id]
  | obj m ih =>
    obtain ⟨hkeys, hmembers⟩ := every_obj.mp h
    rw [collapse, collapseMembers_append (fun e he => ih e he (hmembers e he)) (by simpa [DistinctKeys] using hkeys)]
    rfl

theorem sortKeys_leaf {j : Json} (harr : ∀ xs, j ≠ .arr xs) (hobj : ∀ m, j ≠ .obj m) :
    sortKeys j = j := by
  cases j with
  | arr xs => exact absurd rfl (harr xs)
  | obj m => exact absurd rfl (hobj m)
  | _ => rfl

/-- Sorting keeps what holds of every node and does not look at the order of the keys. -/
theorem sortKeys_every (harr : ∀ xs, P (.arr xs) → P (.arr (xs.map sortKeys)))
    (hobj : ∀ m m', (m.map Prod.fst).Perm (m'.map Prod.fst) → P (.obj m) → P (.obj m'))
    {j : Json} (h : Every P j) : Every P (sortKeys j) := by
  induction j using nodes with
  | leaf j hnotArr hnotObj => rwa [sortKeys_leaf hnotArr hnotObj]
  | arr xs ih =>
    obtain ⟨hhere, hitems⟩ := every_arr.mp h
    rw [sortKeys_arr, every_arr]
    refine ⟨harr xs hhere, fun x hx => ?_⟩
    obtain ⟨y, hy, rfl⟩ := List.mem_map.mp hx
    exact ih y hy (hitems y hy)
  | obj m ih =>
    obtain ⟨hhere, hmembers⟩ := every_obj.mp h
    rw [sortKeys_obj, every_obj]
    refine ⟨hobj m _ ?_ hhere, fun e he => ?_⟩
    · rw [List.map_map]
      exact ((sortBy_perm Prod.fst m).map Prod.fst).symm
    · obtain ⟨e', he', rfl⟩ := List.mem_map.mp he
      have hmem := (mem_sortBy Prod.fst m e').mp he'
      exact ih e' hmem (hmembers e' hmem)

theorem sortKeys_distinct {j : Json} (h : Every DistinctKeys j) : Every DistinctKeys (sortKeys j) :=
  sortKeys_every (fun _ _ => trivial) (fun _ _ hperm hkeys => hperm.nodup_iff.mp hkeys) h

theorem sortKeys_ofLeaf (hleaf : OfLeaf P) {j : Json} (h : Every P j) : Every P (sortKeys j) :=
  sortKeys_every (fun _ _ => hleaf.1 _) (fun _ _ _ _ => hleaf.2 _) h

section Sorted
variable {m : List (String × Json)}

theorem lookup_map_value {α β : Type*} (f : α → β) (key : String) (m : List (String × α)) :
    (m.map fun e => (e.1, f e.2)).lookup key = (m.lookup key).map f := by
  induction m with
  | nil => rfl
  | cons e m ih =>
    obtain ⟨k, v⟩ := e
    rw [List.map_cons, lookup_cons_if, lookup_cons_if, ih]
    split <;> rfl

/-- A sorted object has the sorted values under the same keys. -/
theorem get?_sortKeys (hkeys : (m.map Prod.fst).Nodup) (key : String) :
    (sortKeys (.obj m)).get? key = (m.lookup key).map sortKeys := by
  rw [sortKeys_obj, get?_obj, lookup_map_value]
  congr 1
  exact (lookup_perm (sortBy_perm Prod.fst m).symm hkeys key).symm

theorem sortKeys_sortKeys (j : Json) : sortKeys (sortKeys j) = sortKeys j := by
  induction j using nodes with
  | leaf j harr hobj => rw [sortKeys_leaf harr hobj, sortKeys_leaf harr hobj]
  | arr xs ih =>
    rw [sortKeys_arr, sortKeys_arr, List.map_map]
    exact congrArg Json.arr (List.map_congr_left ih)
  | obj m ih =>
    have hsorted : sortBy Prod.fst (sortBy Prod.fst m) = sortBy Prod.fst m :=
      sortBy_of_pairwise (sortBy_pairwise Prod.fst m)
    rw [sortKeys_obj, sortKeys_obj, sortBy_map, hsorted, List.map_map]
    refine congrArg Json.obj (List.map_congr_left fun e he => ?_)
    exact Prod.ext rfl (ih e ((mem_sortBy Prod.fst m e).mp he))

end Sorted

/-- A text stands somewhere in the document, as a value or as a key. -/
inductive Mentions (needle : String) : Json → Prop
  | text : Mentions needle (.str needle)
  | item {xs : List Json} {x : Json} : x ∈ xs → Mentions needle x → Mentions needle (.arr xs)
  | key {m : List (String × Json)} {v : Json} : (needle, v) ∈ m → Mentions needle (.obj m)
  | value {m : List (String × Json)} {e : String × Json} :
    e ∈ m → Mentions needle e.2 → Mentions needle (.obj m)

theorem mentions_arr {needle : String} {xs : List Json} :
    Mentions needle (.arr xs) ↔ ∃ x ∈ xs, Mentions needle x := by
  constructor
  · intro h
    cases h with
    | item hx hmentions => exact ⟨_, hx, hmentions⟩
  · rintro ⟨x, hx, hmentions⟩
    exact .item hx hmentions

theorem mentions_obj {needle : String} {m : List (String × Json)} :
    Mentions needle (.obj m) ↔ ∃ e ∈ m, e.1 = needle ∨ Mentions needle e.2 := by
  constructor
  · intro h
    cases h with
    | key hmem => exact ⟨_, hmem, .inl rfl⟩
    | value he hmentions => exact ⟨_, he, .inr hmentions⟩
  · rintro ⟨⟨k, v⟩, he, heq | hmentions⟩
    · cases heq
      exact .key he
    · exact .value he hmentions

end Json
end Library
