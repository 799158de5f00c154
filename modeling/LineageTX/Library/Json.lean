import LineageTX.Library.Ordered
import Mathlib.Data.String.Basic

/-! JSON documents as a parser hands them over: objects list their members in
insertion order, numbers keep integers apart from floats, and a float is the
text that a printer writes for it. -/
namespace Library

/-- Characters that may stand inside a number or a literal. -/
def tokenChar (c : Char) : Bool :=
  c.isAlphanum || c == '+' || c == '-' || c == '.'

/-- A float's text: token characters, not the shape of an integer, and not
headed like `null`, `true` or `false`. -/
def isFloatText (s : String) : Bool :=
  s.toList.all tokenChar && s.toList.any (fun c => !(c.isDigit || c == '-')) &&
    !(['n', 't', 'f'].contains (s.toList.headD 'n'))

abbrev FloatText := { s : String // isFloatText s = true }

inductive Json where
  | null
  | bool (b : Bool)
  | int (n : Int)
  | float (r : FloatText)
  | str (s : String)
  | arr (items : List Json)
  | obj (members : List (String × Json))

namespace Json

instance : Inhabited Json := ⟨.null⟩

mutual
def decEq : (a b : Json) → Decidable (a = b)
  | .null, b => by cases b <;> first | exact isTrue rfl | exact isFalse (by simp)
  | .bool x, b => by
    cases b with
    | bool y => exact decidable_of_iff (x = y) (by simp)
    | _ => exact isFalse (by simp)
  | .int x, b => by
    cases b with
    | int y => exact decidable_of_iff (x = y) (by simp)
    | _ => exact isFalse (by simp)
  | .float x, b => by
    cases b with
    | float y => exact decidable_of_iff (x = y) (by simp)
    | _ => exact isFalse (by simp)
  | .str x, b => by
    cases b with
    | str y => exact decidable_of_iff (x = y) (by simp)
    | _ => exact isFalse (by simp)
  | .arr x, b => by
    cases b with
    | arr y =>
      haveI := decEqItems x y
      exact decidable_of_iff (x = y) (by simp)
    | _ => exact isFalse (by simp)
  | .obj x, b => by
    cases b with
    | obj y =>
      haveI := decEqMembers x y
      exact decidable_of_iff (x = y) (by simp)
    | _ => exact isFalse (by simp)
def decEqItems : (a b : List Json) → Decidable (a = b)
  | [], [] => isTrue rfl
  | [], _ :: _ => isFalse (by simp)
  | _ :: _, [] => isFalse (by simp)
  | x :: xs, y :: ys =>
    haveI := decEq x y
    haveI := decEqItems xs ys
    decidable_of_iff (x = y ∧ xs = ys) (by simp)
def decEqMembers : (a b : List (String × Json)) → Decidable (a = b)
  | [], [] => isTrue rfl
  | [], _ :: _ => isFalse (by simp)
  | _ :: _, [] => isFalse (by simp)
  | (k, x) :: xs, (l, y) :: ys =>
    haveI := decEq x y
    haveI := decEqMembers xs ys
    decidable_of_iff (k = l ∧ x = y ∧ xs = ys) (by simp [and_assoc])
end

instance : DecidableEq Json := decEq

/-- Assignment keeps the place of an existing key and appends a new one. -/
def assign {α : Type*} (key : String) (value : α) : List (String × α) → List (String × α)
  | [] => [(key, value)]
  | (k, v) :: rest =>
    if k = key then (k, value) :: rest else (k, v) :: assign key value rest

def remove {α : Type*} (key : String) (m : List (String × α)) : List (String × α) :=
  m.filter fun e => e.1 ≠ key

/-- The value under a key, none for a document that is not an object. -/
def get? (key : String) : Json → Option Json
  | .obj m => m.lookup key
  | _ => none

def set (j : Json) (key : String) (value : Json) : Json :=
  match j with
  | .obj m => .obj (assign key value m)
  | j => j

@[simp] theorem get?_obj (key : String) (m : List (String × Json)) :
    (Json.obj m).get? key = m.lookup key := rfl

@[simp] theorem set_obj (m : List (String × Json)) (key : String) (v : Json) :
    (Json.obj m).set key v = .obj (assign key v m) := rfl

section Dictionary
variable {α : Type*}

theorem lookup_cons_if (key k : String) (v : α) (m : List (String × α)) :
    ((k, v) :: m).lookup key = if key = k then some v else m.lookup key := by
  by_cases h : key = k
  · subst h; simp
  · simp [List.lookup_cons, beq_false_of_ne h, h]

theorem lookup_assign (key key' : String) (v : α) (m : List (String × α)) :
    (assign key v m).lookup key' = if key' = key then some v else m.lookup key' := by
  induction m with
  | nil => simp [assign, lookup_cons_if]
  | cons e rest ih =>
    obtain ⟨k, w⟩ := e
    by_cases hk : k = key
    · subst hk
      by_cases h : key' = k <;> simp [assign, lookup_cons_if, h]
    · simp only [assign, hk, if_false, lookup_cons_if, ih]
      by_cases hk' : key' = k
      · subst hk'; simp [hk]
      · simp [hk']

/-- Setting one key leaves the others. -/
theorem get?_set_of_ne {key key' : String} (h : key' ≠ key) (j v : Json) :
    (j.set key v).get? key' = j.get? key' := by
  cases j with
  | obj m => simp [lookup_assign, h]
  | _ => rfl

theorem keys_assign (key : String) (v : α) (m : List (String × α)) :
    (assign key v m).map Prod.fst =
      if key ∈ m.map Prod.fst then m.map Prod.fst else m.map Prod.fst ++ [key] := by
  induction m with
  | nil => simp [assign]
  | cons e rest ih =>
    obtain ⟨k, w⟩ := e
    by_cases h : k = key
    · simp [assign, h]
    · have h' : key ≠ k := Ne.symm h
      simp only [assign, h, if_false, List.map_cons, ih, List.mem_cons, h', false_or]
      split <;> rfl

/-- An absent key is appended. -/
theorem assign_of_notMem {key : String} {m : List (String × α)} (h : key ∉ m.map Prod.fst) (v : α) :
    assign key v m = m ++ [(key, v)] := by
  induction m with
  | nil => rfl
  | cons e rest ih =>
    obtain ⟨k, w⟩ := e
    simp only [List.map_cons, List.mem_cons, not_or] at h
    rw [assign, if_neg (Ne.symm h.1), ih h.2, List.cons_append]

theorem map_assign {β : Type*} (f : α → β) (key : String) (v : α) (m : List (String × α)) :
    (assign key v m).map (fun e => (e.1, f e.2)) =
      assign key (f v) (m.map fun e => (e.1, f e.2)) := by
  induction m with
  | nil => rfl
  | cons e rest ih =>
    obtain ⟨k, w⟩ := e
    simp only [assign, List.map_cons]
    split
    · rfl
    · rw [List.map_cons, ih]

theorem nodup_keys_assign (key : String) (v : α) {m : List (String × α)}
    (h : (m.map Prod.fst).Nodup) : ((assign key v m).map Prod.fst).Nodup := by
  rw [keys_assign]
  split
  · exact h
  · next hn => exact List.nodup_append.mpr ⟨h, by simp, by simpa using fun a b hb he => hn (by
      simpa using ⟨b, he ▸ hb⟩)⟩

theorem lookup_of_mem {m : List (String × α)} (h : (m.map Prod.fst).Nodup)
    {k : String} {v : α} (hm : (k, v) ∈ m) : m.lookup k = some v := by
  induction m with
  | nil => simp at hm
  | cons e rest ih =>
    obtain ⟨k', w⟩ := e
    simp only [List.map_cons, List.nodup_cons] at h
    rcases List.mem_cons.mp hm with he | hr
    · obtain ⟨rfl, rfl⟩ := Prod.mk.inj he; simp
    · have hne : k ≠ k' := fun he => h.1 (he ▸ List.mem_map_of_mem hr)
      simpa [lookup_cons_if, hne] using ih h.2 hr

theorem mem_of_lookup {m : List (String × α)} {k : String} {v : α}
    (h : m.lookup k = some v) : (k, v) ∈ m := by
  obtain ⟨l₁, l₂, rfl, -⟩ := List.lookup_eq_some_iff.mp h
  simp

/-- Lookup does not see the order of members with distinct keys. -/
theorem lookup_perm {m m' : List (String × α)} (h : m.Perm m')
    (hn : (m.map Prod.fst).Nodup) (k : String) : m.lookup k = m'.lookup k := by
  have hn' : (m'.map Prod.fst).Nodup := (h.map Prod.fst).nodup_iff.mp hn
  cases hl : m.lookup k with
  | some v => exact (lookup_of_mem hn' (h.mem_iff.mp (mem_of_lookup hl))).symm
  | none =>
    cases hl' : m'.lookup k with
    | none => rfl
    | some v => simp [lookup_of_mem hn (h.mem_iff.mpr (mem_of_lookup hl'))] at hl

end Dictionary

mutual
/-- The document with the members of every object in key order. -/
def sortKeys : Json → Json
  | .arr xs => .arr (sortItems xs)
  | .obj m => .obj (sortBy Prod.fst (sortMembers m))
  | j => j
def sortItems : List Json → List Json
  | [] => []
  | x :: xs => sortKeys x :: sortItems xs
def sortMembers : List (String × Json) → List (String × Json)
  | [] => []
  | (k, v) :: m => (k, sortKeys v) :: sortMembers m
end

mutual
/-- The document with one member for each key, the last of a repeated key. -/
def collapse : Json → Json
  | .arr xs => .arr (collapseItems xs)
  | .obj m => .obj (collapseMembers m [])
  | j => j
def collapseItems : List Json → List Json
  | [] => []
  | x :: xs => collapse x :: collapseItems xs
def collapseMembers : List (String × Json) → List (String × Json) → List (String × Json)
  | [], done => done
  | (k, v) :: m, done => collapseMembers m (assign k (collapse v) done)
end

theorem sortItems_eq (xs : List Json) : sortItems xs = xs.map sortKeys := by
  induction xs with
  | nil => rfl
  | cons x xs ih => simp [sortItems, ih]

theorem sortMembers_eq (m : List (String × Json)) :
    sortMembers m = m.map fun e => (e.1, sortKeys e.2) := by
  induction m with
  | nil => rfl
  | cons e m ih => obtain ⟨k, v⟩ := e; simp [sortMembers, ih]

theorem sortKeys_arr (xs : List Json) : sortKeys (.arr xs) = .arr (xs.map sortKeys) := by
  simp [sortKeys, sortItems_eq]

theorem sortKeys_obj (m : List (String × Json)) :
    sortKeys (.obj m) = .obj ((sortBy Prod.fst m).map fun e => (e.1, sortKeys e.2)) := by
  simp only [sortKeys, sortMembers_eq, sortBy_map]

theorem eq_of_key_eq {α : Type*} {m : List (String × α)} (hn : (m.map Prod.fst).Nodup) :
    ∀ a ∈ m, ∀ b ∈ m, a.1 = b.1 → a = b := by
  intro a ha b hb he
  have h1 := lookup_of_mem hn ha
  have h2 := lookup_of_mem hn hb
  rw [he, h2] at h1
  exact Prod.ext he (Option.some.inj h1).symm

/-- Sorted documents do not remember the order in which members were inserted. -/
theorem sortKeys_obj_perm {m m' : List (String × Json)} (h : m.Perm m')
    (hn : (m.map Prod.fst).Nodup) : sortKeys (.obj m) = sortKeys (.obj m') := by
  rw [sortKeys_obj, sortKeys_obj, sortBy_eq_of_perm Prod.fst h (eq_of_key_eq hn)]

/-- A member is printed only through its own sorted document. -/
theorem sortKeys_set {j v v' : Json} {key : String} (h : sortKeys v = sortKeys v') :
    sortKeys (j.set key v) = sortKeys (j.set key v') := by
  cases j with
  | obj m => rw [set_obj, set_obj, sortKeys, sortKeys, sortMembers_eq, sortMembers_eq, map_assign,
      map_assign, h]
  | _ => rfl

end Json
end Library
