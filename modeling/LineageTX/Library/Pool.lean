import LineageTX.Library.Prog
import LineageTX.Library.Runs

/-! Any number of programs over one world, in every order of their calls. Programs
that keep their contracts keep them together if no call breaks what another relies on. -/
namespace Library
variable {ε Op World Moment ι κ α : Type} {Reply : Op → Type}

/-- A thread is known by its position; one that was replaced is gone for good. -/
structure Pool (ε World ι α : Type) {Op : Type} (Reply : Op → Type) where
  world : World
  threads : List (ι × Option (Prog ε Reply α)) := []

/-- Start a program, let one thread make its next call, or replace what `κ` names. -/
inductive Choice (Moment ι κ : Type) where
  | start (i : ι)
  | act (n : Nat) (m : Moment)
  | replace (k : κ)

/-- How calls are answered, which programs there are, which threads may go on. -/
structure System (ε World Moment ι κ α : Type) {Op : Type} (Reply : Op → Type) where
  perform : Nat → ι → Moment → World → (op : Op) → Except ε (Reply op) × World
  program : ι → Prog ε Reply α
  ready : Pool ε World ι α Reply → Nat → Bool
  replace : κ → World → World
  replaced : κ → ι → Bool

namespace Pool

/-- The next call of a thread. -/
def waits (pool : Pool ε World ι α Reply) (n : Nat) :
    Option (ι × (op : Op) × (Except ε (Reply op) → Prog ε Reply α)) :=
  match pool.threads[n]? with
  | some (i, some (.call op next)) => some (i, ⟨op, next⟩)
  | _ => none

theorem waits_eq_some {pool : Pool ε World ι α Reply} {n : Nat} {i : ι} {op : Op}
    {next : Except ε (Reply op) → Prog ε Reply α} :
    pool.waits n = some (i, ⟨op, next⟩) ↔ pool.threads[n]? = some (i, some (.call op next)) := by
  unfold waits
  split
  · next h => simp [h]
  · next h =>
    constructor
    · exact fun he => (nomatch he)
    · exact fun he => absurd he (h _ _ _)

def step (sys : System ε World Moment ι κ α Reply) (pool : Pool ε World ι α Reply) :
    Choice Moment ι κ → Pool ε World ι α Reply
  | .start i => { pool with threads := pool.threads ++ [(i, some (sys.program i))] }
  | .act n m =>
    match pool.waits n with
    | some (i, ⟨op, next⟩) =>
      if sys.ready pool n then
        { world := (sys.perform n i m pool.world op).2
          threads := pool.threads.set n (i, some (next (sys.perform n i m pool.world op).1)) }
      else pool
    | none => pool
  | .replace k => {
      world := sys.replace k pool.world
      threads := pool.threads.map fun t => if sys.replaced k t.1 then (t.1, none) else t }

end Pool

/-- Contracts that the programs keep and that fit together, in the runs whose choices
are allowed. -/
structure System.Sound (sys : System ε World Moment ι κ α Reply)
    (contract : Nat → ι → Contract World ε Reply) (inv : World → Prop)
    (allowed : Pool ε World ι α Reply → Choice Moment ι κ → Prop) : Prop where
  same : ∀ n i, (contract n i).inv = inv
  refl : ∀ n i op w, (contract n i).rely op w w
  trans : ∀ n i op w w₁ w₂, (contract n i).rely op w w₁ → (contract n i).rely op w₁ w₂ →
    (contract n i).rely op w w₂
  start : ∀ n i w, inv w → (sys.program i).Guarded (contract n i) (fun _ _ => True) w
  can : ∀ pool n i op next m, pool.waits n = some (i, ⟨op, next⟩) → sys.ready pool n = true →
    allowed pool (.act n m) → inv pool.world → (contract n i).pre pool.world op →
    (contract n i).can pool.world op (sys.perform n i m pool.world op).1
      (sys.perform n i m pool.world op).2
  keeps : ∀ pool n i op next m, pool.waits n = some (i, ⟨op, next⟩) → sys.ready pool n = true →
    allowed pool (.act n m) → inv pool.world → (contract n i).pre pool.world op →
    inv (sys.perform n i m pool.world op).2
  others : ∀ pool n i op next m, pool.waits n = some (i, ⟨op, next⟩) → sys.ready pool n = true →
    allowed pool (.act n m) → inv pool.world → (contract n i).pre pool.world op →
    ∀ n' i' op' next', n' ≠ n → pool.waits n' = some (i', ⟨op', next'⟩) →
      (contract n' i').rely op' pool.world (sys.perform n i m pool.world op).2
  replace : ∀ pool k, allowed pool (.replace k) → inv pool.world →
    inv (sys.replace k pool.world) ∧ ∀ n i op next, sys.replaced k i = false →
      pool.waits n = some (i, ⟨op, next⟩) →
      (contract n i).rely op pool.world (sys.replace k pool.world)

namespace System.Sound
variable {sys : System ε World Moment ι κ α Reply} {contract : Nat → ι → Contract World ε Reply}
  {inv : World → Prop} {allowed : Pool ε World ι α Reply → Choice Moment ι κ → Prop}

/-- The invariant, and every thread guarded by its contract. -/
def Good (contract : Nat → ι → Contract World ε Reply) (inv : World → Prop)
    (pool : Pool ε World ι α Reply) : Prop :=
  inv pool.world ∧ ∀ n i (prog : Prog ε Reply α), pool.threads[n]? = some (i, some prog) →
    prog.Guarded (contract n i) (fun _ _ => True) pool.world

/-- A thread that is about to make a call finds what its contract demands. -/
theorem pre_of_good (hs : sys.Sound contract inv allowed) {pool : Pool ε World ι α Reply}
    (hg : Good contract inv pool) {n : Nat} {i : ι} {op : Op}
    {next : Except ε (Reply op) → Prog ε Reply α} (hn : pool.waits n = some (i, ⟨op, next⟩)) :
    (contract n i).pre pool.world op :=
  (hg.2 n i _ (Pool.waits_eq_some.mp hn) pool.world (hs.refl n i op _)
    (by rw [hs.same]; exact hg.1)).1

/-- A thread that did not act stays guarded in a world that it can rely on. -/
theorem guarded_of_rely (hs : sys.Sound contract inv allowed) {pool : Pool ε World ι α Reply}
    {w : World} {n : Nat} {i : ι} {prog : Prog ε Reply α}
    (hrely : ∀ op next, pool.waits n = some (i, ⟨op, next⟩) → (contract n i).rely op pool.world w)
    (ht : pool.threads[n]? = some (i, some prog))
    (hg : prog.Guarded (contract n i) (fun _ _ => True) pool.world) :
    prog.Guarded (contract n i) (fun _ _ => True) w := by
  cases prog with
  | done r => trivial
  | call op next =>
    have hr := hrely op next (Pool.waits_eq_some.mpr ht)
    exact hg.of_rely fun w₁ h₁ => hs.trans n i op _ _ _ hr h₁

theorem good_step (hs : sys.Sound contract inv allowed) {pool : Pool ε World ι α Reply}
    {choice : Choice Moment ι κ} (hallowed : allowed pool choice) (hg : Good contract inv pool) :
    Good contract inv (pool.step sys choice) := by
  cases choice with
  | start i =>
    refine ⟨hg.1, fun n j prog hn => ?_⟩
    simp only [Pool.step, List.getElem?_append] at hn
    split at hn
    · exact hg.2 n j prog hn
    · obtain ⟨⟩ := List.mem_singleton.mp (List.mem_of_getElem? hn)
      exact hs.start n i pool.world hg.1
  | act n m =>
    simp only [Pool.step]
    split
    · next i op next hn =>
      by_cases hready : sys.ready pool n = true
      · rw [if_pos hready]
        have hpre := hs.pre_of_good hg hn
        refine ⟨hs.keeps pool n i op next m hn hready hallowed hg.1 hpre, fun n' j prog hn' => ?_⟩
        have hinv : (contract n i).inv pool.world := by rw [hs.same]; exact hg.1
        by_cases hne : n' = n
        · subst hne
          have hlt : n' < pool.threads.length :=
            (List.getElem?_eq_some_iff.mp (Pool.waits_eq_some.mp hn)).1
          simp only [List.getElem?_set_self hlt, Option.some.injEq, Prod.mk.injEq] at hn'
          obtain ⟨rfl, rfl⟩ := hn'
          exact (hg.2 n' i _ (Pool.waits_eq_some.mp hn) pool.world (hs.refl n' i op _) hinv).2 _ _
            (hs.can pool n' i op next m hn hready hallowed hg.1 hpre)
        · simp only [List.getElem?_set_ne (Ne.symm hne)] at hn'
          exact hs.guarded_of_rely (fun op' next' hw =>
            hs.others pool n i op next m hn hready hallowed hg.1 hpre n' j op' next' hne hw) hn'
              (hg.2 n' j prog hn')
      · rw [if_neg hready]
        exact hg
    · exact hg
  | replace k =>
    obtain ⟨hinv, hrely⟩ := hs.replace pool k hallowed hg.1
    refine ⟨hinv, fun n j prog hn => ?_⟩
    simp only [Pool.step, List.getElem?_map, Option.map_eq_some_iff] at hn
    obtain ⟨t, ht, hsplit⟩ := hn
    split at hsplit
    · cases hsplit
    · next hk =>
      subst hsplit
      have hk' : sys.replaced k j = false := by simpa using hk
      exact hs.guarded_of_rely (fun op next hw => hrely n j op next hk' hw) ht (hg.2 n j prog ht)

/-- In a run of allowed choices every state is good. -/
theorem good_run (hs : sys.Sound contract inv allowed) {pool : Pool ε World ι α Reply}
    (hg : Good contract inv pool) {choices : List (Choice Moment ι κ)}
    (hc : CallsMeet (Pool.step sys) allowed pool choices) :
    StatesMeet (Pool.step sys) (Good contract inv) pool choices :=
  StatesMeet.of_callsMeet hg (fun _ _ _ hP hQ => hs.good_step hQ hP) hc

theorem good_init {w : World} (hw : inv w) : Good contract inv ({ world := w } : Pool ε World ι α Reply) :=
  ⟨hw, by simp⟩

end System.Sound
end Library
