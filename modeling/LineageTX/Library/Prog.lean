import Mathlib.Data.List.Basic

/-! Programs that do nothing but call operations answered from outside, and rules
for what holds at each call while other programs run in between. -/
namespace Library
variable {ε Op World α β : Type} {Reply : Op → Type}

/-- A program is done, with a value or an exception, or waits for the reply to a call. -/
inductive Prog (ε : Type) {Op : Type} (Reply : Op → Type) (α : Type) where
  | done (result : Except ε α)
  | call (op : Op) (next : Except ε (Reply op) → Prog ε Reply α)

namespace Prog

/-- Goes on with whatever the first program ends in. -/
def andThen : Prog ε Reply α → (Except ε α → Prog ε Reply β) → Prog ε Reply β
  | .done r, f => f r
  | .call op next, f => .call op fun r => (next r).andThen f

/-- One call, and its reply. -/
def perform (op : Op) : Prog ε Reply (Reply op) := .call op .done

/-- Goes on with the value; an exception ends the program. -/
def onValue (f : α → Prog ε Reply β) : Except ε α → Prog ε Reply β
  | .ok a => f a
  | .error e => .done (.error e)

/-- Goes on with the exception; a value ends the program. -/
def onError (f : ε → Prog ε Reply α) : Except ε α → Prog ε Reply α
  | .ok a => .done (.ok a)
  | .error e => f e

/-- The ending of a program as a value. -/
def attempt (p : Prog ε Reply α) : Prog ε Reply (Except ε α) := p.andThen fun r => .done (.ok r)

instance : Monad (Prog ε Reply) where
  pure a := .done (.ok a)
  bind p f := p.andThen (onValue f)

instance : MonadExcept ε (Prog ε Reply) where
  throw e := .done (.error e)
  tryCatch p f := p.andThen (onError f)

instance : MonadLift (Except ε) (Prog ε Reply) where
  monadLift r := .done r

/-- A program that is run in one case only. -/
def onlyWhen (applies : Prop) [Decidable applies] (p : Prog ε Reply Unit) : Prog ε Reply Unit :=
  if applies then p else pure ()

theorem bind_eq (p : Prog ε Reply α) (f : α → Prog ε Reply β) :
    p >>= f = p.andThen (onValue f) := rfl

theorem tryCatch_eq (p : Prog ε Reply α) (f : ε → Prog ε Reply α) :
    tryCatch p f = p.andThen (onError f) := rfl

/-- Every call that the program can make, whatever the replies, meets `P`. -/
def Calls (P : Op → Prop) : Prog ε Reply α → Prop
  | .done _ => True
  | .call op next => P op ∧ ∀ r, (next r).Calls P

section Calls
variable {P Q : Op → Prop} {p : Prog ε Reply α}

@[simp] theorem calls_done (r : Except ε α) : (done r : Prog ε Reply α).Calls P := trivial

@[simp] theorem calls_pure (a : α) : (pure a : Prog ε Reply α).Calls P := trivial

@[simp] theorem calls_throw (e : ε) : (throw e : Prog ε Reply α).Calls P := trivial

@[simp] theorem calls_lift (r : Except ε α) : (liftM r : Prog ε Reply α).Calls P := trivial

@[simp] theorem calls_perform {op : Op} : (perform op : Prog ε Reply (Reply op)).Calls P ↔ P op := by
  simp [perform, Calls]

theorem calls_of_forall (h : ∀ op, P op) : p.Calls P := by
  induction p with
  | done r => trivial
  | call op next ih => exact ⟨h op, ih⟩

theorem Calls.mono (hPQ : ∀ op, P op → Q op) (h : p.Calls P) : p.Calls Q := by
  induction p with
  | done r => trivial
  | call op next ih => exact ⟨hPQ op h.1, fun r => ih r (h.2 r)⟩

theorem Calls.andThen {f : Except ε α → Prog ε Reply β} (h : p.Calls P) (hf : ∀ r, (f r).Calls P) :
    (p.andThen f).Calls P := by
  induction p with
  | done r => exact hf r
  | call op next ih => exact ⟨h.1, fun r => ih r (h.2 r)⟩

theorem Calls.bind {f : α → Prog ε Reply β} (h : p.Calls P) (hf : ∀ a, (f a).Calls P) :
    (p >>= f).Calls P := by
  refine h.andThen fun r => ?_
  cases r with
  | ok a => exact hf a
  | error e => trivial

theorem Calls.tryCatch {f : ε → Prog ε Reply α} (h : p.Calls P) (hf : ∀ e, (f e).Calls P) :
    (tryCatch p f).Calls P := by
  refine h.andThen fun r => ?_
  cases r with
  | ok a => trivial
  | error e => exact hf e

theorem Calls.attempt (h : p.Calls P) : p.attempt.Calls P := h.andThen fun _ => trivial

theorem Calls.forM {γ : Type} {f : γ → Prog ε Reply PUnit} (l : List γ) (hf : ∀ x ∈ l, (f x).Calls P) :
    (l.forM f).Calls P := by
  induction l with
  | nil => trivial
  | cons x l ih =>
    exact (hf x (by simp)).bind fun _ => ih fun y hy => hf y (by simp [hy])

theorem Calls.mapM {γ : Type} {f : γ → Prog ε Reply β} (l : List γ) (hf : ∀ x ∈ l, (f x).Calls P) :
    (l.mapM f).Calls P := by
  have hloop : ∀ (l : List γ) (done : List β), (∀ x ∈ l, (f x).Calls P) →
      (List.mapM.loop f l done).Calls P := by
    intro l
    induction l with
    | nil => exact fun done _ => trivial
    | cons x l ih =>
      intro done hl
      exact (hl x (by simp)).bind fun y => ih _ fun z hz => hl z (by simp [hz])
  exact hloop l [] hf

theorem Calls.onlyWhen {applies : Prop} [Decidable applies] {p : Prog ε Reply Unit}
    (h : applies → p.Calls P) : (onlyWhen applies p).Calls P := by
  unfold Prog.onlyWhen
  split
  · next happlies => exact h happlies
  · trivial

theorem Calls.ite {c : Prop} [Decidable c] {q : Prog ε Reply α} (hp : p.Calls P) (hq : q.Calls P) :
    (if c then p else q).Calls P := by
  split
  · exact hp
  · exact hq

end Calls

/-- Every ending of the program, whatever the replies, meets `Q`. -/
def Ends (Q : Except ε α → Prop) : Prog ε Reply α → Prop
  | .done r => Q r
  | .call _ next => ∀ r, (next r).Ends Q

section Ends
variable {Q Q' : Except ε α → Prop} {p : Prog ε Reply α}

@[simp] theorem ends_pure (a : α) : (pure a : Prog ε Reply α).Ends Q ↔ Q (.ok a) := Iff.rfl

theorem Ends.mono (hQ : ∀ r, Q r → Q' r) (h : p.Ends Q) : p.Ends Q' := by
  induction p with
  | done r => exact hQ r h
  | call op next ih => exact fun r => ih r (h r)

theorem Ends.andThen {R : Except ε β → Prop} {f : Except ε α → Prog ε Reply β} (h : p.Ends Q)
    (hf : ∀ r, Q r → (f r).Ends R) : (p.andThen f).Ends R := by
  induction p with
  | done r => exact hf r h
  | call op next ih => exact fun r => ih r (h r)

theorem Ends.bind {R : Except ε β → Prop} {f : α → Prog ε Reply β} (h : p.Ends Q)
    (herror : ∀ e, Q (.error e) → R (.error e)) (hf : ∀ a, Q (.ok a) → (f a).Ends R) :
    (p >>= f).Ends R := by
  refine h.andThen fun r hr => ?_
  cases r with
  | ok a => exact hf a hr
  | error e => exact herror e hr

theorem ends_of_forall (h : ∀ r, Q r) : p.Ends Q := by
  induction p with
  | done r => exact h r
  | call op next ih => exact fun r => ih r

theorem Ends.tryCatch {f : ε → Prog ε Reply α} (h : p.Ends fun r => ∀ a, r = .ok a → Q (.ok a))
    (hf : ∀ e, (f e).Ends Q) : (tryCatch p f).Ends Q := by
  refine h.andThen fun r hr => ?_
  cases r with
  | ok a => exact hr a rfl
  | error e => exact hf e

/-- Goes on after an attempt, which does not fail itself. -/
theorem Ends.attempt_bind {R : Except ε β → Prop} {f : Except ε α → Prog ε Reply β}
    (hf : ∀ r, (f r).Ends R) : (p.attempt >>= f).Ends R := by
  have hp : p.attempt.Ends fun r => ∃ r₁, r = .ok r₁ := by
    refine Ends.andThen (Q := fun _ => True) ?_ fun r _ => ⟨r, rfl⟩
    induction p with
    | done r => trivial
    | call op next ih => exact fun r => ih r
  refine hp.bind (fun e ⟨r₁, he⟩ => by cases he) fun a _ => hf a

end Ends

end Prog

/-- What a program may assume and must respect: an invariant of the world, what others
may do before its next call, what must hold at a call, and what a call may do. -/
structure Contract (World ε : Type) {Op : Type} (Reply : Op → Type) where
  inv : World → Prop
  rely : Op → World → World → Prop
  pre : World → Op → Prop
  can : World → (op : Op) → Except ε (Reply op) → World → Prop

/-- The contract of a program that runs against a server with nobody in between. -/
def Contract.alone (serve : World → (op : Op) → Except ε (Reply op) → World → Prop)
    (pre : World → Op → Prop) : Contract World ε Reply where
  inv _ := True
  rely _ w w' := w' = w
  pre
  can := serve

/-- A result whose value meets `Q`, or an exception in a case that `E` describes. -/
def Told (E : Prop) (Q : α → Prop) : Except ε α → Prop
  | .ok a => Q a
  | .error _ => E

theorem Told.mono {E E' : Prop} {Q Q' : α → Prop} {r : Except ε α} (h : Told E Q r) (hE : E → E')
    (hQ : ∀ a, Q a → Q' a) : Told E' Q' r := by
  cases r with
  | ok a => exact hQ a h
  | error e => exact hE h

namespace Prog
variable {c : Contract World ε Reply} {post post' : Except ε α → World → Prop} {w : World}

/-- Every call finds what the contract demands, and the end meets `post`. -/
def Guarded (c : Contract World ε Reply) (post : Except ε α → World → Prop) :
    Prog ε Reply α → World → Prop
  | .done r, w => post r w
  | .call op next, w => ∀ w₁, c.rely op w w₁ → c.inv w₁ →
      c.pre w₁ op ∧ ∀ r w₂, c.can w₁ op r w₂ → (next r).Guarded c post w₂

theorem Guarded.mono {p : Prog ε Reply α} (hpost : ∀ r w, post r w → post' r w)
    (h : p.Guarded c post w) : p.Guarded c post' w := by
  induction p generalizing w with
  | done r => exact hpost r w h
  | call op next ih =>
    intro w₁ hrely hinv
    obtain ⟨hpre, hnext⟩ := h w₁ hrely hinv
    exact ⟨hpre, fun r w₂ hcan => ih r (hnext r w₂ hcan)⟩

/-- A program that keeps a contract keeps one that assumes more and asks for less. -/
theorem Guarded.weaken {c' : Contract World ε Reply} {p : Prog ε Reply α}
    (hrely : ∀ op w w', c'.rely op w w' → c.rely op w w') (hinv : ∀ w, c'.inv w → c.inv w)
    (hpre : ∀ w op, c'.inv w → c.pre w op → c'.pre w op)
    (hcan : ∀ w op r w', c'.can w op r w' → c.can w op r w') (h : p.Guarded c post w) :
    p.Guarded c' post w := by
  induction p generalizing w with
  | done r => exact h
  | call op next ih =>
    intro w₁ hr hi
    obtain ⟨hp, hnext⟩ := h w₁ (hrely op w w₁ hr) (hinv w₁ hi)
    exact ⟨hpre w₁ op hi hp, fun r w₂ h₂ => ih r (hnext r w₂ (hcan _ _ _ _ h₂))⟩

theorem Guarded.andThen {p : Prog ε Reply α} {f : Except ε α → Prog ε Reply β}
    {post : Except ε β → World → Prop} (h : p.Guarded c (fun r w => (f r).Guarded c post w) w) :
    (p.andThen f).Guarded c post w := by
  induction p generalizing w with
  | done r => exact h
  | call op next ih =>
    intro w₁ hrely hinv
    obtain ⟨hpre, hnext⟩ := h w₁ hrely hinv
    exact ⟨hpre, fun r w₂ hcan => ih r (hnext r w₂ hcan)⟩

/-- What holds of every ending, whatever the replies, holds of a guarded one. -/
theorem Guarded.and_ends {p : Prog ε Reply α} {Q : Except ε α → Prop} (h : p.Guarded c post w)
    (hends : p.Ends Q) : p.Guarded c (fun r w => post r w ∧ Q r) w := by
  induction p generalizing w with
  | done r => exact ⟨h, hends⟩
  | call op next ih =>
    intro w₁ hrely hinv
    obtain ⟨hpre, hnext⟩ := h w₁ hrely hinv
    exact ⟨hpre, fun r w₂ hcan => ih r (hnext r w₂ hcan) (hends r)⟩

/-- The rule of sequence: an exception of the first part ends the program. -/
theorem Guarded.bind {p : Prog ε Reply α} {f : α → Prog ε Reply β}
    {post : Except ε β → World → Prop}
    (h : p.Guarded c (fun r w => match r with
      | .ok a => (f a).Guarded c post w
      | .error e => post (.error e) w) w) : (p >>= f).Guarded c post w := by
  refine Guarded.andThen (h.mono fun r w hr => ?_)
  cases r with
  | ok a => exact hr
  | error e => exact hr

theorem Guarded.tryCatch {p : Prog ε Reply α} {f : ε → Prog ε Reply α}
    (h : p.Guarded c (fun r w => match r with
      | .ok a => post (.ok a) w
      | .error e => (f e).Guarded c post w) w) : (tryCatch p f).Guarded c post w := by
  refine Guarded.andThen (h.mono fun r w hr => ?_)
  cases r with
  | ok a => exact hr
  | error e => exact hr

theorem Guarded.attempt {p : Prog ε Reply α} {post : Except ε (Except ε α) → World → Prop}
    (h : p.Guarded c (fun r w => post (.ok r) w) w) : p.attempt.Guarded c post w :=
  Guarded.andThen h

/-- A call of its own, with the fact that it leaves behind. -/
theorem Guarded.perform {op : Op} {post : Except ε (Reply op) → World → Prop}
    (h : ∀ w₁, c.rely op w w₁ → c.inv w₁ →
      c.pre w₁ op ∧ ∀ r w₂, c.can w₁ op r w₂ → post r w₂) :
    (Prog.perform op).Guarded c post w := h

/-- A first part that leaves the world as it found it, with what its value tells. -/
theorem Guarded.bind_same {Q : α → Prop} {p : Prog ε Reply α} {f : α → Prog ε Reply β}
    {post : Except ε β → World → Prop}
    (hp : p.Guarded c (fun r w' => w' = w ∧ ∀ a, r = .ok a → Q a) w)
    (herror : ∀ e, post (.error e) w) (hok : ∀ a, Q a → (f a).Guarded c post w) :
    (p >>= f).Guarded c post w := by
  refine Guarded.bind (hp.mono fun r w' hr => ?_)
  obtain ⟨rfl, hQ⟩ := hr
  cases r with
  | ok a => exact hok a (hQ a rfl)
  | error e => exact herror e

/-- A first part that leaves the world as it found it, with what it tells either way. -/
theorem Guarded.bind_told {E : Prop} {Q : α → Prop} {p : Prog ε Reply α} {f : α → Prog ε Reply β}
    {post : Except ε β → World → Prop} (hp : p.Guarded c (fun r w' => w' = w ∧ Told E Q r) w)
    (herror : E → ∀ e, post (.error e) w) (hok : ∀ a, Q a → (f a).Guarded c post w) :
    (p >>= f).Guarded c post w := by
  refine Guarded.bind (hp.mono fun r w' hr => ?_)
  obtain ⟨rfl, hr⟩ := hr
  cases r with
  | ok a => exact hok a hr
  | error e => exact herror hr e

section Alone
variable {serve : World → (op : Op) → Except ε (Reply op) → World → Prop} {pre : World → Op → Prop}

theorem Guarded.perform_alone {op : Op} {post : Except ε (Reply op) → World → Prop}
    (hpre : pre w op) (h : ∀ r w', serve w op r w' → post r w') :
    (Prog.perform op).Guarded (.alone serve pre) post w := by
  intro w₁ hrely _
  cases hrely
  exact ⟨hpre, h⟩

/-- One call and then the rest; an exception ends the program. -/
theorem Guarded.perform_bind {op : Op} {f : Reply op → Prog ε Reply β}
    {post : Except ε β → World → Prop} (hpre : pre w op)
    (herror : ∀ e w', serve w op (.error e) w' → post (.error e) w')
    (hok : ∀ a w', serve w op (.ok a) w' → (f a).Guarded (.alone serve pre) post w') :
    (Prog.perform op >>= f).Guarded (.alone serve pre) post w := by
  refine Guarded.bind (Guarded.perform_alone hpre fun r w' hserve => ?_)
  cases r with
  | ok a => exact hok a w' hserve
  | error e => exact herror e w' hserve

theorem Guarded.lift {x : Except ε α} (h : post x w) :
    (liftM x : Prog ε Reply α).Guarded c post w := h

/-- A check that comes first: an exception ends the program. -/
theorem Guarded.lift_bind {x : Except ε α} {f : α → Prog ε Reply β}
    {post : Except ε β → World → Prop} (herror : ∀ e, x = .error e → post (.error e) w)
    (hok : ∀ a, x = .ok a → (f a).Guarded c post w) :
    ((liftM x : Prog ε Reply α) >>= f).Guarded c post w := by
  cases x with
  | error e => exact herror e rfl
  | ok a => exact hok a rfl

end Alone

/-- The frame rule: a fact that survives what others do and what the calls of the
program do holds at its end, and at each call it may serve the contract. -/
theorem Calls.guarded {p : Prog ε Reply α} {P : Op → Prop} {φ : World → Prop}
    (hp : p.Calls P) (hw : φ w)
    (hrely : ∀ op w w', c.rely op w w' → φ w → φ w')
    (hcan : ∀ op r w w', P op → c.inv w → φ w → c.can w op r w' → φ w')
    (hpre : ∀ op w, P op → c.inv w → φ w → c.pre w op) :
    p.Guarded c (fun _ w => φ w) w := by
  induction p generalizing w with
  | done r => exact hw
  | call op next ih =>
    intro w₁ hr hinv
    have hw₁ := hrely op w w₁ hr hw
    exact ⟨hpre op w₁ hp.1 hinv hw₁, fun r w₂ h₂ =>
      ih r (hp.2 r) (hcan op r w₁ w₂ hp.1 hinv hw₁ h₂)⟩

/-- What others do before the next call does not break a guarded program. -/
theorem Guarded.of_rely {op : Op} {next : Except ε (Reply op) → Prog ε Reply α} {w' : World}
    (htrans : ∀ w₁, c.rely op w' w₁ → c.rely op w w₁)
    (h : (Prog.call op next).Guarded c post w) : (Prog.call op next).Guarded c post w' :=
  fun w₁ hrely hinv => h w₁ (htrans w₁ hrely) hinv

/-- The program with each call done by a program of other calls. -/
def expand {Op' : Type} {Reply' : Op' → Type} (done : (op : Op) → Prog ε Reply' (Reply op)) :
    Prog ε Reply α → Prog ε Reply' α
  | .done r => .done r
  | .call op next => (done op).andThen fun r => (next r).expand done

theorem calls_expand {Op' : Type} {Reply' : Op' → Type} {P : Op' → Prop}
    {done : (op : Op) → Prog ε Reply' (Reply op)} {p : Prog ε Reply α}
    (hdone : ∀ op, (done op).Calls P) : (p.expand done).Calls P := by
  induction p with
  | done r => trivial
  | call op next ih => exact (hdone op).andThen ih

/-- An expanded program keeps a contract if each call that its own contract allows is done
as that contract says. -/
theorem Guarded.expand {Op' : Type} {Reply' : Op' → Type} {c' : Contract World ε Reply'}
    {done : (op : Op) → Prog ε Reply' (Reply op)} {p : Prog ε Reply α}
    (hdone : ∀ op w, (∀ w₁, c.rely op w w₁ → c.inv w₁ → c.pre w₁ op) →
      (done op).Guarded c' (fun r w' => ∃ w₁, c.rely op w w₁ ∧ c.inv w₁ ∧ c.can w₁ op r w') w)
    (h : p.Guarded c post w) : (p.expand done).Guarded c' post w := by
  induction p generalizing w with
  | done r => exact h
  | call op next ih =>
    refine Guarded.andThen ((hdone op w fun w₁ hrely hinv => (h w₁ hrely hinv).1).mono fun r w' hr => ?_)
    obtain ⟨w₁, hrely, hinv, hcan⟩ := hr
    exact ih r ((h w₁ hrely hinv).2 r w' hcan)

theorem andThen_assoc {γ : Type} {p : Prog ε Reply α} {f : Except ε α → Prog ε Reply β}
    {g : Except ε β → Prog ε Reply γ} :
    (p.andThen f).andThen g = p.andThen fun r => (f r).andThen g := by
  induction p with
  | done r => rfl
  | call op next ih => exact congrArg (Prog.call op) (funext fun r => ih r)

theorem andThen_done {p : Prog ε Reply α} : p.andThen .done = p := by
  induction p with
  | done r => rfl
  | call op next ih => exact congrArg (Prog.call op) (funext fun r => ih r)

/-- The program makes calls that meet `P`, and runs `q` as a part of it any number of times. -/
inductive Composed (P : Op → Prop) (q : Prog ε Reply β) : Prog ε Reply α → Prop
  | done (r : Except ε α) : Composed P q (.done r)
  | call {op : Op} {next : Except ε (Reply op) → Prog ε Reply α} (hop : P op)
      (hnext : ∀ r, Composed P q (next r)) : Composed P q (.call op next)
  | run {f : Except ε β → Prog ε Reply α} (hf : ∀ r, Composed P q (f r)) :
      Composed P q (q.andThen f)

section Composed
variable {γ : Type} {P : Op → Prop} {q : Prog ε Reply γ} {p : Prog ε Reply α}

theorem Composed.whole : Composed P q q := by
  have hrun : Composed P q (q.andThen .done) := .run fun r => .done r
  rwa [andThen_done] at hrun

theorem Calls.composed (h : p.Calls P) : Composed P q p := by
  induction p with
  | done r => exact .done r
  | call op next ih => exact .call h.1 fun r => ih r (h.2 r)

theorem Composed.andThen {f : Except ε α → Prog ε Reply β} (h : Composed P q p)
    (hf : ∀ r, Composed P q (f r)) : Composed P q (p.andThen f) := by
  induction h with
  | done r => exact hf r
  | call hop _ ih => exact .call hop ih
  | run _ ih =>
    rw [andThen_assoc]
    exact .run ih

theorem Composed.bind {f : α → Prog ε Reply β} (h : Composed P q p)
    (hf : ∀ a, Composed P q (f a)) : Composed P q (p >>= f) := by
  refine h.andThen fun r => ?_
  cases r with
  | ok a => exact hf a
  | error e => exact .done _

theorem Composed.tryCatch {f : ε → Prog ε Reply α} (h : Composed P q p)
    (hf : ∀ e, Composed P q (f e)) : Composed P q (tryCatch p f) := by
  refine h.andThen fun r => ?_
  cases r with
  | ok a => exact .done _
  | error e => exact hf e

theorem Composed.onlyWhen {applies : Prop} [Decidable applies] {p : Prog ε Reply Unit}
    (h : Composed P q p) : Composed P q (onlyWhen applies p) := by
  unfold Prog.onlyWhen
  split
  · exact h
  · exact .done _

/-- A composed program keeps a contract that its part keeps and its other calls respect. -/
theorem Composed.guarded {c : Contract World ε Reply} {w : World} (h : Composed P q p)
    (hq : ∀ w, q.Guarded c (fun _ _ => True) w) (hP : ∀ w op, P op → c.pre w op) :
    p.Guarded c (fun _ _ => True) w := by
  induction h generalizing w with
  | done r => trivial
  | call hop _ ih => exact fun w₁ _ _ => ⟨hP w₁ _ hop, fun r w₂ _ => ih r⟩
  | run _ ih => exact Guarded.andThen ((hq w).mono fun r _ _ => ih r)

end Composed

/-- A run of a program against a server that may answer in many ways: the calls made
with their replies, the ending and the state that the server is left in. -/
inductive Runs {σ : Type} (serve : σ → (op : Op) → Except ε (Reply op) → σ → Prop) :
    Prog ε Reply α → σ → List (Σ op, Except ε (Reply op)) → Except ε α → σ → Prop
  | done (r : Except ε α) (s : σ) : Runs serve (.done r) s [] r s
  | call {op : Op} {next : Except ε (Reply op) → Prog ε Reply α} {reply : Except ε (Reply op)}
      {s s₁ s₂ : σ} {log : List (Σ op, Except ε (Reply op))} {r : Except ε α}
      (hserve : serve s op reply s₁) (hnext : Runs serve (next reply) s₁ log r s₂) :
      Runs serve (.call op next) s (⟨op, reply⟩ :: log) r s₂

section Runs
variable {σ : Type} {serve : σ → (op : Op) → Except ε (Reply op) → σ → Prop} {s s' : σ}
  {log : List (Σ op, Except ε (Reply op))} {p : Prog ε Reply α}

theorem runs_done {r r' : Except ε α} :
    (Prog.done r).Runs serve s log r' s' ↔ log = [] ∧ r' = r ∧ s' = s := by
  constructor
  · rintro ⟨⟩
    exact ⟨rfl, rfl, rfl⟩
  · rintro ⟨rfl, rfl, rfl⟩
    exact .done _ _

theorem runs_call {op : Op} {next : Except ε (Reply op) → Prog ε Reply α} {r : Except ε α} :
    (Prog.call op next).Runs serve s log r s' ↔ ∃ reply s₁ log', log = ⟨op, reply⟩ :: log' ∧
      serve s op reply s₁ ∧ (next reply).Runs serve s₁ log' r s' := by
  constructor
  · intro h
    cases h with
    | call hserve hnext => exact ⟨_, _, _, rfl, hserve, hnext⟩
  · rintro ⟨reply, s₁, log', rfl, hserve, hnext⟩
    exact .call hserve hnext

theorem runs_nil {r : Except ε α} (h : p.Runs serve s [] r s') : s' = s := by
  cases p with
  | done r => exact (runs_done.mp h).2.2
  | call op next =>
    obtain ⟨_, _, _, hlog, -⟩ := runs_call.mp h
    cases hlog

theorem runs_perform {op : Op} {r : Except ε (Reply op)} :
    (Prog.perform op).Runs serve s log r s' ↔ log = [⟨op, r⟩] ∧ serve s op r s' := by
  rw [Prog.perform, runs_call]
  constructor
  · rintro ⟨reply, s₁, log', rfl, hserve, hnext⟩
    obtain ⟨rfl, rfl, rfl⟩ := runs_done.mp hnext
    exact ⟨rfl, hserve⟩
  · rintro ⟨rfl, hserve⟩
    exact ⟨r, s', [], rfl, hserve, .done _ _⟩

/-- A run of a sequence is a run of each part. -/
theorem runs_andThen {f : Except ε α → Prog ε Reply β} {r : Except ε β} :
    (p.andThen f).Runs serve s log r s' ↔ ∃ log₁ log₂ r₁ s₁, log = log₁ ++ log₂ ∧
      p.Runs serve s log₁ r₁ s₁ ∧ (f r₁).Runs serve s₁ log₂ r s' := by
  induction p generalizing s log with
  | done r₁ =>
    constructor
    · exact fun h => ⟨[], log, r₁, s, rfl, .done _ _, h⟩
    · rintro ⟨log₁, log₂, r₂, s₁, rfl, h₁, h₂⟩
      obtain ⟨rfl, rfl, rfl⟩ := runs_done.mp h₁
      exact h₂
  | call op next ih =>
    rw [Prog.andThen, runs_call]
    constructor
    · rintro ⟨reply, s₁, log', rfl, hserve, hnext⟩
      obtain ⟨log₁, log₂, r₁, s₂, rfl, h₁, h₂⟩ := (ih reply).mp hnext
      exact ⟨_, log₂, r₁, s₂, rfl, .call hserve h₁, h₂⟩
    · rintro ⟨log₁, log₂, r₁, s₁, rfl, h₁, h₂⟩
      obtain ⟨reply, s₂, log', rfl, hserve, hnext⟩ := runs_call.mp h₁
      exact ⟨reply, s₂, log' ++ log₂, rfl, hserve, (ih reply).mpr ⟨log', log₂, r₁, s₁, rfl, hnext, h₂⟩⟩

theorem runs_bind {f : α → Prog ε Reply β} {r : Except ε β} :
    (p >>= f).Runs serve s log r s' ↔
      (∃ e, r = .error e ∧ p.Runs serve s log (.error e) s') ∨
      ∃ log₁ log₂ a s₁, log = log₁ ++ log₂ ∧ p.Runs serve s log₁ (.ok a) s₁ ∧
        (f a).Runs serve s₁ log₂ r s' := by
  rw [bind_eq, runs_andThen]
  constructor
  · rintro ⟨log₁, log₂, r₁, s₁, rfl, h₁, h₂⟩
    cases r₁ with
    | ok a => exact .inr ⟨log₁, log₂, a, s₁, rfl, h₁, h₂⟩
    | error e =>
      obtain ⟨rfl, rfl, rfl⟩ := runs_done.mp h₂
      exact .inl ⟨e, rfl, by simpa using h₁⟩
  · rintro (⟨e, rfl, h⟩ | ⟨log₁, log₂, a, s₁, rfl, h₁, h₂⟩)
    · exact ⟨log, [], .error e, s', by simp, h, .done _ _⟩
    · exact ⟨log₁, log₂, .ok a, s₁, rfl, h₁, h₂⟩

theorem Runs.bind {f : α → Prog ε Reply β} {log₂ : List (Σ op, Except ε (Reply op))} {a : α} {s₁ : σ}
    {r : Except ε β} (h₁ : p.Runs serve s log (.ok a) s₁) (h₂ : (f a).Runs serve s₁ log₂ r s') :
    (p >>= f).Runs serve s (log ++ log₂) r s' :=
  runs_bind.mpr (.inr ⟨log, log₂, a, s₁, rfl, h₁, h₂⟩)

theorem Runs.bind_error {f : α → Prog ε Reply β} {e : ε} (h : p.Runs serve s log (.error e) s') :
    (p >>= f).Runs serve s log (.error e) s' :=
  runs_bind.mpr (.inl ⟨e, rfl, h⟩)

/-- A sequence that ends in a value. -/
theorem runs_bind_ok {f : α → Prog ε Reply β} {b : β} :
    (p >>= f).Runs serve s log (.ok b) s' ↔ ∃ log₁ log₂ a s₁, log = log₁ ++ log₂ ∧
      p.Runs serve s log₁ (.ok a) s₁ ∧ (f a).Runs serve s₁ log₂ (.ok b) s' := by
  rw [runs_bind]
  simp

theorem runs_pure {a : α} {r : Except ε α} :
    (pure a : Prog ε Reply α).Runs serve s log r s' ↔ log = [] ∧ r = .ok a ∧ s' = s :=
  runs_done

theorem runs_lift {x : Except ε α} {r : Except ε α} :
    (liftM x : Prog ε Reply α).Runs serve s log r s' ↔ log = [] ∧ r = x ∧ s' = s :=
  runs_done

theorem runs_lift_bind {x : Except ε α} {f : α → Prog ε Reply β} {r : Except ε β} :
    ((liftM x : Prog ε Reply α) >>= f).Runs serve s log r s' ↔
      (∃ e, x = .error e ∧ log = [] ∧ r = .error e ∧ s' = s) ∨
        ∃ a, x = .ok a ∧ (f a).Runs serve s log r s' := by
  cases x with
  | error e =>
    rw [show (liftM (Except.error e : Except ε α) : Prog ε Reply α) >>= f = .done (.error e) from rfl,
      runs_done]
    simp
  | ok a =>
    rw [show (liftM (Except.ok a : Except ε α) : Prog ε Reply α) >>= f = f a from rfl]
    simp

theorem Runs.lift_bind {x : Except ε α} {f : α → Prog ε Reply β} {a : α} {r : Except ε β}
    (hx : x = .ok a) (h : (f a).Runs serve s log r s') :
    ((liftM x : Prog ε Reply α) >>= f).Runs serve s log r s' :=
  runs_lift_bind.mpr (.inr ⟨a, hx, h⟩)

theorem Runs.onlyWhen {applies : Prop} [Decidable applies] {p : Prog ε Reply Unit} {r : Except ε Unit}
    (h : applies) (hp : p.Runs serve s log r s') : (onlyWhen applies p).Runs serve s log r s' := by
  rwa [Prog.onlyWhen, if_pos h]

theorem Runs.not_onlyWhen {applies : Prop} [Decidable applies] {p : Prog ε Reply Unit}
    (h : ¬applies) : (Prog.onlyWhen applies p).Runs serve s [] (.ok ()) s := by
  rw [Prog.onlyWhen, if_neg h]
  exact .done _ _

theorem runs_attempt {r : Except ε (Except ε α)} :
    p.attempt.Runs serve s log r s' ↔ ∃ r₁, r = .ok r₁ ∧ p.Runs serve s log r₁ s' := by
  rw [attempt, runs_andThen]
  constructor
  · rintro ⟨log₁, log₂, r₁, s₁, rfl, h₁, h₂⟩
    obtain ⟨rfl, rfl, rfl⟩ := runs_done.mp h₂
    exact ⟨r₁, rfl, by simpa using h₁⟩
  · rintro ⟨r₁, rfl, h⟩
    exact ⟨log, [], r₁, s', by simp, h, .done _ _⟩

/-- The calls of a run are calls of the program. -/
theorem Calls.of_run {P : Op → Prop} (hp : p.Calls P) {r : Except ε α}
    (h : p.Runs serve s log r s') : ∀ c ∈ log, P c.1 := by
  induction h with
  | done => simp
  | call hserve _ ih =>
    intro c hc
    rcases List.mem_cons.mp hc with rfl | hc
    · exact hp.1
    · exact ih (hp.2 _) c hc

theorem Ends.of_run {Q : Except ε α → Prop} (hp : p.Ends Q) {r : Except ε α}
    (h : p.Runs serve s log r s') : Q r := by
  induction h with
  | done => exact hp
  | call _ _ ih => exact ih (hp _)

/-- A run against a server is a run against one that may answer in more ways. -/
theorem Runs.mono {serve' : σ → (op : Op) → Except ε (Reply op) → σ → Prop} {r : Except ε α}
    (hserve : ∀ s op reply s', serve s op reply s' → serve' s op reply s')
    (h : p.Runs serve s log r s') : p.Runs serve' s log r s' := by
  induction h with
  | done r s => exact .done r s
  | call hs _ ih => exact .call (hserve _ _ _ _ hs) ih

/-- A run of a program that is guarded alone ends as it should. -/
theorem Guarded.of_run {pre : σ → Op → Prop} {post : Except ε α → σ → Prop} {r : Except ε α}
    (hp : p.Guarded (.alone serve pre) post s) (h : p.Runs serve s log r s') : post r s' := by
  induction h with
  | done => exact hp
  | call hserve _ ih => exact ih ((hp _ rfl trivial).2 _ _ hserve)

/-- The invariant rule for a guarded program. -/
theorem Guarded.invariant {pre : σ → Op → Prop} {post : Except ε α → σ → Prop} {I : σ → Prop}
    {r : Except ε α} (hp : p.Guarded (.alone serve pre) post s)
    (hstep : ∀ s op reply s', I s → pre s op → serve s op reply s' → I s')
    (h : p.Runs serve s log r s') (hs : I s) : I s' := by
  induction h with
  | done => exact hs
  | call hserve _ ih =>
    obtain ⟨hpre, hnext⟩ := hp _ rfl trivial
    exact ih (hnext _ _ hserve) (hstep _ _ _ _ hs hpre hserve)

/-- What every answer keeps holds at the end of a run. -/
theorem Runs.invariant {I : σ → Prop} {r : Except ε α}
    (hstep : ∀ s op reply s', serve s op reply s' → I s → I s') (h : p.Runs serve s log r s')
    (hs : I s) : I s' := by
  induction h with
  | done => exact hs
  | call hserve _ ih => exact ih (hstep _ _ _ _ hserve hs)

/-- What a call of the run establishes, and every later call keeps, holds at the end. -/
theorem Guarded.established {pre : σ → Op → Prop} {post : Except ε α → σ → Prop} {I J : σ → Prop}
    {r : Except ε α} {op : Op} {reply : Except ε (Reply op)}
    (hp : p.Guarded (.alone serve pre) post s)
    (hI : ∀ s op reply s', I s → pre s op → serve s op reply s' → I s')
    (hJ : ∀ s op reply s', I s → pre s op → serve s op reply s' → J s → J s')
    (hop : ∀ s s', serve s op reply s' → I s → pre s op → J s')
    (h : p.Runs serve s log r s') (hs : I s) (hmem : ⟨op, reply⟩ ∈ log) : J s' := by
  induction h with
  | done => cases hmem
  | call hserve hnext ih =>
    obtain ⟨hpre, hguard⟩ := hp _ rfl trivial
    have hs₁ := hI _ _ _ _ hs hpre hserve
    rcases List.mem_cons.mp hmem with heq | hmem
    · cases heq
      have hend := (hguard _ _ hserve).invariant (I := fun s => I s ∧ J s)
        (fun s op reply s' hs hpre hserve =>
          ⟨hI s op reply s' hs.1 hpre hserve, hJ s op reply s' hs.1 hpre hserve hs.2⟩)
        hnext ⟨hs₁, hop _ _ hserve hs hpre⟩
      exact hend.2
    · exact ih (hguard _ _ hserve) hs₁ hmem

/-- A call of the run found what the program guarantees, and the invariant. -/
theorem Guarded.found {pre : σ → Op → Prop} {post : Except ε α → σ → Prop} {I : σ → Prop}
    {r : Except ε α} {op : Op} {reply : Except ε (Reply op)}
    (hp : p.Guarded (.alone serve pre) post s)
    (hI : ∀ s op reply s', I s → pre s op → serve s op reply s' → I s')
    (h : p.Runs serve s log r s') (hs : I s) (hmem : ⟨op, reply⟩ ∈ log) : ∃ s₁, I s₁ ∧ pre s₁ op := by
  induction h with
  | done => cases hmem
  | call hserve _ ih =>
    obtain ⟨hpre, hguard⟩ := hp _ rfl trivial
    rcases List.mem_cons.mp hmem with heq | hmem
    · cases heq
      exact ⟨_, hs, hpre⟩
    · exact ih (hguard _ _ hserve) (hI _ _ _ _ hs hpre hserve) hmem

/-- In some run the program makes the call in the last of the two states. -/
inductive MakesCall (serve : σ → (op : Op) → Except ε (Reply op) → σ → Prop) :
    Prog ε Reply α → σ → Op → σ → Prop
  | here (op : Op) (next : Except ε (Reply op) → Prog ε Reply α) (s : σ) :
      MakesCall serve (.call op next) s op s
  | later {op op' : Op} {next : Except ε (Reply op) → Prog ε Reply α} {reply : Except ε (Reply op)}
      {s s₁ s' : σ} (hserve : serve s op reply s₁) (h : MakesCall serve (next reply) s₁ op' s') :
      MakesCall serve (.call op next) s op' s'

theorem Guarded.of_makesCall {pre : σ → Op → Prop} {post : Except ε α → σ → Prop} {op : Op}
    (hp : p.Guarded (.alone serve pre) post s) (h : p.MakesCall serve s op s') : pre s' op := by
  induction h with
  | here => exact (hp _ rfl trivial).1
  | later hserve _ ih => exact ih ((hp _ rfl trivial).2 _ _ hserve)

theorem Guarded.invariant_makesCall {pre : σ → Op → Prop} {post : Except ε α → σ → Prop}
    {I : σ → Prop} {op : Op} (hp : p.Guarded (.alone serve pre) post s)
    (hstep : ∀ s op reply s', I s → pre s op → serve s op reply s' → I s')
    (h : p.MakesCall serve s op s') (hs : I s) : I s' := by
  induction h with
  | here => exact hs
  | later hserve _ ih =>
    obtain ⟨hpre, hnext⟩ := hp _ rfl trivial
    exact ih (hnext _ _ hserve) (hstep _ _ _ _ hs hpre hserve)

/-- A call of the second part, after a run of the first. -/
theorem MakesCall.andThen {f : Except ε α → Prog ε Reply β} {r : Except ε α} {s₁ : σ} {op : Op}
    (h₁ : p.Runs serve s log r s₁) (h₂ : (f r).MakesCall serve s₁ op s') :
    (p.andThen f).MakesCall serve s op s' := by
  induction h₁ with
  | done => exact h₂
  | call hserve _ ih => exact .later hserve (ih h₂)

theorem MakesCall.bind {f : α → Prog ε Reply β} {a : α} {s₁ : σ} {op : Op}
    (h₁ : p.Runs serve s log (.ok a) s₁) (h₂ : (f a).MakesCall serve s₁ op s') :
    (p >>= f).MakesCall serve s op s' :=
  .andThen h₁ h₂

theorem MakesCall.lift_bind {x : Except ε α} {f : α → Prog ε Reply β} {a : α} {op : Op} (hx : x = .ok a)
    (h : (f a).MakesCall serve s op s') :
    ((liftM x : Prog ε Reply α) >>= f).MakesCall serve s op s' := by
  subst hx
  exact h

/-- A call of the first part. -/
theorem MakesCall.left {f : Except ε α → Prog ε Reply β} {op : Op}
    (h : p.MakesCall serve s op s') : (p.andThen f).MakesCall serve s op s' := by
  induction h with
  | here => exact .here _ _ _
  | later hserve _ ih => exact .later hserve ih

theorem MakesCall.catch {f : ε → Prog ε Reply α} {e : ε} {s₁ : σ} {op : Op}
    (h₁ : p.Runs serve s log (.error e) s₁) (h₂ : (f e).MakesCall serve s₁ op s') :
    (tryCatch p f).MakesCall serve s op s' :=
  .andThen h₁ h₂

/-- A call of a run is made in some state. -/
theorem Runs.makesCall {r : Except ε α} {op : Op} {reply : Except ε (Reply op)}
    (h : p.Runs serve s log r s') (hmem : ⟨op, reply⟩ ∈ log) : ∃ s₁, p.MakesCall serve s op s₁ := by
  induction h with
  | done => cases hmem
  | call hserve _ ih =>
    rcases List.mem_cons.mp hmem with heq | hmem
    · cases heq
      exact ⟨_, .here _ _ _⟩
    · obtain ⟨s₁, hcall⟩ := ih hmem
      exact ⟨s₁, .later hserve hcall⟩

/-- The invariant rule: what every call of the program keeps holds at its end. -/
theorem Calls.invariant {P : Op → Prop} {I : σ → Prop} (hp : p.Calls P)
    (hstep : ∀ s op reply s', P op → serve s op reply s' → I s → I s') {r : Except ε α}
    (h : p.Runs serve s log r s') (hs : I s) : I s' := by
  induction h with
  | done => exact hs
  | call hserve _ ih => exact ih (hp.2 _) (hstep _ _ _ _ hp.1 hserve hs)

/-- The last call of a run, in the state that it found. -/
theorem Calls.last {P : Op → Prop} {I : σ → Prop} (hp : p.Calls P)
    (hstep : ∀ s op reply s', P op → serve s op reply s' → I s → I s') {r : Except ε α}
    (h : p.Runs serve s log r s') (hs : I s) {log' : List (Σ op, Except ε (Reply op))} {op : Op}
    {reply : Except ε (Reply op)} (hlog : log = log' ++ [⟨op, reply⟩]) :
    ∃ t, I t ∧ serve t op reply s' := by
  induction h generalizing log' with
  | done => simp at hlog
  | call hserve hnext ih =>
    cases log' with
    | nil =>
      obtain ⟨hcall, rfl⟩ := List.cons.inj hlog
      cases hcall
      obtain rfl := runs_nil hnext
      exact ⟨_, hs, hserve⟩
    | cons c log' =>
      obtain ⟨rfl, htail⟩ := List.cons.inj hlog
      exact ih (hp.2 _) (hstep _ _ _ _ hp.1 hserve hs) htail

end Runs

/-- The run against a server that computes its answers. -/
def exec {σ : Type} (answer : σ → (op : Op) → Except ε (Reply op) × σ) :
    Prog ε Reply α → σ → Except ε α × σ
  | .done r, s => (r, s)
  | .call op next, s => (next (answer s op).1).exec answer (answer s op).2

/-- The calls of that run, with their replies. -/
def trace {σ : Type} (answer : σ → (op : Op) → Except ε (Reply op) × σ) :
    Prog ε Reply α → σ → List (Σ op, Except ε (Reply op))
  | .done _, _ => []
  | .call op next, s => ⟨op, (answer s op).1⟩ :: (next (answer s op).1).trace answer (answer s op).2

theorem runs_exec {σ : Type} (answer : σ → (op : Op) → Except ε (Reply op) × σ)
    (p : Prog ε Reply α) (s : σ) : p.Runs (fun s op reply s' => answer s op = (reply, s')) s
      (p.trace answer s) (p.exec answer s).1 (p.exec answer s).2 := by
  induction p generalizing s with
  | done r => exact .done r s
  | call op next ih => exact .call (Prod.eta _).symm (ih _ _)

/-- Every call of the computed run is one that `fits` accepts in the state that it finds. -/
def allFit {σ : Type} (answer : σ → (op : Op) → Except ε (Reply op) × σ) (fits : σ → Op → Bool) :
    Prog ε Reply α → σ → Bool
  | .done _, _ => true
  | .call op next, s => fits s op && (next (answer s op).1).allFit answer fits (answer s op).2

/-- A computed run is a run against a server that the answers are right for. -/
theorem runs_of_allFit {σ : Type} {answer : σ → (op : Op) → Except ε (Reply op) × σ}
    {fits : σ → Op → Bool} {serve : σ → (op : Op) → Except ε (Reply op) → σ → Prop}
    (hserve : ∀ s op, fits s op = true → serve s op (answer s op).1 (answer s op).2)
    {p : Prog ε Reply α} {s : σ} (h : p.allFit answer fits s = true) :
    p.Runs serve s (p.trace answer s) (p.exec answer s).1 (p.exec answer s).2 := by
  induction p generalizing s with
  | done r => exact .done r s
  | call op next ih =>
    obtain ⟨hop, hnext⟩ := Bool.and_eq_true_iff.mp h
    exact .call (hserve s op hop) (ih _ hnext)

theorem exec_runs {σ : Type} (answer : σ → (op : Op) → Except ε (Reply op) × σ)
    (p : Prog ε Reply α) (s : σ) : ∃ log, p.Runs (fun s op reply s' => answer s op = (reply, s')) s log
      (p.exec answer s).1 (p.exec answer s).2 :=
  ⟨p.trace answer s, runs_exec answer p s⟩

section Exec
variable {σ : Type} {answer : σ → (op : Op) → Except ε (Reply op) × σ} {s : σ}

theorem exec_andThen {p : Prog ε Reply α} {f : Except ε α → Prog ε Reply β} :
    (p.andThen f).exec answer s = (f (p.exec answer s).1).exec answer (p.exec answer s).2 := by
  induction p generalizing s with
  | done r => rfl
  | call op next ih => exact ih _

/-- The computed run of a sequence whose first part ends in a value. -/
theorem exec_bind_ok {p : Prog ε Reply α} {f : α → Prog ε Reply β} {a : α} {s' : σ}
    (h : p.exec answer s = (.ok a, s')) : (p >>= f).exec answer s = (f a).exec answer s' := by
  rw [bind_eq, exec_andThen, h]
  rfl

/-- One call of a computed run, and then the rest. -/
theorem exec_perform_bind {op : Op} {f : Reply op → Prog ε Reply β} :
    (perform op >>= f).exec answer s = match answer s op with
      | (.ok a, s') => (f a).exec answer s'
      | (.error e, s') => (.error e, s') := by
  have hcall : (perform op >>= f).exec answer s =
      (onValue f (answer s op).1).exec answer (answer s op).2 := rfl
  rw [hcall]
  rcases answer s op with ⟨reply, s'⟩
  cases reply with
  | ok a => rfl
  | error e => rfl

theorem exec_lift_bind {x : Except ε α} {f : α → Prog ε Reply β} {a : α} (h : x = .ok a) :
    ((liftM x : Prog ε Reply α) >>= f).exec answer s = (f a).exec answer s := by
  subst h
  rfl

end Exec

end Prog
end Library
