import LineageTX.Library.Prog
import Mathlib.Data.List.Forall2

/-! What a program has done before each of its calls: contracts over the history of its own
calls and their replies. They hold against every server, so whatever others do in between. -/
namespace Library.Prog
variable {ε Op σ α β : Type} {Reply : Op → Type}

theorem id_map_eq (p : Prog ε Reply α) : id <$> p = p := by
  have hdone : onValue (fun a => (.done (.ok a) : Prog ε Reply α)) = .done := by
    funext r
    cases r <;> rfl
  exact (congrArg p.andThen hdone).trans andThen_done

theorem bind_assoc_eq {γ : Type} (p : Prog ε Reply α) (f : α → Prog ε Reply β) (g : β → Prog ε Reply γ) :
    p >>= f >>= g = p >>= fun a => f a >>= g := by
  refine andThen_assoc.trans (congrArg p.andThen ?_)
  funext r
  cases r <;> rfl

instance : LawfulMonad (Prog ε Reply) :=
  LawfulMonad.mk' (Prog ε Reply) id_map_eq (fun _ _ => rfl) bind_assoc_eq

/-- What two contracts assume and ask for together. -/
def together {World : Type} (c c' : Contract World ε Reply) : Contract World ε Reply where
  inv w := c.inv w ∧ c'.inv w
  rely op w w' := c.rely op w w' ∧ c'.rely op w w'
  pre w op := c.pre w op ∧ c'.pre w op
  can w op r w' := c.can w op r w' ∧ c'.can w op r w'

theorem Guarded.together {World : Type} {c c' : Contract World ε Reply}
    {post post' : Except ε α → World → Prop} {p : Prog ε Reply α} {w : World}
    (h : p.Guarded c post w) (h' : p.Guarded c' post' w) :
    p.Guarded (together c c') (fun r w => post r w ∧ post' r w) w := by
  induction p generalizing w with
  | done r => exact ⟨h, h'⟩
  | call op next ih =>
    intro w₁ hrely hinv
    obtain ⟨hpre, hnext⟩ := h w₁ hrely.1 hinv.1
    obtain ⟨hpre', hnext'⟩ := h' w₁ hrely.2 hinv.2
    exact ⟨⟨hpre, hpre'⟩, fun r w₂ hcan => ih r (hnext r w₂ hcan.1) (hnext' r w₂ hcan.2)⟩

/-- An expanded program makes only the calls that its own calls are done by. -/
theorem Calls.expand {Op' : Type} {Reply' : Op' → Type} {P : Op → Prop} {P' : Op' → Prop}
    {done : (op : Op) → Prog ε Reply' (Reply op)} {p : Prog ε Reply α} (hp : p.Calls P)
    (hdone : ∀ op, P op → (done op).Calls P') : (p.expand done).Calls P' := by
  induction p with
  | done r => trivial
  | call op next ih => exact (hdone op hp.1).andThen fun r => ih r (hp.2 r)

/-- Two contracts against one server are kept together. -/
theorem Guarded.both {World : Type} {serve : World → (op : Op) → Except ε (Reply op) → World → Prop}
    {pre pre' : World → Op → Prop} {post post' : Except ε α → World → Prop} {p : Prog ε Reply α} {w : World}
    (h : p.Guarded (.alone serve pre) post w) (h' : p.Guarded (.alone serve pre') post' w) :
    p.Guarded (.alone serve pre') (fun r w => post r w ∧ post' r w) w := by
  induction p generalizing w with
  | done r => exact ⟨h, h'⟩
  | call op next ih =>
    intro w₁ hw _
    exact ⟨(h' w₁ hw trivial).1, fun r w₂ hserve =>
      ih r ((h w₁ hw trivial).2 r w₂ hserve) ((h' w₁ hw trivial).2 r w₂ hserve)⟩

/-- Each call adds itself and its reply to the history. -/
def Records (h : List (Σ op, Except ε (Reply op))) (op : Op) (r : Except ε (Reply op))
    (h' : List (Σ op, Except ε (Reply op))) : Prop := h' = h ++ [⟨op, r⟩]

/-- A server that also keeps the history of its calls. -/
def Keeping (serve : σ → (op : Op) → Except ε (Reply op) → σ → Prop)
    (w : σ × List (Σ op, Except ε (Reply op))) (op : Op) (r : Except ε (Reply op))
    (w' : σ × List (Σ op, Except ε (Reply op))) : Prop := serve w.1 op r w'.1 ∧ Records w.2 op r w'.2

/-- A run against a server, with its history kept. -/
theorem Runs.keeping {serve : σ → (op : Op) → Except ε (Reply op) → σ → Prop} {p : Prog ε Reply α}
    {s s' : σ} {log : List (Σ op, Except ε (Reply op))} {r : Except ε α} (hrun : p.Runs serve s log r s')
    (past : List (Σ op, Except ε (Reply op))) :
    p.Runs (Keeping serve) (s, past) log r (s', past ++ log) := by
  induction hrun generalizing past with
  | done r s =>
    rw [List.append_nil]
    exact .done r (s, past)
  | @call op next reply s s₁ s₂ log r hserve _ ih =>
    have hnext := ih (past ++ [⟨op, reply⟩])
    rw [List.append_assoc] at hnext
    refine .call ?_ hnext
    exact ⟨hserve, rfl⟩

/-- One call and then the rest, against a server that keeps the history. -/
theorem keeping_bind {serve : σ → (op : Op) → Except ε (Reply op) → σ → Prop} {op : Op}
    {f : Reply op → Prog ε Reply β} {post : Except ε β → σ × List (Σ op, Except ε (Reply op)) → Prop}
    {s : σ} {h : List (Σ op, Except ε (Reply op))}
    (herror : ∀ e s', serve s op (.error e) s' → post (.error e) (s', h ++ [⟨op, .error e⟩]))
    (hok : ∀ a s', serve s op (.ok a) s' →
      (f a).Guarded (.alone (Keeping serve) fun _ _ => True) post (s', h ++ [⟨op, .ok a⟩])) :
    (Prog.perform op >>= f).Guarded (.alone (Keeping serve) fun _ _ => True) post (s, h) := by
  refine Guarded.perform_bind trivial (fun e w' hw => ?_) fun a w' hw => ?_
  · have hserved := herror e w'.1 hw.1
    rwa [← show w'.2 = h ++ [⟨op, .error e⟩] from hw.2] at hserved
  · have hserved := hok a w'.1 hw.1
    rwa [← show w'.2 = h ++ [⟨op, .ok a⟩] from hw.2] at hserved

/-- The contract of a program whose calls are justified by its history. -/
def recording (justified : List (Σ op, Except ε (Reply op)) → Op → Prop) :
    Contract (List (Σ op, Except ε (Reply op))) ε Reply := .alone Records justified

section Recording
variable {justified : List (Σ op, Except ε (Reply op)) → Op → Prop}
  {h : List (Σ op, Except ε (Reply op))}

theorem recorded_perform {op : Op} {post : Except ε (Reply op) → List (Σ op, Except ε (Reply op)) → Prop}
    (hpre : justified h op) (hpost : ∀ r, post r (h ++ [⟨op, r⟩])) :
    (Prog.perform op).Guarded (recording justified) post h := by
  refine Guarded.perform_alone hpre fun r h' hrecords => ?_
  rw [Records] at hrecords
  rw [hrecords]
  exact hpost r

/-- One call and then the rest; an exception ends the program. -/
theorem recorded_bind {op : Op} {f : Reply op → Prog ε Reply β}
    {post : Except ε β → List (Σ op, Except ε (Reply op)) → Prop} (hpre : justified h op)
    (herror : ∀ e, post (.error e) (h ++ [⟨op, .error e⟩]))
    (hok : ∀ a, (f a).Guarded (recording justified) post (h ++ [⟨op, .ok a⟩])) :
    (Prog.perform op >>= f).Guarded (recording justified) post h := by
  refine Guarded.bind (recorded_perform hpre fun r => ?_)
  cases r with
  | ok a => exact hok a
  | error e => exact herror e

/-- Calls that need no justification only add to the history. -/
theorem Calls.recorded {p : Prog ε Reply α} {P : Op → Prop} (hp : p.Calls P)
    (hfree : ∀ h op, P op → justified h op) :
    p.Guarded (recording justified) (fun _ h' => h <+: h') h := by
  refine hp.guarded (List.prefix_refl h) (fun op w w' hw hlonger => ?_)
    (fun op r w w' _ _ hlonger hrecords => ?_) fun op w hop _ _ => hfree w op hop
  · cases hw
    exact hlonger
  · rw [show w' = w ++ [⟨op, r⟩] from hrecords]
    exact hlonger.trans (List.prefix_append _ _)

/-- In a run against any server each call is justified by the calls before it. -/
theorem Guarded.of_recorded_run {p : Prog ε Reply α}
    {serve : σ → (op : Op) → Except ε (Reply op) → σ → Prop}
    {post : Except ε α → List (Σ op, Except ε (Reply op)) → Prop} {s s' : σ}
    {log : List (Σ op, Except ε (Reply op))} {r : Except ε α}
    (hp : p.Guarded (recording justified) post h) (hrun : p.Runs serve s log r s') :
    post r (h ++ log) ∧ ∀ before e after, log = before ++ e :: after → justified (h ++ before) e.1 := by
  induction hrun generalizing h with
  | done r s =>
    have hend : post r h := hp
    refine ⟨by simpa using hend, fun before e after hlog => ?_⟩
    cases before <;> cases hlog
  | @call op next reply s s₁ s₂ log r _ _ ih =>
    obtain ⟨hpre, hnext⟩ : justified h op ∧ ∀ r h', Records h op r h' →
      (next r).Guarded (recording justified) post h' := hp h rfl trivial
    obtain ⟨hend, hlater⟩ := ih (hnext reply _ rfl)
    refine ⟨by simpa using hend, fun before e after hlog => ?_⟩
    cases before with
    | nil =>
      obtain ⟨rfl, -⟩ := List.cons.inj hlog
      simpa using hpre
    | cons first before =>
      obtain ⟨rfl, hrest⟩ := List.cons.inj hlog
      simpa using hlater before e after hrest

end Recording

/-- A fact of a history that a longer history keeps. -/
def Lasts (Q : α → List (Σ op, Except ε (Reply op)) → Prop) : Prop :=
  ∀ a h h', h <+: h' → Q a h → Q a h'

/-- A program that ends in a value has a history which tells `Q` of it. -/
def Learns (Q : α → List (Σ op, Except ε (Reply op)) → Prop) (p : Prog ε Reply α) : Prop :=
  ∀ h, p.Guarded (recording fun _ _ => True) (fun r h' => h <+: h' ∧ ∀ a, r = .ok a → Q a h') h

section Learns
variable {Q : α → List (Σ op, Except ε (Reply op)) → Prop} {p : Prog ε Reply α}

theorem learns_any : p.Learns fun _ _ => True := fun _ =>
  ((calls_of_forall (P := fun _ => True) fun _ => trivial).recorded fun _ _ _ => trivial).mono
    fun _ _ hlonger => ⟨hlonger, fun _ _ => trivial⟩

theorem learns_perform (op : Op) :
    (Prog.perform op : Prog ε Reply _).Learns fun a h => ⟨op, .ok a⟩ ∈ h := by
  refine fun h => recorded_perform trivial fun r => ⟨List.prefix_append _ _, fun a ha => ?_⟩
  rw [ha]
  exact List.mem_append_right _ (List.mem_singleton_self _)

theorem learns_lift (x : Except ε α) : (liftM x : Prog ε Reply α).Learns fun a _ => x = .ok a :=
  fun _ => Guarded.lift ⟨List.prefix_refl _, fun _ ha => ha⟩

theorem learns_pure (a : α) : (pure a : Prog ε Reply α).Learns fun b _ => b = a := fun _ =>
  Guarded.lift ⟨List.prefix_refl _, fun _ hb => (Except.ok.inj hb).symm⟩

theorem Learns.mono {Q' : α → List (Σ op, Except ε (Reply op)) → Prop} (hp : p.Learns Q)
    (hQ : ∀ a h, Q a h → Q' a h) : p.Learns Q' := fun h =>
  (hp h).mono fun _ h' ⟨hlonger, hr⟩ => ⟨hlonger, fun a ha => hQ a h' (hr a ha)⟩

/-- What both parts of a sequence have learnt. -/
theorem Learns.bind {R : α → β → List (Σ op, Except ε (Reply op)) → Prop} {f : α → Prog ε Reply β}
    (hlasts : Lasts Q) (hp : p.Learns Q) (hf : ∀ a, (f a).Learns (R a)) :
    (p >>= f).Learns fun b h => ∃ a, Q a h ∧ R a b h := by
  refine fun h => Guarded.bind ((hp h).mono fun r h₁ hr => ?_)
  obtain ⟨hlonger, hr⟩ := hr
  cases r with
  | error e => exact ⟨hlonger, fun b hb => by cases hb⟩
  | ok a =>
    refine (hf a h₁).mono fun r h₂ hr₂ => ⟨hlonger.trans hr₂.1, fun b hb => ?_⟩
    exact ⟨a, hlasts a h₁ h₂ hr₂.1 (hr a rfl), hr₂.2 b hb⟩

/-- What the rest of a sequence learns, whatever its first part ended in. -/
theorem Learns.after {R : β → List (Σ op, Except ε (Reply op)) → Prop} {f : α → Prog ε Reply β}
    (hf : ∀ a, (f a).Learns R) : (p >>= f).Learns R :=
  (learns_any.bind (fun _ _ _ _ _ => trivial) hf).mono fun _ _ ⟨_, _, hR⟩ => hR

theorem Learns.lift_bind {R : β → List (Σ op, Except ε (Reply op)) → Prop} {x : Except ε α}
    {f : α → Prog ε Reply β} (hf : ∀ a, x = .ok a → (f a).Learns R) :
    ((liftM x : Prog ε Reply α) >>= f).Learns R := by
  refine fun h => Guarded.lift_bind (fun e _ => ⟨List.prefix_refl _, fun b hb => by cases hb⟩)
    fun a ha => hf a ha h

theorem Learns.onlyWhen {applies : Prop} [Decidable applies] {p : Prog ε Reply Unit}
    {R : List (Σ op, Except ε (Reply op)) → Prop} (hp : applies → p.Learns fun _ h => R h) :
    (Prog.onlyWhen applies p).Learns fun _ h => applies → R h := by
  unfold Prog.onlyWhen
  split
  · next happlies => exact (hp happlies).mono fun _ _ hR _ => hR
  · next happlies => exact learns_any.mono fun _ _ _ h => absurd h happlies

/-- A loop over a list learns of each value what its turn learns. -/
theorem Learns.mapM {γ : Type} {R : γ → β → List (Σ op, Except ε (Reply op)) → Prop}
    {f : γ → Prog ε Reply β} (hlasts : ∀ x, Lasts (R x)) (l : List γ) (hf : ∀ x, (f x).Learns (R x)) :
    (l.mapM f).Learns fun ys h => List.Forall₂ (fun x y => R x y h) l ys := by
  induction l with
  | nil =>
    rw [List.mapM_nil]
    refine (learns_lift (.ok [])).mono fun ys h hys => ?_
    cases hys
    exact .nil
  | cons x l ih =>
    rw [List.mapM_cons]
    refine (Learns.bind (hlasts x) (hf x) fun y => Learns.bind ?_ ih fun ys =>
      learns_lift (.ok (y :: ys))).mono fun zs h hzs => ?_
    · exact fun ys h h' hlonger hys =>
        List.Forall₂.imp (fun x y hxy => hlasts x y h h' hlonger hxy) hys
    · obtain ⟨y, hy, ys, hys, hzs⟩ := hzs
      cases hzs
      exact .cons hy hys

theorem Learns.forM {γ : Type} {R : γ → List (Σ op, Except ε (Reply op)) → Prop}
    {f : γ → Prog ε Reply PUnit} (hlasts : ∀ x h h', h <+: h' → R x h → R x h') (l : List γ)
    (hf : ∀ x, (f x).Learns fun _ h => R x h) : (l.forM f).Learns fun _ h => ∀ x ∈ l, R x h := by
  induction l with
  | nil => exact learns_any.mono fun _ _ _ x hx => by cases hx
  | cons x l ih =>
    refine (Learns.bind (fun _ => hlasts x) (hf x) fun _ => ih).mono fun _ h hx => ?_
    obtain ⟨_, hx, hl⟩ := hx
    exact List.forall_mem_cons.mpr ⟨hx, hl⟩

/-- A program whose calls are justified by what its history keeps, with what it learns. -/
theorem Learns.guarded {justified : List (Σ op, Except ε (Reply op)) → Op → Prop} {P : Op → Prop}
    {φ : List (Σ op, Except ε (Reply op)) → Prop} {h : List (Σ op, Except ε (Reply op))}
    (hp : p.Learns Q) (hcalls : p.Calls P) (hφ : φ h)
    (hkeep : ∀ h op r, P op → φ h → φ (h ++ [⟨op, r⟩])) (hfree : ∀ h op, P op → φ h → justified h op) :
    p.Guarded (recording justified) (fun r h' => h <+: h' ∧ φ h' ∧ ∀ a, r = .ok a → Q a h') h := by
  have hkept : p.Guarded (recording justified) (fun _ h' => φ h') h := by
    refine hcalls.guarded hφ (fun op w w' hw hφ => ?_) (fun op r w w' hop _ hφ hrecords => ?_)
      fun op w hop _ hφ => hfree w op hop hφ
    · cases hw
      exact hφ
    · rw [show w' = w ++ [⟨op, r⟩] from hrecords]
      exact hkeep w op r hop hφ
  exact ((hp h).both hkept).mono fun r h' ⟨⟨hlonger, hr⟩, hφ'⟩ => ⟨hlonger, hφ', hr⟩

end Learns
end Library.Prog
