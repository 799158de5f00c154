import LineageTX.Library.Recording

/-! Programs that succeed against a server: every run from a state ends with a value. -/
namespace Library

/-- Each element of a list that is related to another has its partner there. -/
theorem exists_partner {α β : Type} {R : α → β → Prop} {l : List α} {l' : List β}
    (h : List.Forall₂ R l l') {a : α} (ha : a ∈ l) : ∃ b ∈ l', R a b := by
  induction h with
  | nil => cases ha
  | @cons a' b l l' hab _ ih =>
    rcases List.mem_cons.mp ha with rfl | hrest
    · exact ⟨b, List.mem_cons_self, hab⟩
    · obtain ⟨b', hb', hab'⟩ := ih hrest
      exact ⟨b', List.mem_cons_of_mem b hb', hab'⟩

theorem map_eq_of_partners {α β γ : Type} {R : α → β → Prop} {f : α → γ} {g : β → γ} {l : List α} {l' : List β}
    (hfg : ∀ a b, R a b → f a = g b) (h : List.Forall₂ R l l') : l.map f = l'.map g := by
  induction h with
  | nil => rfl
  | cons hab _ ih => rw [List.map_cons, List.map_cons, hfg _ _ hab, ih]

namespace Prog
variable {ε Op σ α β γ : Type} {Reply : Op → Type}
  {serve : σ → (op : Op) → Except ε (Reply op) → σ → Prop}

/-- Every run from the state ends with a value, which together with the state that is left
meets `post`. -/
def Succeeds (serve : σ → (op : Op) → Except ε (Reply op) → σ → Prop) (post : α → σ → Prop)
    (p : Prog ε Reply α) (s : σ) : Prop :=
  p.Guarded (.alone serve fun _ _ => True) (fun r s' => Told False (fun a => post a s') r) s

section Succeeds
variable {post post' : α → σ → Prop} {p : Prog ε Reply α} {s : σ}

theorem Succeeds.mono (h : p.Succeeds serve post s) (hpost : ∀ a s', post a s' → post' a s') :
    p.Succeeds serve post' s :=
  Guarded.mono (fun _ _ hr => hr.mono id fun _ ha => hpost _ _ ha) h

theorem Succeeds.of_run {log : List (Σ op, Except ε (Reply op))} {r : Except ε α} {s' : σ}
    (h : p.Succeeds serve post s) (hrun : p.Runs serve s log r s') : ∃ a, r = .ok a ∧ post a s' := by
  have hr := Guarded.of_run h hrun
  cases r with
  | ok a => exact ⟨a, rfl, hr⟩
  | error e => exact hr.elim

theorem succeeds_pure {a : α} (h : post a s) : (pure a : Prog ε Reply α).Succeeds serve post s := h

theorem succeeds_lift {x : Except ε α} {a : α} (hx : x = .ok a) (h : post a s) :
    (liftM x : Prog ε Reply α).Succeeds serve post s := by
  cases hx
  exact h

theorem Succeeds.bind {R : β → σ → Prop} {p : Prog ε Reply β} {f : β → Prog ε Reply α}
    (h : p.Succeeds serve R s) (hf : ∀ b s', R b s' → (f b).Succeeds serve post s') :
    (p >>= f).Succeeds serve post s := by
  refine Guarded.bind (Guarded.mono (fun r s' hr => ?_) h)
  cases r with
  | ok b => exact hf b s' hr
  | error e => exact hr.elim

theorem Succeeds.lift_bind {x : Except ε β} {b : β} {f : β → Prog ε Reply α} (hx : x = .ok b)
    (hf : (f b).Succeeds serve post s) : ((liftM x : Prog ε Reply β) >>= f).Succeeds serve post s := by
  cases hx
  exact hf

/-- A handler is not reached. -/
theorem Succeeds.tryCatch {f : ε → Prog ε Reply α} (h : p.Succeeds serve post s) :
    (tryCatch p f).Succeeds serve post s := by
  refine Guarded.tryCatch (Guarded.mono (fun r s' hr => ?_) h)
  cases r with
  | ok a => exact hr
  | error e => exact hr.elim

/-- A call that the server answers with a value. -/
theorem succeeds_perform {op : Op} {post : Reply op → σ → Prop}
    (h : ∀ r s', serve s op r s' → ∃ a, r = .ok a ∧ post a s') :
    (perform op : Prog ε Reply _).Succeeds serve post s := by
  refine Guarded.perform_alone trivial fun r s' hserve => ?_
  obtain ⟨a, rfl, ha⟩ := h r s' hserve
  exact ha

theorem succeeds_onlyWhen {applies : Prop} [Decidable applies] {p : Prog ε Reply Unit}
    {post : Unit → σ → Prop} (h : applies → p.Succeeds serve post s) (hnot : ¬applies → post () s) :
    (onlyWhen applies p).Succeeds serve post s := by
  unfold onlyWhen
  split
  · next happlies => exact h happlies
  · next hnone => exact hnot hnone

/-- A loop whose turns leave the state as it was. -/
theorem succeeds_forM {f : γ → Prog ε Reply PUnit} (l : List γ)
    (h : ∀ x ∈ l, (f x).Succeeds serve (fun _ s' => s' = s) s) :
    (l.forM f).Succeeds serve (fun _ s' => s' = s) s := by
  induction l with
  | nil => exact (rfl : s = s)
  | cons x l ih =>
    obtain ⟨hx, hl⟩ := List.forall_mem_cons.mp h
    refine Succeeds.bind hx fun _ s' hs' => ?_
    subst hs'
    exact ih hl

/-- A loop that collects a value of each turn. -/
theorem succeeds_mapM {f : γ → Prog ε Reply β} {R : γ → β → Prop} (l : List γ)
    (h : ∀ x ∈ l, (f x).Succeeds serve (fun b s' => s' = s ∧ R x b) s) :
    (l.mapM f).Succeeds serve (fun bs s' => s' = s ∧ List.Forall₂ R l bs) s := by
  induction l with
  | nil =>
    rw [List.mapM_nil]
    exact ⟨rfl, .nil⟩
  | cons x l ih =>
    obtain ⟨hx, hl⟩ := List.forall_mem_cons.mp h
    rw [List.mapM_cons]
    refine Succeeds.bind hx fun b s' hb => ?_
    obtain ⟨rfl, hb⟩ := hb
    refine Succeeds.bind (ih hl) fun bs s' hbs => ?_
    obtain ⟨rfl, hbs⟩ := hbs
    exact ⟨rfl, .cons hb hbs⟩

end Succeeds
end Prog
end Library
