import LineageTX.Transaction

/-! One coordinator at its store, with nobody in between: what the calls are answered,
and the calls that only read. -/
namespace LineageTX
open Library
variable {py : Python}

/-- The store and the coordinator's own maps. -/
structure CoordinatorState (py : Python) where
  store : Store
  memory : CoordinatorMemory py

/-- A call that changes neither the store nor a map, a candidate or a service. -/
def CoordinatorCall.ReadsOnly : CoordinatorCall py → Prop
  | .read _ | .recalled | .verify .. | .utcNow => True
  | _ => False

/-- The answers of the store and of the maps; every call of the store may fail, and what
the services answer is given from outside. -/
def Serves (services : (c : CoordinatorCall py) → Result c.Reply → Prop) (w : CoordinatorState py) :
    (c : CoordinatorCall py) → Result c.Reply → CoordinatorState py → Prop
  | .store c, reply, w' =>
    (∃ now r s, c.answer py now w.store = .ok (r, s) ∧ reply = .ok r ∧ w' = { w with store := s }) ∨
      ∃ e, reply = .error e ∧ w' = w
  | .read r, reply, w' => (reply = r.answer py w.store ∨ ∃ e, reply = .error e) ∧ w' = w
  | .recalled, reply, w' => reply = .ok w.memory ∧ w' = w
  | .remember u, reply, w' => reply = .ok () ∧ w' = { w with memory := u.apply w.memory }
  | c, reply, w' => services c reply ∧ w' = w

/-- What the store returns does not matter to what it becomes. -/
theorem StoreCall.run_of_answer {c : StoreCall} {now : String} {s s' : Store} {r : c.Returned}
    (h : c.answer py now s = .ok (r, s')) : c.run py now s = .ok s' := by
  cases c with
  | createMigration | transitionMigration | abortMigration | transitionParticipant =>
    exact bind_eq_ok.mpr ⟨_, h, rfl⟩
  | armPublicationGate | reserveAbortCleanup | recordApproval =>
    obtain ⟨t, ht, hr⟩ := bind_eq_ok.mp h
    cases hr
    exact ht

section Reads
variable {services : (c : CoordinatorCall py) → Result c.Reply → Prop}
  {c : Contract (CoordinatorState py) Exn (@CoordinatorCall.Reply py)}
  {w : CoordinatorState py}

/-- The contract of a program that only reads. -/
def Reading (services : (c : CoordinatorCall py) → Result c.Reply → Prop) (w : CoordinatorState py) :
    Contract (CoordinatorState py) Exn (@CoordinatorCall.Reply py) :=
  .alone (Serves services) fun w' op => op.ReadsOnly ∧ w' = w

/-- An exception tells nothing of a value. -/
theorem error_tells {α : Type} {Q : α → Prop} (e : Exn) :
    w = w ∧ ∀ a, (.error e : Result α) = .ok a → Q a :=
  ⟨rfl, fun _ h => by cases h⟩

theorem guarded_read (r : StoreRead) : (CoordinatorCall.read r).run.Guarded (Reading services w)
    (fun reply w' => w' = w ∧ ∀ a, reply = .ok a → r.answer py w.store = .ok a) w := by
  refine Prog.Guarded.perform_alone ⟨trivial, rfl⟩ fun reply w' h => ?_
  obtain ⟨hreply, rfl⟩ := h
  refine ⟨rfl, fun a ha => ?_⟩
  rcases hreply with hreply | ⟨e, he⟩
  · rw [← hreply, ha]
  · rw [he] at ha
    cases ha

theorem guarded_recalled : (@recalled py).Guarded (Reading services w)
    (fun reply w' => w' = w ∧ ∀ m, reply = .ok m → w.memory = m) w := by
  refine Prog.Guarded.perform_alone ⟨trivial, rfl⟩ fun reply w' h => ?_
  obtain ⟨hreply, rfl⟩ := h
  exact ⟨rfl, fun m hm => Except.ok.inj (hreply.symm.trans hm)⟩

theorem runs_read {r : StoreRead} {a : r.Reply} (h : r.answer py w.store = .ok a) :
    (CoordinatorCall.read r).run.Runs (Serves services) w [⟨.read r, .ok a⟩] (.ok a) w :=
  Prog.runs_perform.mpr ⟨rfl, .inl h.symm, rfl⟩

theorem runs_recalled : (@recalled py).Runs (Serves services) w
    [⟨.recalled, .ok w.memory⟩] (.ok w.memory) w :=
  Prog.runs_perform.mpr ⟨rfl, rfl, rfl⟩

end Reads
/-- A call that leaves the store, the maps, the candidates and the publication alone. -/
def CoordinatorCall.Quiet : CoordinatorCall py → Prop
  | .store _ | .remember _ | .worktrees _ | .runAdapter .. | .stage _ | .reconcile ..
  | .releaseGate .. => False
  | _ => True

namespace Coordinator
variable {co : Coordinator py}

theorem record_quiet (calls : List EvidenceCall) : (co.record calls).Calls CoordinatorCall.Quiet :=
  .onlyWhen fun _ => .forM calls fun _ _ => Prog.calls_perform.mpr trivial

theorem requiredContext_quiet (mid : String) :
    (@requiredContext py mid).Calls CoordinatorCall.Quiet := by
  refine .bind (Prog.calls_perform.mpr trivial) fun memory => ?_
  split <;> trivial

theorem writeback_quiet (migration : MigrationRecord) (stage : String)
    (refreshed : Option (ContextObject py)) :
    (co.writeback migration stage refreshed).Calls CoordinatorCall.Quiet := by
  refine .onlyWhen fun _ => .bind (requiredContext_quiet _) fun context => ?_
  refine .bind (Prog.calls_perform.mpr trivial) fun participants => ?_
  refine .bind (Prog.calls_lift _) fun writebacks => ?_
  exact .bind (Prog.calls_perform.mpr trivial) fun _ => record_quiet _

end Coordinator
end LineageTX
