import LineageTX.DisciplinedCalls
import LineageTX.Library.Pool
import Mathlib.Logic.Function.Basic

/-! Any number of coordinators over one store, their calls interleaved one by one, down to
the Git calls of a cleanup: for no migration are candidates deleted and the gate released. -/
namespace LineageTX
open Library Store
variable {py : Python} {κ : Type} {mid : String}

/-- The calls of a coordinator, and the Git calls of the methods of its worktree manager. -/
inductive SystemCall (py : Python) where
  | coordinator (c : CoordinatorCall py)
  | git (method : ManagerCall) (g : GitCall)

abbrev SystemCall.Reply : SystemCall py → Type
  | .coordinator c => c.Reply
  | .git _ g => g.Reply

variable (py) in
abbrev SystemProg := Prog Exn (@SystemCall.Reply py)

/-- A method of the worktree manager is done by its Git calls. -/
def CoordinatorCall.done (manager : WorktreeManager) : (c : CoordinatorCall py) → SystemProg py c.Reply
  | .worktrees method => (method.program py manager).expand fun g => Prog.perform (.git method g)
  | c => Prog.perform (SystemCall.coordinator c)

/-- The public methods of a coordinator. -/
inductive MigrationCall (py : Python) where
  | detect (intent : ChangeIntent) (attestation : DiscoveryAttestation py)
      (participants : List Participant)
  | prepare (repositoryRoots : Dict String)
  | approve (approval : OwnerApproval)
  | approveFromGithub (sourceApiUrl : String)
  | commit
  | abort
  | reconcileAbort

def MigrationCall.program (co : Coordinator py) (mid : String) : MigrationCall py → CoordinatorProg py Unit
  | .detect intent attestation participants => do let _ ← co.detect intent attestation participants
  | .prepare roots => do let _ ← co.prepare mid roots
  | .approve approval => do let _ ← co.approve mid approval
  | .approveFromGithub sourceApiUrl => do let _ ← co.approveFromGithub mid sourceApiUrl
  | .commit => do let _ ← co.commit mid
  | .abort => do let _ ← co.abort mid
  | .reconcileAbort => do let _ ← co.reconcileAbort mid

/-- A call of one coordinator for one migration. -/
structure GateThread (py : Python) (κ : Type) where
  coordinator : κ
  migrationId : String
  call : MigrationCall py

/-- What the race between abort and release is about: two reservations that succeeded, two
calls that were made, and two statuses that were recorded. -/
inductive Milestone where
  | armed | reserved | deletion | release | aborted | committed
  deriving DecidableEq

/-- The store, the maps of each coordinator and the milestones in the order of the steps. -/
structure GateWorld (py : Python) (κ : Type) where
  store : Store := {}
  memory : κ → CoordinatorMemory py
  trace : List (String × Milestone) := []

def StoreCall.milestone : StoreCall → List (String × Milestone)
  | .armPublicationGate m _ => [(m, .armed)]
  | .reserveAbortCleanup m _ _ => [(m, .reserved)]
  | .abortMigration m _ _ _ => [(m, .aborted)]
  | .transitionMigration m .committed _ _ _ _ _ => [(m, .committed)]
  | _ => []

/-- A call counts once it is made, whatever its answer. -/
def SystemCall.milestone (mid : String) : SystemCall py → List (String × Milestone)
  | .coordinator (.releaseGate ..) => [(mid, .release)]
  | .git (.abort _) _ => [(mid, .deletion)]
  | _ => []

/-- What a step may meet: the time, a failure, and the answers from outside. -/
structure Circumstance (py : Python) where
  now : String
  fails : Option Exn
  reply : (c : SystemCall py) → Result c.Reply

/-- One call: a transaction of the store happens as a whole or not at all, any other call
has any answer. -/
def GateWorld.perform [DecidableEq κ] (t : GateThread py κ) (m : Circumstance py) (w : GateWorld py κ) :
    (c : SystemCall py) → Result c.Reply × GateWorld py κ
  | .coordinator (.store c) =>
    match m.fails, c.answer py m.now w.store with
    | none, .ok (r, s) => (.ok r, { w with store := s, trace := w.trace ++ c.milestone })
    | none, .error e => (.error e, w)
    | some e, _ => (.error e, w)
  | .coordinator (.read r) =>
    match m.fails with
    | none => (r.answer py w.store, w)
    | some e => (.error e, w)
  | .coordinator .recalled => (.ok (w.memory t.coordinator), w)
  | .coordinator (.remember u) =>
    (.ok (), { w with memory := Function.update w.memory t.coordinator (u.apply (w.memory t.coordinator)) })
  | c => (m.reply c, { w with trace := w.trace ++ c.milestone t.migrationId })

/-- The coordinators; one may be replaced by a fresh process, whose maps are empty. -/
def gateSystem [DecidableEq κ] (co : κ → Coordinator py) (manager : κ → WorktreeManager) :
    System Exn (GateWorld py κ) (Circumstance py) (GateThread py κ) κ Unit (@SystemCall.Reply py) where
  perform _ t m w c := w.perform t m c
  program t := (t.call.program (co t.coordinator) t.migrationId).expand
    (CoordinatorCall.done (manager t.coordinator))
  ready _ _ := true
  replace k w := { w with memory := Function.update w.memory k {} }
  replaced k t := t.coordinator = k

/-- After an armed gate nothing is deleted and ABORTED is not recorded; after a reserved
cleanup the gate is not released and COMMITTED is not recorded. -/
def InOrder (earlier later : String × Milestone) : Prop :=
  earlier.1 = later.1 →
    (earlier.2 = .armed → later.2 ≠ .deletion ∧ later.2 ≠ .aborted) ∧
    (earlier.2 = .reserved → later.2 ≠ .release ∧ later.2 ≠ .committed)

/-- What every state of a run has. -/
structure GateWorld.Exclusive (w : GateWorld py κ) : Prop where
  race : ∀ mid, (w.store.race mid).Exclusive
  armed : ∀ mid, (mid, .armed) ∈ w.trace ∨ (mid, .release) ∈ w.trace →
    w.store.hasMigrationEvent mid gateArmedEvent = true
  reserved : ∀ mid, (mid, .reserved) ∈ w.trace ∨ (mid, .deletion) ∈ w.trace →
    w.store.hasMigrationEvent mid abortReservedEvent = true
  ordered : w.trace.Pairwise InOrder

section Discipline
variable {w : GateWorld py κ}

/-- What the answer to a call tells of the store. -/
def CoordinatorCall.Tells (s : Store) : (c : CoordinatorCall py) → Result c.Reply → Prop
  | .store (.armPublicationGate m _), .ok _ => s.hasMigrationEvent m gateArmedEvent = true
  | .store (.reserveAbortCleanup m _ _), .ok _ => s.hasMigrationEvent m abortReservedEvent = true
  | _, _ => True

/-- What a call may do. -/
def GateWorld.May (w : GateWorld py κ) (c : CoordinatorCall py) (reply : Result c.Reply)
    (w' : GateWorld py κ) : Prop :=
  w.store.Notes w'.store ∧ c.Tells w'.store reply

/-- The discipline down to the Git calls. -/
def SystemCall.Careful (mid : String) (s : Store) : SystemCall py → Prop
  | .coordinator c => c.Careful (fun _ => True) mid s
  | .git (.abort _) _ => s.hasMigrationEvent mid abortReservedEvent = true
  | .git _ _ => True

/-- The contract of a thread. -/
def gateContract (t : GateThread py κ) : Contract (GateWorld py κ) Exn (@SystemCall.Reply py) where
  inv := GateWorld.Exclusive
  rely _ w w' := w.store.Notes w'.store
  pre w c := c.Careful t.migrationId w.store
  can w c reply w' := match c, reply with
    | .coordinator c, reply => w.May c reply w'
    | .git _ _, _ => w.store.Notes w'.store

theorem may_answers :
    Answers (@GateWorld.store py (κ := κ)) (fun _ => True) GateWorld.May where
  notes h := h.1
  armed h := h.2
  reserved h := h.2
  reconciled _ := trivial
  released _ := trivial

/-- Every public method keeps the discipline of its migration. -/
theorem MigrationCall.careful (co : Coordinator py) (call : MigrationCall py) :
    (call.program co mid).Guarded (LineageTX.careful GateWorld.store (fun _ => True) mid GateWorld.May)
      (fun _ _ => True) w := by
  have hend : ∀ {α : Type} {p : CoordinatorProg py α},
      p.Guarded (LineageTX.careful GateWorld.store (fun _ => True) mid GateWorld.May)
        (fun _ _ => True) w →
      (do let _ ← p : CoordinatorProg py Unit).Guarded
        (LineageTX.careful GateWorld.store (fun _ => True) mid GateWorld.May) (fun _ _ => True) w := by
    intro α p hp
    refine Prog.Guarded.bind (hp.mono fun r w' _ => ?_)
    cases r <;> trivial
  cases call with
  | detect intent attestation participants =>
    exact hend (careful_of_calls may_answers (Coordinator.free_detect ..))
  | prepare roots => exact hend (Coordinator.prepare_careful may_answers roots)
  | approve approval => exact hend (Coordinator.approve_careful may_answers approval)
  | approveFromGithub url => exact hend (Coordinator.approveFromGithub_careful may_answers url)
  | commit => exact hend (Coordinator.commit_careful may_answers)
  | abort => exact hend (Coordinator.abort_careful may_answers)
  | reconcileAbort => exact hend (careful_of_calls may_answers (Coordinator.free_reconcileAbort _))

/-- A method of the worktree manager keeps it as well, call by call. -/
theorem done_guarded (t : GateThread py κ) (manager : WorktreeManager) (c : CoordinatorCall py)
    (hpre : ∀ w₁ : GateWorld py κ, w.store.Notes w₁.store → True →
      c.Careful (fun _ => True) t.migrationId w₁.store) :
    (c.done manager).Guarded (gateContract t) (fun reply w' => ∃ w₁ : GateWorld py κ,
      w.store.Notes w₁.store ∧ True ∧ w₁.May c reply w') w := by
  have hperform : (Prog.perform (SystemCall.coordinator c) : SystemProg py c.Reply).Guarded
      (gateContract t) (fun reply w' => ∃ w₁ : GateWorld py κ,
        w.store.Notes w₁.store ∧ True ∧ w₁.May c reply w') w :=
    Prog.Guarded.perform fun w₁ hnotes _ =>
      ⟨hpre w₁ hnotes trivial, fun r w₂ hmay => ⟨w₁, hnotes, trivial, hmay⟩⟩
  cases c with
  | worktrees method =>
    have hcalls : ((CoordinatorCall.worktrees method : CoordinatorCall py).done manager).Calls
        fun op => ∃ g, op = .git method g :=
      Prog.calls_expand fun g => Prog.calls_perform.mpr ⟨g, rfl⟩
    have hnotes := hcalls.guarded (c := gateContract t) (φ := fun w' => w.store.Notes w'.store) (.refl _)
      (fun _ _ _ hrely hw => hw.trans hrely)
      (fun op r w₁ w₂ hop _ hw hcan => by
        obtain ⟨g, rfl⟩ := hop
        exact hw.trans hcan)
      (fun op w₁ hop _ hw => by
        obtain ⟨g, rfl⟩ := hop
        have hcareful := hpre w₁ hw trivial
        cases method with
        | abort session => exact hcareful
        | _ => trivial)
    exact hnotes.mono fun r w' hw => ⟨w, .refl _, trivial, hw, trivial⟩
  | _ => exact hperform

theorem program_guarded (co : Coordinator py) (manager : WorktreeManager) (t : GateThread py κ) :
    ((t.call.program co t.migrationId).expand (CoordinatorCall.done manager)).Guarded (gateContract t)
      (fun _ _ => True) w :=
  Prog.Guarded.expand (fun c _ hpre => done_guarded t manager c hpre) (MigrationCall.careful co t.call)

end Discipline

section Milestones
variable {w : GateWorld py κ}

/-- What a new milestone finds and leaves. -/
structure Fits (s s' : Store) (e : String × Milestone) : Prop where
  armed : e.2 = .armed ∨ e.2 = .release → s'.hasMigrationEvent e.1 gateArmedEvent = true
  reserved : e.2 = .reserved ∨ e.2 = .deletion → s'.hasMigrationEvent e.1 abortReservedEvent = true
  unarmed : e.2 = .deletion ∨ e.2 = .aborted → ¬s.hasMigrationEvent e.1 gateArmedEvent = true
  unreserved : e.2 = .release ∨ e.2 = .committed → ¬s.hasMigrationEvent e.1 abortReservedEvent = true

theorem GateWorld.Exclusive.append (hw : w.Exclusive) {s' : Store} {memory : κ → CoordinatorMemory py}
    {steps : List (String × Milestone)} (hnotes : w.store.Notes s')
    (hrace : ∀ mid, (s'.race mid).Exclusive) (hone : steps.length ≤ 1)
    (hfits : ∀ e ∈ steps, Fits w.store s' e) :
    GateWorld.Exclusive { store := s', memory, trace := w.trace ++ steps } where
  race := hrace
  armed mid h := by
    simp only [List.mem_append] at h
    by_cases hold : (mid, Milestone.armed) ∈ w.trace ∨ (mid, Milestone.release) ∈ w.trace
    · exact hnotes _ _ (hw.armed mid hold)
    · have hnew : (mid, Milestone.armed) ∈ steps ∨ (mid, Milestone.release) ∈ steps := by grind
      cases hnew with
      | inl h => exact (hfits _ h).armed (.inl rfl)
      | inr h => exact (hfits _ h).armed (.inr rfl)
  reserved mid h := by
    simp only [List.mem_append] at h
    by_cases hold : (mid, Milestone.reserved) ∈ w.trace ∨ (mid, Milestone.deletion) ∈ w.trace
    · exact hnotes _ _ (hw.reserved mid hold)
    · have hnew : (mid, Milestone.reserved) ∈ steps ∨ (mid, Milestone.deletion) ∈ steps := by grind
      cases hnew with
      | inl h => exact (hfits _ h).reserved (.inl rfl)
      | inr h => exact (hfits _ h).reserved (.inr rfl)
  ordered := by
    refine List.pairwise_append.mpr ⟨hw.ordered, ?_, fun earlier hearlier later hlater heq => ?_⟩
    · match steps, hone with
      | [], _ => exact .nil
      | [e], _ => exact List.pairwise_singleton _ _
    · have hlater' := hfits later hlater
      obtain ⟨mid, kind⟩ := earlier
      refine ⟨fun harmed => ?_, fun hreserved => ?_⟩
      · have hgate : w.store.hasMigrationEvent later.1 gateArmedEvent = true := by
          cases harmed
          exact heq ▸ hw.armed mid (.inl hearlier)
        exact ⟨fun h => hlater'.unarmed (.inl h) hgate, fun h => hlater'.unarmed (.inr h) hgate⟩
      · have hcleanup : w.store.hasMigrationEvent later.1 abortReservedEvent = true := by
          cases hreserved
          exact heq ▸ hw.reserved mid (.inl hearlier)
        exact ⟨fun h => hlater'.unreserved (.inl h) hcleanup,
          fun h => hlater'.unreserved (.inr h) hcleanup⟩

/-- The milestone of a transaction that a careful caller asked for. -/
theorem storeCall_fits {c : StoreCall} {now mid : String} {s s' : Store}
    (hs : ∀ mid, (s.race mid).Exclusive)
    (hcareful : (@CoordinatorCall.store py c).Careful (fun _ => True) mid s)
    (hrun : c.run py now s = .ok s') : ∀ e ∈ c.milestone, Fits s s' e := by
  intro e he
  cases c with
  | armPublicationGate m v =>
    obtain rfl := List.mem_singleton.mp he
    exact ⟨fun _ => armed_of_run hrun, by simp, by simp, by simp⟩
  | reserveAbortCleanup m expected v =>
    obtain rfl := List.mem_singleton.mp he
    exact ⟨by simp, fun _ => reserved_of_run hrun, by simp, by simp⟩
  | abortMigration m receipt expected v =>
    obtain rfl := List.mem_singleton.mp he
    have hmoves := StoreCall.moves hrun m
    simp only [StoreCall.Moves, if_true] at hmoves
    exact ⟨by simp, by simp, fun _ => by simpa [Store.race] using hmoves.2.1, by simp⟩
  | transitionMigration m target expected v ev payload receipts =>
    cases target with
    | committed =>
      obtain rfl := List.mem_singleton.mp he
      obtain ⟨rfl, harmed, -⟩ := hcareful.2 rfl
      exact ⟨by simp, by simp, by simp, fun _ hreserved => (hs m).oneSide ⟨harmed, hreserved⟩⟩
    | _ => cases he
  | _ => cases he

/-- A careful call respects the reservations. -/
theorem respects_of_careful {c : StoreCall} {mid : String} {s : Store}
    (hs : ∀ mid, (s.race mid).Exclusive) {now : String} {s' : Store}
    (hcareful : (@CoordinatorCall.store py c).Careful (fun _ => True) mid s)
    (hrun : c.run py now s = .ok s') : c.Plain ∧ c.RespectsReservation s := by
  cases c with
  | transitionMigration m target expected v ev payload receipts =>
    refine ⟨hcareful.1, fun htarget => ?_⟩
    obtain ⟨rfl, harmed, -⟩ := hcareful.2 htarget
    by_contra hreserved
    exact (hs m).oneSide ⟨harmed, by simpa using hreserved⟩
  | transitionParticipant => exact ⟨hcareful, trivial⟩
  | reserveAbortCleanup m expected v =>
    refine ⟨trivial, fun hcommitted => ?_⟩
    have hmoves := StoreCall.moves hrun m
    simp only [StoreCall.Moves, if_true] at hmoves
    have hexpected : expected = .committed := Option.some.inj (hmoves.1.symm.trans hcommitted)
    have hopen : expected.isTerminal = false := hcareful
    rw [hexpected] at hopen
    exact absurd hopen (by decide)
  | _ => exact ⟨trivial, trivial⟩

end Milestones

section Steps
variable [DecidableEq κ] {w : GateWorld py κ} {t : GateThread py κ} {m : Circumstance py}

theorem perform_may (c : CoordinatorCall py) :
    w.May c (w.perform t m (.coordinator c)).1 (w.perform t m (.coordinator c)).2 := by
  cases c with
  | store c =>
    simp only [GateWorld.perform]
    split
    · next hfails r s hanswer =>
      have hrun := StoreCall.run_of_answer hanswer
      refine ⟨notes_of_events (StoreCall.events_append hrun), ?_⟩
      cases c with
      | armPublicationGate => exact armed_of_run hrun
      | reserveAbortCleanup => exact reserved_of_run hrun
      | _ => trivial
    · exact ⟨.refl _, by cases c <;> trivial⟩
    · exact ⟨.refl _, by cases c <;> trivial⟩
  | read r =>
    simp only [GateWorld.perform]
    split <;> exact ⟨.refl _, trivial⟩
  | _ => exact ⟨.refl _, trivial⟩

theorem perform_notes (c : SystemCall py) : w.store.Notes (w.perform t m c).2.store := by
  cases c with
  | coordinator c => exact (perform_may c).1
  | git method g => exact .refl _

/-- One step keeps the exclusion. -/
theorem perform_exclusive (hw : w.Exclusive) {c : SystemCall py} (hpre : c.Careful t.migrationId w.store) :
    (w.perform t m c).2.Exclusive := by
  have hsame : ∀ memory : κ → CoordinatorMemory py,
      GateWorld.Exclusive { store := w.store, memory, trace := w.trace } := by
    intro memory
    simpa using @GateWorld.Exclusive.append py κ _ hw _ memory [] (.refl _) hw.race (by simp) (by simp)
  have hstep : ∀ steps : List (String × Milestone), steps.length ≤ 1 →
      (∀ e ∈ steps, Fits w.store w.store e) →
      GateWorld.Exclusive { store := w.store, memory := w.memory, trace := w.trace ++ steps } :=
    fun steps hone hfits => hw.append (.refl _) hw.race hone hfits
  cases c with
  | git method g =>
    cases method with
    | abort session =>
      have hreserved : w.store.hasMigrationEvent t.migrationId abortReservedEvent = true := hpre
      refine hstep [(t.migrationId, .deletion)] (by simp) fun e he => ?_
      obtain rfl := List.mem_singleton.mp he
      exact ⟨by simp, fun _ => hreserved,
        fun _ harmed => (hw.race t.migrationId).oneSide ⟨harmed, hreserved⟩, by simp⟩
    | _ => exact hstep [] (by simp) (by simp)
  | coordinator c =>
    cases c with
    | store c =>
      simp only [GateWorld.perform]
      split
      · next hfails r s hanswer =>
        have hrun := StoreCall.run_of_answer hanswer
        obtain ⟨hplain, hrespects⟩ := respects_of_careful hw.race hpre hrun
        refine hw.append (notes_of_events (StoreCall.events_append hrun))
          ((exclusive_step hplain hrun hw.race).mpr hrespects) ?_ (storeCall_fits hw.race hpre hrun)
        unfold StoreCall.milestone
        split <;> simp
      · exact hw
      · exact hw
    | read r =>
      simp only [GateWorld.perform]
      split <;> exact hw
    | recalled => exact hw
    | remember u => exact hsame _
    | releaseGate request stage =>
      have harmed : w.store.hasMigrationEvent t.migrationId gateArmedEvent = true := hpre
      refine hstep [(t.migrationId, .release)] (by simp) fun e he => ?_
      obtain rfl := List.mem_singleton.mp he
      exact ⟨fun _ => harmed, by simp, by simp,
        fun _ hreserved => (hw.race t.migrationId).oneSide ⟨harmed, hreserved⟩⟩
    | _ => exact hstep [] (by simp) (by simp)

end Steps

variable [DecidableEq κ]

theorem gateSystem_sound (co : κ → Coordinator py) (manager : κ → WorktreeManager) :
    (gateSystem co manager).Sound (fun _ t => gateContract t) GateWorld.Exclusive
      (fun _ _ => True) where
  same _ _ := rfl
  refl _ _ _ _ := .refl _
  trans _ _ _ _ _ _ h h' := h.trans h'
  start _ t _ _ := program_guarded (co t.coordinator) (manager t.coordinator) t
  can pool n t op next m _ _ _ _ _ := by
    cases op with
    | coordinator c => exact perform_may c
    | git method g => exact perform_notes _
  keeps pool n t op next m _ _ _ hw hpre := perform_exclusive hw hpre
  others pool n t op next m _ _ _ _ _ n' t' op' next' _ _ := perform_notes op
  replace pool k _ hw := by
    refine ⟨?_, fun _ _ _ _ _ _ => .refl _⟩
    have hkept := @GateWorld.Exclusive.append py κ _ hw _ (Function.update pool.world.memory k {}) []
      (.refl _) hw.race (by simp) (by simp)
    simpa [gateSystem] using hkept

/-- Whatever the coordinators are asked for, however often, in every order of their steps and
whatever their calls answer: no migration has candidates deleted and its gate released, and
nothing comes after a side of the race that the side excludes. -/
theorem gate_or_cleanup (co : κ → Coordinator py) (manager : κ → WorktreeManager)
    (memory : κ → CoordinatorMemory py)
    (choices : List (Choice (Circumstance py) (GateThread py κ) κ)) :
    StatesMeet (Pool.step (gateSystem co manager)) (fun pool =>
      pool.world.trace.Pairwise InOrder ∧ ∀ mid,
        ¬((mid, .deletion) ∈ pool.world.trace ∧ (mid, .release) ∈ pool.world.trace))
      { world := { memory } } choices := by
  have hempty : GateWorld.Exclusive ({ memory } : GateWorld py κ) :=
    ⟨exclusive_empty, by simp, by simp, .nil⟩
  have hgood : StatesMeet (Pool.step (gateSystem co manager)) _ _ choices :=
    (gateSystem_sound co manager).good_run (System.Sound.good_init hempty)
      (callsMeet_of_forall fun _ _ _ => trivial)
  refine hgood.mono fun pool hpool => ⟨hpool.1.ordered, fun mid hboth => ?_⟩
  exact (hpool.1.race mid).oneSide
    ⟨hpool.1.armed mid (.inr hboth.2), hpool.1.reserved mid (.inr hboth.1)⟩

end LineageTX
