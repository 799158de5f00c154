import LineageTX.CoordinatorRuns
import LineageTX.RaceRuns

/-! What every coordinator respects at its calls, whatever others do to the store in
between: a cleanup and an abort come after the reservation, the release of the gate and
COMMITTED after the arming, and the receipts of COMMITTED are those of a publication. -/
namespace LineageTX
open Library Store
variable {py : Python} {mid : String} {returned : PublicationResult → Prop}

section Notes
variable {now : String} {s s' : Store}

/-- Events are only ever added. -/
def Store.Notes (s s' : Store) : Prop :=
  ∀ m ev, s.hasMigrationEvent m ev = true → s'.hasMigrationEvent m ev = true

theorem Store.Notes.refl (s : Store) : s.Notes s := fun _ _ h => h

theorem Store.Notes.trans {s t u : Store} (h : s.Notes t) (h' : t.Notes u) : s.Notes u :=
  fun m ev hs => h' m ev (h m ev hs)

theorem notes_of_events (h : ∃ added, s'.events = s.events ++ added) : s.Notes s' := by
  intro m ev hev
  obtain ⟨added, hadded⟩ := h
  rw [Store.hasMigrationEvent, hadded, List.any_append]
  exact Bool.or_eq_true_iff.mpr (.inl hev)

theorem foldlM_events {α : Type} {f : Store → α → Result Store} {l : List α}
    (hf : ∀ {s s' : Store} {a : α}, f s a = .ok s' → ∃ added, s'.events = s.events ++ added)
    (h : l.foldlM f s = .ok s') : ∃ added, s'.events = s.events ++ added := by
  induction l generalizing s with
  | nil =>
    obtain ⟨⟩ := h
    exact ⟨[], (List.append_nil _).symm⟩
  | cons a l ih =>
    obtain ⟨t, ht, h⟩ := bind_eq_ok.mp (by simpa using h)
    obtain ⟨first, hfirst⟩ := hf ht
    obtain ⟨rest, hrest⟩ := ih h
    exact ⟨first ++ rest, by rw [hrest, hfirst, List.append_assoc]⟩

theorem insertParticipant_events {p : Participant} (h : s.insertParticipant py p = .ok s') :
    ∃ added, s'.events = s.events ++ added := by
  simp only [insertParticipant, bind_eq_ok] at h
  obtain ⟨_, -, _, -, ⟨⟩⟩ := h
  exact ⟨[], (List.append_nil _).symm⟩

theorem abortParticipant_events {row : ParticipantRow} (h : abortParticipant now s row = .ok s') :
    ∃ added, s'.events = s.events ++ added := by
  rcases abortParticipant_cases h with ⟨-, rfl⟩ | ⟨-, t, ht, rfl⟩
  · exact ⟨[], (List.append_nil _).symm⟩
  · obtain ⟨-, rfl⟩ := updateParticipant_eq_ok.mp ht
    exact ⟨_, rfl⟩

/-- No call takes an event out of the log. -/
theorem StoreCall.events_append {c : StoreCall} (h : c.run py now s = .ok s') :
    ∃ added, s'.events = s.events ++ added := by
  cases c with
  | createMigration i ps =>
    obtain ⟨r, hr, ⟨⟩⟩ := bind_eq_ok.mp h
    obtain ⟨-, -, -, -, t, ht, hs'⟩ := createMigration_cases hr
    obtain ⟨added, hadded⟩ := foldlM_events (fun hp => insertParticipant_events hp) ht
    exact ⟨_, by rw [hs', Store.appendEvent, hadded, List.append_assoc]⟩
  | armPublicationGate m v =>
    obtain ⟨row, -, -, -, -, ⟨-, rfl⟩ | rfl⟩ := armPublicationGate_cases h
    · exact ⟨[], (List.append_nil _).symm⟩
    · exact ⟨_, rfl⟩
  | reserveAbortCleanup m e v =>
    obtain ⟨row, -, -, -, -, ⟨-, rfl⟩ | rfl⟩ := reserveAbortCleanup_cases h
    · exact ⟨[], (List.append_nil _).symm⟩
    · exact ⟨_, rfl⟩
  | transitionMigration m target e v ev payload receipts =>
    obtain ⟨r, hr, ⟨⟩⟩ := bind_eq_ok.mp h
    obtain ⟨-, -, -, -, row, t, -, -, -, -, ht, hs', -⟩ := transitionMigration_cases hr
    obtain ⟨-, rfl⟩ := updateMigration_eq_ok.mp ht
    exact ⟨_, by rw [hs']; rfl⟩
  | abortMigration m receipt e v =>
    obtain ⟨r, hr, ⟨⟩⟩ := bind_eq_ok.mp h
    obtain ⟨-, -, -, row, t, u, -, -, -, -, ht, rfl, hloop, -⟩ := abortMigration_cases hr
    obtain ⟨-, rfl⟩ := updateMigration_eq_ok.mp ht
    obtain ⟨added, hadded⟩ :=
      foldlM_events (fun hrow => abortParticipant_events hrow) hloop
    exact ⟨_, by rw [hadded, Store.appendEvent, List.append_assoc]⟩
  | transitionParticipant pid target e v ev payload sha links =>
    obtain ⟨r, hr, ⟨⟩⟩ := bind_eq_ok.mp h
    obtain ⟨row, parent, value, t, -, -, -, -, -, -, -, -, ht, -, hs'⟩ := transitionParticipant_cases hr
    obtain ⟨-, rfl⟩ := updateParticipant_eq_ok.mp ht
    exact ⟨_, by rw [hs']; rfl⟩
  | recordApproval receipt =>
    obtain ⟨row, parent, p, i, -, -, -, -, -, -, -, -, -, -, rfl⟩ := recordApproval_cases h
    exact ⟨_, rfl⟩

theorem notes_storeStep (c : String × StoreCall) : s.Notes (storeStep py s c) := by
  rcases c.2.after_cases py c.1 s with h | h
  · rw [storeStep, h]
    exact .refl s
  · exact notes_of_events (StoreCall.events_append h)

theorem notes_run (calls : List (String × StoreCall)) : s.Notes (calls.foldl (storeStep py) s) := by
  induction calls generalizing s with
  | nil => exact .refl s
  | cons c calls ih => exact (notes_storeStep c).trans ih

theorem armed_of_run {m : String} {v : Int}
    (h : (StoreCall.armPublicationGate m v).run py now s = .ok s') :
    s'.hasMigrationEvent m gateArmedEvent = true := by
  obtain ⟨row, -, -, -, -, ⟨hgate, rfl⟩ | rfl⟩ := armPublicationGate_cases h
  · exact hgate
  · simp

theorem reserved_of_run {m : String} {e : MigrationStatus} {v : Int}
    (h : (StoreCall.reserveAbortCleanup m e v).run py now s = .ok s') :
    s'.hasMigrationEvent m abortReservedEvent = true := by
  obtain ⟨row, -, -, -, -, ⟨hreserved, rfl⟩ | rfl⟩ := reserveAbortCleanup_cases h
  · exact hreserved
  · simp

end Notes

/-- The publication of three candidates, one coordinated pull request and one gate. -/
structure PublicationResult.Shaped (p : PublicationResult) : Prop where
  three : p.candidateReceipts.length = 3
  candidates : ∀ r ∈ p.candidateReceipts, r.kind = .candidateCommit
  pullRequest : p.coordinatedPrReceipt.kind = .coordinatedPr
  gate : p.producerGateReceipt.kind = .producerGateReleased

/-- What `commit` writes to the event of COMMITTED beside the receipts. -/
def committedPayload (impactFingerprint : String) : List (String × Json) := [
  ("impact_fingerprint", .str impactFingerprint), ("unverified_consumers", .int 0),
  ("auto_merge", .bool false)]

/-- The discipline of a coordinator that works on one migration. -/
def CoordinatorCall.Careful (returned : PublicationResult → Prop) (mid : String) (s : Store) :
    CoordinatorCall py → Prop
  | .store (.transitionMigration m target _ _ ev payload receipts) => PlainEvent ev ∧
    (target = .committed → m = mid ∧ s.hasMigrationEvent mid gateArmedEvent = true ∧
      ∃ fingerprint publication, payload = committedPayload fingerprint ∧
        receipts = publication.receipts ∧ publication.Shaped ∧ returned publication)
  | .store (.transitionParticipant _ _ _ _ ev _ _ _) => PlainEvent ev
  | .store (.reserveAbortCleanup _ expected _) => expected.isTerminal = false
  | .store (.abortMigration m receipt _ _) => m = mid ∧
    s.hasMigrationEvent mid abortReservedEvent = true ∧ receipt.postInit py = .ok receipt
  | .worktrees (.abort _) => s.hasMigrationEvent mid abortReservedEvent = true
  | .releaseGate .. => s.hasMigrationEvent mid gateArmedEvent = true
  | _ => True

/-- A call that needs no care. -/
def CoordinatorCall.Free (returned : PublicationResult → Prop) (mid : String)
    (op : CoordinatorCall py) : Prop := ∀ s, op.Careful returned mid s

theorem free_of_quiet {op : CoordinatorCall py} (h : op.Quiet) : op.Free returned mid := by
  intro s
  cases op with
  | store | remember | worktrees | runAdapter | stage | reconcile | releaseGate => exact h.elim
  | _ => trivial

namespace Coordinator
variable {co : Coordinator py} {α : Type}

theorem calls_free_of_quiet {p : CoordinatorProg py α} (h : p.Calls CoordinatorCall.Quiet) :
    p.Calls (CoordinatorCall.Free returned mid) :=
  h.mono fun _ => free_of_quiet

theorem free_perform {op : CoordinatorCall py} (h : op.Free returned mid) :
    op.run.Calls (CoordinatorCall.Free returned mid) :=
  Prog.calls_perform.mpr h

theorem free_read (r : StoreRead) :
    (@CoordinatorCall.read py r).run.Calls (CoordinatorCall.Free returned mid) :=
  free_perform fun _ => trivial

theorem free_recalled : (@recalled py).Calls (CoordinatorCall.Free returned mid) :=
  free_perform fun _ => trivial

theorem free_utcNow : (@CoordinatorCall.utcNow py).run.Calls (CoordinatorCall.Free returned mid) :=
  free_perform fun _ => trivial

theorem free_remember (u : MemoryUpdate py) :
    (remember u).Calls (CoordinatorCall.Free returned mid) :=
  free_perform fun _ => trivial

theorem free_record (calls : List EvidenceCall) :
    (co.record calls).Calls (CoordinatorCall.Free returned mid) :=
  calls_free_of_quiet (record_quiet calls)

theorem free_writeback (migration : MigrationRecord) (stage : String)
    (refreshed : Option (ContextObject py)) :
    (co.writeback migration stage refreshed).Calls (CoordinatorCall.Free returned mid) :=
  calls_free_of_quiet (writeback_quiet migration stage refreshed)

theorem free_requiredContext (m : String) :
    (@requiredContext py m).Calls (CoordinatorCall.Free returned mid) :=
  calls_free_of_quiet (requiredContext_quiet m)

/-- The moves of a participant by the coordinator have plain event names. -/
theorem free_transitionParticipant {pid ev : String} {target expected : ParticipantStatus} {v : Int}
    {payload : List (String × Json)} (hev : PlainEvent ev) :
    (@transitionParticipant py pid target expected v ev payload).Calls
      (CoordinatorCall.Free returned mid) :=
  free_perform fun _ => hev

/-- So have those of a migration other than the one to COMMITTED. -/
theorem free_transition {m ev : String} {target expected : MigrationStatus} {v : Int}
    {payload : List (String × Json)} {receipts : List CoordinationReceipt} (hev : PlainEvent ev)
    (htarget : target ≠ .committed) :
    (@transition py m target expected v ev payload receipts).Calls
      (CoordinatorCall.Free returned mid) :=
  free_perform fun _ => ⟨hev, fun h => absurd h htarget⟩

section Commit

theorem free_refreshImpact (context : ContextObject py) (refusal : String) :
    (refreshImpact context refusal).Calls (CoordinatorCall.Free returned mid) :=
  .bind (free_perform fun _ => trivial) fun _ => .bind (Prog.calls_lift _) fun _ => trivial

theorem free_lookUpVerified (m : String) :
    (co.lookUpVerified m).Calls (CoordinatorCall.Free returned mid) := by
  refine .bind (free_perform fun _ => trivial) fun memory => ?_
  split
  · exact .bind (Prog.calls_lift _) fun _ => trivial
  · trivial

theorem free_reverifyApproval (m : String) (intent : ChangeIntent) :
    (co.reverifyApproval m intent).Calls (CoordinatorCall.Free returned mid) := by
  refine .bind (free_lookUpVerified m) fun verified => ?_
  refine .bind (free_perform fun _ => trivial) fun current => ?_
  exact .bind (Prog.calls_lift _) fun _ => free_record _

theorem free_verifiedCandidate (m : String) (participant : Participant) :
    (@verifiedCandidate py m participant).Calls (CoordinatorCall.Free returned mid) := by
  refine .bind (Prog.calls_lift _) fun _ => .bind (free_perform fun _ => trivial) fun memory => ?_
  dsimp only
  split
  · exact .bind (Prog.calls_lift _) fun _ => trivial
  · trivial

theorem free_stagePublication (m : String) (refreshed : ContextObject py) (intent : ChangeIntent) :
    (stagePublication m refreshed intent).Calls (CoordinatorCall.Free returned mid) := by
  refine .bind (free_read _) fun participants => ?_
  refine .bind (.mapM _ fun p _ => free_verifiedCandidate m p) fun candidates => ?_
  refine .bind (Prog.calls_lift _) fun _ => .bind (Prog.calls_lift _) fun request => ?_
  refine .bind (.forM _ fun c _ => .bind (free_perform fun _ => trivial) fun _ => trivial) fun _ => ?_
  refine .bind (free_perform fun _ => trivial) fun stage => ?_
  exact .bind (Prog.calls_lift _) fun _ => trivial

theorem free_readyToRelease (m : String) (migration : MigrationRecord) (context : ContextObject py) :
    (co.readyToRelease m migration context).Calls (CoordinatorCall.Free returned mid) := by
  refine .bind (free_refreshImpact _ _) fun refreshed => ?_
  refine .bind (free_writeback _ _ _) fun _ => ?_
  refine .bind (.onlyWhen fun _ => free_reverifyApproval m _) fun _ => ?_
  exact free_stagePublication m refreshed _

end Commit

end Coordinator

/-- What the discipline takes from the answers to a coordinator's calls. -/
structure Answers {World : Type} (store : World → Store) (returned : PublicationResult → Prop)
    (can : World → (op : CoordinatorCall py) → Result op.Reply → World → Prop) : Prop where
  notes : ∀ {w op reply w'}, can w op reply w' → (store w).Notes (store w')
  armed : ∀ {w m v u w'}, can w (.store (.armPublicationGate m v)) (.ok u) w' →
    (store w').hasMigrationEvent m gateArmedEvent = true
  reserved : ∀ {w m e v u w'}, can w (.store (.reserveAbortCleanup m e v)) (.ok u) w' →
    (store w').hasMigrationEvent m abortReservedEvent = true
  reconciled : ∀ {w request stage publication w'},
    can w (.reconcile request stage) (.ok (some publication)) w' → returned publication
  released : ∀ {w request stage publication w'},
    can w (.releaseGate request stage) (.ok publication) w' → returned publication

/-- The contract of a coordinator that works on one migration, while others add events. -/
def careful {World : Type} (store : World → Store) (returned : PublicationResult → Prop) (mid : String)
    (can : World → (op : CoordinatorCall py) → Result op.Reply → World → Prop) :
    Contract World Exn (@CoordinatorCall.Reply py) where
  inv _ := True
  rely _ w w' := (store w).Notes (store w')
  pre w op := op.Careful returned mid (store w)
  can

section Guarded
variable {World α β : Type} {store : World → Store} {w : World}
  {can : World → (op : CoordinatorCall py) → Result op.Reply → World → Prop}

theorem careful_of_free (h : Answers store returned can) {p : CoordinatorProg py α}
    (hp : p.Calls (CoordinatorCall.Free returned mid)) :
    p.Guarded (careful store returned mid can) (fun _ w' => (store w).Notes (store w')) w :=
  hp.guarded (φ := fun w' => (store w).Notes (store w')) (.refl _)
    (fun _ _ _ hrely hφ => hφ.trans hrely) (fun _ _ _ _ _ _ hφ hcan => hφ.trans (h.notes hcan))
    fun _ w' hop _ _ => hop (store w')

/-- A first part that needs no care. -/
theorem careful_free_bind (h : Answers store returned can) {p : CoordinatorProg py α}
    {f : α → CoordinatorProg py β} (hp : p.Calls (CoordinatorCall.Free returned mid))
    (hf : ∀ a w', (store w).Notes (store w') →
      (f a).Guarded (careful store returned mid can) (fun _ _ => True) w') :
    (p >>= f).Guarded (careful store returned mid can) (fun _ _ => True) w := by
  refine Prog.Guarded.bind ((careful_of_free h hp).mono fun r w' hr => ?_)
  cases r with
  | ok a => exact hf a w' hr
  | error e => trivial

/-- A program all of whose calls need no care. -/
theorem careful_of_calls (h : Answers store returned can) {p : CoordinatorProg py α}
    (hp : p.Calls (CoordinatorCall.Free returned mid)) :
    p.Guarded (careful store returned mid can) (fun _ _ => True) w :=
  (careful_of_free h hp).mono fun _ _ _ => trivial

/-- The discipline at a server that answers for everybody else as well. -/
theorem careful_alone {post : Result α → World → Prop} {p : CoordinatorProg py α}
    (h : p.Guarded (careful store returned mid can) post w) :
    p.Guarded (.alone can fun w op => op.Careful returned mid (store w)) post w := by
  refine Prog.Guarded.weaken (c := careful store returned mid can) (fun _ w w₁ hsame => ?_)
    (fun _ _ => trivial) (fun _ _ _ hpre => hpre) (fun _ _ _ _ hcan => hcan) h
  rw [show w₁ = w from hsame]
  exact .refl _

namespace Coordinator
variable {co : Coordinator py}

theorem armGate_careful (h : Answers store returned can) (version : Int) :
    (@armGate py mid version).Guarded (careful store returned mid can) (fun r w' =>
      r = .ok () → (store w').hasMigrationEvent mid gateArmedEvent = true) w := by
  refine Prog.Guarded.tryCatch (Prog.Guarded.perform fun w₁ _ _ => ⟨trivial, fun r w₂ hcan => ?_⟩)
  cases r with
  | ok u => exact fun _ => h.armed hcan
  | error e =>
    dsimp only
    split
    · exact fun he => by cases he
    · exact fun he => by cases he

/-- The publication that the publisher returns while the gate is armed. -/
theorem releaseOrReconcile_careful (h : Answers store returned can) (ready : ReadyToRelease py)
    (harmed : (store w).hasMigrationEvent mid gateArmedEvent = true) :
    (co.releaseOrReconcile ready).Guarded (careful store returned mid can) (fun r w' =>
      (store w).Notes (store w') ∧ ∀ p, r = .ok p → returned p) w := by
  refine Prog.Guarded.bind ((careful_of_free h (free_record _)).mono fun r w₁ hr => ?_)
  cases r with
  | error e => exact ⟨hr, fun p hp => by cases hp⟩
  | ok _ =>
    refine Prog.Guarded.bind (Prog.Guarded.perform fun w₂ hrely _ => ⟨trivial, fun r w₃ hcan => ?_⟩)
    have hnotes := (hr.trans hrely).trans (h.notes hcan)
    cases r with
    | error e => exact ⟨hnotes, fun p hp => by cases hp⟩
    | ok found =>
      cases found with
      | some publication =>
        refine ⟨hnotes, fun p hp => ?_⟩
        cases hp
        exact h.reconciled hcan
      | none =>
        refine Prog.Guarded.perform fun w₄ hrely₄ _ => ⟨(hnotes.trans hrely₄) _ _ harmed, ?_⟩
        intro r w₅ hcan₅
        refine ⟨(hnotes.trans hrely₄).trans (h.notes hcan₅), fun p hp => ?_⟩
        cases hp
        exact h.released hcan₅

/-- What a publication that was validated for three candidates is made of. -/
theorem shaped_of_validate {p : PublicationResult} {request : PublicationRequest}
    (h : p.validate request = .ok ()) (hthree : request.candidates.length = 3) : p.Shaped := by
  simp only [PublicationResult.validate, PublicationStage.validate, PublicationResult.stage,
    bind_eq_ok, requirePublication_eq_ok, List.all_eq_true] at h
  obtain ⟨_, ⟨_, hlength, _, -, _, -, _, hcandidates, _, hpr, -⟩, _, hgate, -⟩ := h
  exact ⟨(of_decide_eq_true hlength).trans hthree,
    fun r hr => of_decide_eq_true (hcandidates r hr), of_decide_eq_true hpr, of_decide_eq_true hgate⟩

theorem publish_careful (h : Answers store returned can) (ready : ReadyToRelease py)
    (hthree : ready.request.candidates.length = 3)
    (harmed : (store w).hasMigrationEvent mid gateArmedEvent = true) :
    (co.publish ready).Guarded (careful store returned mid can) (fun r w' =>
      (store w).Notes (store w') ∧ ∀ p, r = .ok p → p.Shaped ∧ returned p) w := by
  refine Prog.Guarded.tryCatch (Prog.Guarded.bind
    ((releaseOrReconcile_careful h ready harmed).mono fun r w₁ hr => ?_))
  obtain ⟨hnotes, hr⟩ := hr
  have hfail : ∀ _ : Exn, (do
      co.record [.writeJson "publication/reconciliation-required.json", .seal]
      coordinationError ("Producer gate release could be externally visible; candidates were " ++
        "retained and commit must be retried to reconcile publication") :
          CoordinatorProg py PublicationResult).Guarded (careful store returned mid can)
      (fun r w' => (store w).Notes (store w') ∧ ∀ p, r = .ok p → p.Shaped ∧ returned p) w₁ := by
    intro _
    refine Prog.Guarded.bind ((careful_of_free h (free_record _)).mono fun r w₂ hr₂ => ?_)
    cases r with
    | ok _ => exact ⟨hnotes.trans hr₂, fun p hp => by cases hp⟩
    | error e => exact ⟨hnotes.trans hr₂, fun p hp => by cases hp⟩
  cases r with
  | error e => exact hfail e
  | ok publication =>
    refine Prog.Guarded.lift_bind (fun e _ => hfail e) fun _ hvalid => ?_
    refine ⟨hnotes, fun p hp => ?_⟩
    cases hp
    exact ⟨shaped_of_validate hvalid hthree, hr publication rfl⟩

theorem persistCommitted_careful (h : Answers store returned can) (migration : MigrationRecord)
    (refreshed : ContextObject py) {publication : PublicationResult} (hshaped : publication.Shaped)
    (hreturned : returned publication)
    (harmed : (store w).hasMigrationEvent mid gateArmedEvent = true) :
    (co.persistCommitted mid migration refreshed publication).Guarded
      (careful store returned mid can) (fun _ _ => True) w := by
  refine Prog.Guarded.tryCatch (Prog.Guarded.perform fun w₁ hrely _ => ⟨?_, fun r w₂ _ => ?_⟩)
  · refine ⟨by decide, fun _ => ⟨rfl, hrely _ _ harmed, ?_⟩⟩
    exact ⟨refreshed.data.impactFingerprint, publication, rfl, rfl, hshaped, hreturned⟩
  · cases r with
    | ok _ => trivial
    | error e =>
      refine careful_of_calls h (.bind (free_read _) fun current => ?_)
      split
      · trivial
      · exact .bind (free_record _) fun _ => trivial

theorem free_finalWriteback (m : String) (migration : MigrationRecord) (refreshed : ContextObject py)
    (publication : PublicationResult) (stage failure capture : String) (msg : Exn → String) :
    (co.finalWriteback m migration refreshed publication stage failure capture msg).Calls
      (CoordinatorCall.Free returned mid) := by
  refine .bind (.tryCatch (free_writeback _ _ _) fun e => ?_) fun _ => ?_
  · exact .bind (free_record _) fun _ => trivial
  · exact .bind (free_record _) fun _ => .bind (free_read _) fun _ => trivial

theorem commitReady_careful (h : Answers store returned can) (migration : MigrationRecord)
    (ready : ReadyToRelease py) (hthree : ready.request.candidates.length = 3) :
    (co.commitReady mid migration ready).Guarded (careful store returned mid can)
      (fun _ _ => True) w := by
  refine Prog.Guarded.bind ((armGate_careful h _).mono fun r w₁ hr => ?_)
  cases r with
  | error e => trivial
  | ok _ =>
    have harmed := hr rfl
    refine Prog.Guarded.bind ((publish_careful h ready hthree harmed).mono fun r w₂ hr₂ => ?_)
    obtain ⟨hnotes₂, hr₂⟩ := hr₂
    cases r with
    | error e => trivial
    | ok publication =>
      obtain ⟨hshaped, hreturned⟩ := hr₂ publication rfl
      refine careful_free_bind h (free_remember _) fun _ w₃ hnotes₃ => ?_
      have hpersist := @persistCommitted_careful _ _ _ _ _ _ _ co h migration ready.refreshed _ hshaped
        hreturned ((hnotes₂.trans hnotes₃) _ _ harmed)
      refine Prog.Guarded.bind (hpersist.mono fun r w₄ _ => ?_)
      cases r with
      | error e => trivial
      | ok migration => exact careful_of_calls h (free_finalWriteback ..)

theorem free_reconcileCommit (m : String) :
    (co.reconcileCommit m).Calls (CoordinatorCall.Free returned mid) := by
  refine .bind (free_read _) fun migration => .bind (Prog.calls_lift _) fun _ => ?_
  refine .bind (free_requiredContext m) fun context => .bind (Prog.calls_lift _) fun _ => ?_
  refine .bind (free_refreshImpact _ _) fun refreshed => .bind ?_ fun _ => free_finalWriteback ..
  refine .bind (free_perform fun _ => trivial) fun memory => ?_
  split
  · trivial
  · refine .bind (.bind (free_read _) fun events => ?_) fun _ => .bind (free_remember _) fun _ => trivial
    split
    · exact Prog.calls_lift _
    · trivial

/-- A cleanup of candidates, once it was reserved. -/
theorem cleanUpAll_careful (h : Answers store returned can) (sessions : List RepositorySession)
    (hreserved : (store w).hasMigrationEvent mid abortReservedEvent = true) :
    (co.cleanUpAll sessions).Guarded (careful store returned mid can)
      (fun _ w' => (store w).Notes (store w')) w := by
  induction sessions generalizing w with
  | nil => exact .refl _
  | cons session rest ih =>
    have hone : (co.cleanUp session).Guarded (careful store returned mid can)
        (fun _ w' => (store w).Notes (store w')) w := by
      refine Prog.Guarded.bind (Prog.Guarded.perform fun w₁ hrely _ =>
        ⟨hrely _ _ hreserved, fun r w₂ hcan => ?_⟩)
      have hnotes := hrely.trans (h.notes hcan)
      cases r with
      | error e => exact hnotes
      | ok _ => exact Prog.Guarded.lift_bind (fun _ _ => hnotes) fun _ _ => hnotes
    refine Prog.Guarded.bind (Prog.Guarded.attempt (hone.mono fun r w₁ hr => ?_))
    have hrest := ih (hr _ _ hreserved)
    refine Prog.Guarded.bind (hrest.mono fun r₂ w₂ hr₂ => ?_)
    cases r₂ with
    | error e => exact hr.trans hr₂
    | ok cleaned =>
      cases r with
      | ok entry => exact hr.trans hr₂
      | error e => exact hr.trans hr₂

theorem postInit_self {r r' : AbortCleanupReceipt} (h : r.postInit py = .ok r') :
    r'.postInit py = .ok r' := by
  have hsame : r' = r := by
    simp only [AbortCleanupReceipt.postInit, bind_eq_ok] at h
    obtain ⟨_, -, _, -, _, -, _, -, h⟩ := h
    cases h
    rfl
  rw [hsame] at h ⊢
  exact h

theorem cleanupReceipt_careful (h : Answers store returned can)
    (hreserved : (store w).hasMigrationEvent mid abortReservedEvent = true) :
    (co.cleanupReceipt mid).Guarded (careful store returned mid can) (fun r w' =>
      (store w).Notes (store w') ∧ ∀ receipt, r = .ok receipt → receipt.postInit py = .ok receipt) w := by
  refine Prog.Guarded.bind ((careful_of_free h free_recalled).mono fun r w₁ hr => ?_)
  cases r with
  | error e => exact ⟨hr, fun _ he => by cases he⟩
  | ok memory =>
    refine Prog.Guarded.bind ((cleanUpAll_careful h _ (hr _ _ hreserved)).mono fun r w₂ hr₂ => ?_)
    have hnotes₂ := hr.trans hr₂
    cases r with
    | error e => exact ⟨hnotes₂, fun _ he => by cases he⟩
    | ok cleaned =>
      refine Prog.Guarded.bind ((careful_of_free h free_utcNow).mono fun r w₃ hr₃ => ?_)
      have hnotes₃ := hnotes₂.trans hr₃
      cases r with
      | error e => exact ⟨hnotes₃, fun _ he => by cases he⟩
      | ok now => exact ⟨hnotes₃, fun receipt hreceipt => postInit_self hreceipt⟩

theorem abort_careful (h : Answers store returned can) : (co.abort mid).Guarded
    (careful store returned mid can) (fun _ _ => True) w := by
  refine careful_free_bind h (free_read _) fun migration w₁ _ => ?_
  refine Prog.Guarded.lift_bind (fun _ _ => trivial) fun _ hchecked => ?_
  have hopen : migration.status.isTerminal = false := by
    have hcheck := require_eq_ok.mp hchecked
    simpa using hcheck
  refine Prog.Guarded.bind (Prog.Guarded.perform fun w₃ _ _ => ⟨hopen, fun r w₄ hcan => ?_⟩)
  cases r with
  | error e => trivial
  | ok _ =>
    have hreserved := h.reserved hcan
    refine Prog.Guarded.bind ((cleanupReceipt_careful h hreserved).mono fun r w₅ hr₅ => ?_)
    obtain ⟨hnotes₅, hr₅⟩ := hr₅
    cases r with
    | error e => trivial
    | ok receipt =>
      refine careful_free_bind h (free_record _) fun _ w₆ hnotes₆ => ?_
      refine Prog.Guarded.bind (Prog.Guarded.perform fun w₇ hrely₇ _ => ⟨?_, fun r w₈ _ => ?_⟩)
      · exact ⟨rfl, ((hnotes₅.trans hnotes₆).trans hrely₇) _ _ hreserved, hr₅ receipt rfl⟩
      · cases r with
        | error e => trivial
        | ok migration =>
          refine careful_of_calls h (.bind (.tryCatch (free_writeback _ _ _) fun e => ?_) fun _ => ?_)
          · exact .bind (free_record _) fun _ => trivial
          · exact .bind (free_record _) fun _ => trivial

theorem free_markFailed (pid phase : String) (error : Exn) :
    (@markFailed py pid phase error).Calls (CoordinatorCall.Free returned mid) := by
  refine .bind (free_read _) fun participant => .onlyWhen fun _ => ?_
  exact .bind (free_perform fun _ => by simp only [CoordinatorCall.Careful]; decide) fun _ => trivial

theorem abortAfterFailure_careful {α : Type} (h : Answers store returned can) (pid : String)
    (error : Exn) (phase : String) : (co.abortAfterFailure (α := α) mid pid error phase).Guarded
      (careful store returned mid can) (fun _ _ => True) w := by
  refine careful_free_bind h (.onlyWhen fun _ => .bind (.attempt (free_markFailed ..))
    fun _ => trivial) fun _ w₁ _ => ?_
  refine Prog.Guarded.bind (Prog.Guarded.tryCatch ((abort_careful h).mono fun r w₂ _ => ?_))
  cases r with
  | ok _ => trivial
  | error e => trivial

theorem failBeforeGate_careful {α : Type} (h : Answers store returned can) (e : Exn) :
    (co.failBeforeGate (α := α) mid e).Guarded (careful store returned mid can)
      (fun _ _ => True) w := by
  refine careful_free_bind h (free_read _) fun migration w₁ _ => ?_
  refine Prog.Guarded.bind ?_
  have hrest : (Prog.onlyWhen (migration.status = .prepared) (do
      let armed ← (CoordinatorCall.read (.publicationGateArmed mid)).run
      requireCoordination (!armed) ("publication reconciliation is already armed; pre-publication " ++
        "retry failed but candidates were retained")
      co.abortAfterFailure mid "" e "commit")).Guarded (careful store returned mid can)
      (fun _ _ => True) w₁ := by
    unfold Prog.onlyWhen
    split
    · refine careful_free_bind h (free_read _) fun armed w₂ _ => ?_
      exact careful_free_bind h (Prog.calls_lift _) fun _ w₃ _ => abortAfterFailure_careful h "" e "commit"
    · trivial
  refine hrest.mono fun r w₂ _ => ?_
  cases r with
  | ok _ => trivial
  | error e => trivial

theorem three_of_postInit {r r' : PublicationRequest} (h : r.postInit py = .ok r') :
    r'.candidates.length = 3 := by
  unfold PublicationRequest.postInit at h
  obtain ⟨_, -, h⟩ := bind_eq_ok.mp h
  obtain ⟨_, hthree, h⟩ := bind_eq_ok.mp h
  obtain ⟨_, -, h⟩ := bind_eq_ok.mp h
  obtain ⟨_, -, h⟩ := bind_eq_ok.mp h
  obtain ⟨_, -, h⟩ := bind_eq_ok.mp h
  cases h
  exact of_decide_eq_true (require_eq_ok.mp hthree)

/-- The request of a commit that is ready has three candidates. -/
theorem readyToRelease_three (m : String) (migration : MigrationRecord) (context : ContextObject py) :
    (co.readyToRelease m migration context).Ends fun r =>
      ∀ ready, r = .ok ready → ready.request.candidates.length = 3 := by
  have hfail : ∀ e : Exn, True → ∀ ready : ReadyToRelease py, Except.error e = Except.ok ready →
      ready.request.candidates.length = 3 := fun e _ ready he => by cases he
  have hany : ∀ {α : Type} {p : CoordinatorProg py α}, p.Ends fun _ => True :=
    Prog.ends_of_forall fun _ => trivial
  refine hany.bind hfail fun refreshed _ => hany.bind hfail fun _ _ => hany.bind hfail fun _ _ => ?_
  refine hany.bind hfail fun participants _ => hany.bind hfail fun candidates _ => ?_
  refine hany.bind hfail fun _ _ => ?_
  have hrequest : (liftM (publicationRequest py m migration.intent (candidates.map (·.candidate))) :
      CoordinatorProg py PublicationRequest).Ends fun r =>
        ∀ request, r = .ok request → request.candidates.length = 3 := by
    intro request hr
    have hpost : publicationRequest py m migration.intent (candidates.map (·.candidate)) =
      .ok request := hr
    exact three_of_postInit hpost
  refine hrequest.bind (fun e _ => hfail e trivial) fun request hrequest => ?_
  refine hany.bind hfail fun _ _ => hany.bind hfail fun stage _ => hany.bind hfail fun _ _ => ?_
  intro ready hready
  cases hready
  exact hrequest request rfl

theorem failBeforeGate_raises {α : Type} (m : String) (e : Exn) :
    (co.failBeforeGate (α := α) m e).Ends fun r => ∀ a, r ≠ .ok a := by
  have hfail : ∀ e : Exn, True → ∀ a : α, Except.error e ≠ Except.ok a := fun e _ a he => by cases he
  refine (Prog.ends_of_forall fun _ => trivial).bind hfail fun migration _ => ?_
  refine (Prog.ends_of_forall fun _ => trivial).bind hfail fun _ _ => ?_
  exact fun a ha => by cases ha

theorem commit_careful (h : Answers store returned can) : (co.commit mid).Guarded
    (careful store returned mid can) (fun _ _ => True) w := by
  refine careful_free_bind h (free_read _) fun migration w₁ _ => ?_
  split
  · exact careful_of_calls h (free_reconcileCommit mid)
  · refine careful_free_bind h (Prog.calls_lift _) fun _ w₂ _ => ?_
    refine careful_free_bind h (free_requiredContext mid) fun context w₃ _ => ?_
    refine careful_free_bind h (Prog.calls_lift _) fun _ w₄ _ => ?_
    refine Prog.Guarded.bind (Prog.Guarded.tryCatch
      (((careful_of_free h (free_readyToRelease mid migration context)).and_ends
        (readyToRelease_three mid migration context)).mono fun r w₅ hr => ?_))
    cases r with
    | ok ready => exact commitReady_careful h migration ready (hr.2 ready rfl)
    | error e =>
      refine (failBeforeGate_careful (α := ReadyToRelease py) h e).and_ends
        (failBeforeGate_raises mid e) |>.mono fun r w₆ hr₆ => ?_
      cases r with
      | ok ready => exact (hr₆.2 ready rfl).elim
      | error e => trivial

end Coordinator
end Guarded
end LineageTX
