import LineageTX.ApprovalHarm
import LineageTX.DecidedEvents
import LineageTX.ReceiptRoundTrip

/-! Recovery of the receipts from the store: whatever the store goes through after a commit
or an abort, its events give back the publication or the cleanup that was recorded. -/
namespace LineageTX
open Library Store
variable {py : Python} {mid : String} {s s' : Store}
  {services : (c : CoordinatorCall py) → Result c.Reply → Prop}

/-- The answers to a coordinator while others use the store and its maps before each call. -/
def SharedServes (services : (c : CoordinatorCall py) → Result c.Reply → Prop)
    (w : CoordinatorState py) (op : CoordinatorCall py) (reply : Result op.Reply)
    (w' : CoordinatorState py) : Prop :=
  ∃ (calls : List (String × StoreCall)) (memory : CoordinatorMemory py),
    Serves services ⟨calls.foldl (storeStep py) w.store, memory⟩ op reply w'

/-- A publication that the publisher returned. -/
def Returned (services : (c : CoordinatorCall py) → Result c.Reply → Prop) (p : PublicationResult) :
    Prop :=
  (∃ request stage, services (.reconcile request stage) (.ok (some p))) ∨
    ∃ request stage, services (.releaseGate request stage) (.ok p)

/-- What one answer does to the store. -/
theorem serves_store {w w' : CoordinatorState py} {op : CoordinatorCall py} {reply : Result op.Reply}
    (h : Serves services w op reply w') :
    w'.store = w.store ∨ ∃ now c, op = .store c ∧ c.run py now w.store = .ok w'.store := by
  cases op with
  | store c =>
    rcases h with ⟨now, r, s, hanswer, -, rfl⟩ | ⟨-, -, rfl⟩
    · exact .inr ⟨now, c, rfl, StoreCall.run_of_answer hanswer⟩
    · exact .inl rfl
  | read | recalled => exact .inl (congrArg CoordinatorState.store h.2)
  | remember u =>
    obtain ⟨-, rfl⟩ := h
    exact .inl rfl
  | _ => exact .inl (congrArg CoordinatorState.store h.2)

/-- An answer is a further piece of the store's history. -/
theorem sharedServes_history {w w' : CoordinatorState py} {op : CoordinatorCall py}
    {reply : Result op.Reply} (h : SharedServes services w op reply w') :
    ∃ calls : List (String × StoreCall), w'.store = calls.foldl (storeStep py) w.store := by
  obtain ⟨calls, memory, h⟩ := h
  rcases serves_store h with hsame | ⟨now, c, -, hrun⟩
  · exact ⟨calls, hsame⟩
  · refine ⟨calls ++ [(now, c)], ?_⟩
    rw [List.foldl_append, List.foldl_cons, List.foldl_nil, storeStep]
    exact (StoreCall.after_ok hrun).symm

theorem sharedServes_answers :
    Answers (@CoordinatorState.store py) (Returned services) (SharedServes services) where
  notes h := by
    obtain ⟨calls, hcalls⟩ := sharedServes_history h
    rw [hcalls]
    exact notes_run calls
  armed h := by
    obtain ⟨calls, memory, ⟨now, r, t, hanswer, -, rfl⟩ | ⟨_, he, -⟩⟩ := h
    · exact armed_of_run (StoreCall.run_of_answer hanswer)
    · cases he
  reserved h := by
    obtain ⟨calls, memory, ⟨now, r, t, hanswer, -, rfl⟩ | ⟨_, he, -⟩⟩ := h
    · exact reserved_of_run (StoreCall.run_of_answer hanswer)
    · cases he
  reconciled h := by
    obtain ⟨_, _, h, -⟩ := h
    exact .inl ⟨_, _, h⟩
  released h := by
    obtain ⟨_, _, h, -⟩ := h
    exact .inr ⟨_, _, h⟩

/-- The store answers the reads itself. -/
def AnswersReads
    (answer : CoordinatorState py → (op : CoordinatorCall py) → Result op.Reply × CoordinatorState py) :
    Prop :=
  ∀ w r, answer w (.read r) = (r.answer py w.store, w)

/-- The store gives back a value of a migration: the program that recovers it ends in it,
and so does its reading of the event that it finds if the payloads are kept as texts. -/
structure Store.GivesBack (py : Python) (s : Store) (mid : String) {α : Type}
    (recover : CoordinatorProg py α) (kind : EventRow → Bool) (ofEvent : EventRow → Result α)
    (value : α) : Prop where
  program : ∀ answer, AnswersReads answer → ∀ memory,
    recover.exec answer ⟨s, memory⟩ = (.ok value, ⟨s, memory⟩)
  texts : ∀ events read, StoreRead.answer py s (.listEvents mid) = .ok events →
    events.mapM (EventRow.read py) = .ok read →
      ∃ e, read.reverse.find? kind = some e ∧ ofEvent e = .ok value

/-- The event that moved a migration to COMMITTED. -/
def isCommitted (e : EventRow) : Bool := e.toStatus = .migration .committed

section Recovery
variable {α : Type} {kind : EventRow → Bool} {ofEvent : EventRow → Result α} {value : α}
  {e : EventRow}

theorem forall₂_of_mapM_ok {β γ : Type} {f : β → Result γ} {l : List β} {l' : List γ}
    (h : l.mapM f = .ok l') : List.Forall₂ (fun b c => f b = .ok c) l l' := by
  induction l generalizing l' with
  | nil =>
    obtain ⟨⟩ := h
    exact .nil
  | cons b l ih =>
    simp only [List.mapM_cons, bind_eq_ok] at h
    obtain ⟨c, hc, rest, hrest, ⟨⟩⟩ := h
    exact .cons hc (ih hrest)

/-- Related lists have related first elements of a kind that the relation keeps. -/
theorem find?_of_forall₂ {R : EventRow → EventRow → Prop} {events read : List EventRow}
    (h : List.Forall₂ R events read) (hkind : ∀ e e', R e e' → kind e' = kind e)
    (hfind : events.find? kind = some e) : ∃ e', R e e' ∧ read.find? kind = some e' := by
  induction h with
  | nil => cases hfind
  | @cons first first' rest rest' hfirst _ ih =>
    rw [List.find?_cons] at hfind ⊢
    rw [hkind first first' hfirst]
    cases hk : kind first with
    | true =>
      rw [hk] at hfind
      cases hfind
      exact ⟨first', hfirst, rfl⟩
    | false =>
      rw [hk] at hfind
      exact ih hfind

/-- A decided migration gives back what its event stands for. -/
theorem givesBack_of_decided {recover : CoordinatorProg py α} (hs : s.Sound)
    (h : s.Decided py mid kind e) (hkind : ∀ e e', e.read py = .ok e' → kind e' = kind e)
    (hevent : ∀ e', e.payloadJson = e'.payloadJson ∨ e.read py = .ok e' → ofEvent e' = .ok value)
    (hrecover : ∀ answer, AnswersReads answer → ∀ memory events,
      StoreRead.answer py s (.listEvents mid) = .ok events → events.reverse.find? kind = some e →
        recover.exec answer ⟨s, memory⟩ = (ofEvent e, ⟨s, memory⟩)) :
    s.GivesBack py mid recover kind ofEvent value := by
  obtain ⟨row, intent, hrow, -, hintent⟩ := h.row
  have hlist := listEvents_answer hs hrow hintent
  refine ⟨fun answer hanswer memory => ?_, fun events read hevents hread => ?_⟩
  · rw [hrecover answer hanswer memory _ hlist h.latest, hevent e (.inl rfl)]
  · cases hlist.symm.trans hevents
    have hrelated := List.rel_reverse (forall₂_of_mapM_ok hread)
    obtain ⟨e', he', hfound⟩ := find?_of_forall₂ hrelated hkind h.latest
    exact ⟨e', hfound, hevent e' (.inr he')⟩

end Recovery

theorem EventRow.read_kind {e e' : EventRow} (h : e.read py = .ok e') :
    isCommitted e' = isCommitted e ∧ isAborted e' = isAborted e := by
  obtain ⟨payload, -, ⟨⟩⟩ := bind_eq_ok.mp h
  exact ⟨rfl, rfl⟩

/-- The payload of the event of COMMITTED. -/
theorem committedPayload_receipts (fingerprint : String) {receipts : List CoordinationReceipt}
    (h : receipts ≠ []) : eventPayload (committedPayload fingerprint) receipts =
      committedPayload fingerprint ++
        [("coordination_receipts", .arr (receipts.map CoordinationReceipt.toDict))] := by
  simp [eventPayload, h, committedPayload, Json.assign]

theorem loaded_committedPayload (fingerprint : String) (receipts : List CoordinationReceipt) :
    py.Loaded (.obj (committedPayload fingerprint ++
      [("coordination_receipts", .arr (receipts.map CoordinationReceipt.toDict))])) := by
  have hreceipts : py.Loaded (.arr (receipts.map CoordinationReceipt.toDict)) := by
    refine loaded_arr.mpr fun j hj => ?_
    obtain ⟨r, -, rfl⟩ := List.mem_map.mp hj
    exact r.toDict_loaded
  refine loaded_obj.mpr ⟨by simp [committedPayload], ?_⟩
  simp [committedPayload, loaded_str, loaded_int, loaded_bool, hreceipts]

/-- The event of COMMITTED gives back its publication. -/
theorem publication_givesBack (hs : s.Sound) {e : EventRow} {p : PublicationResult}
    {fingerprint : String} (h : s.Decided py mid isCommitted e) (hp : p.Complete py)
    (hpayload : e.payloadJson = .obj (eventPayload (committedPayload fingerprint) p.receipts)) :
    s.GivesBack py mid (Coordinator.publicationFromState mid) isCommitted
      (Coordinator.publicationOfEvent py) p := by
  have hnonempty : p.receipts ≠ [] := by simp [PublicationResult.receipts]
  rw [committedPayload_receipts fingerprint hnonempty] at hpayload
  have hmember : (committedPayload fingerprint ++ [("coordination_receipts",
      Json.arr (p.receipts.map CoordinationReceipt.toDict))]).lookup "coordination_receipts" =
      some (.arr (p.receipts.map CoordinationReceipt.toDict)) := by
    simp [committedPayload, Json.lookup_cons_if]
  have hsorted : Json.sortKeys (.arr (p.receipts.map CoordinationReceipt.toDict)) =
      .arr (p.receipts.map CoordinationReceipt.toDict) := by
    rw [Json.sortKeys_arr, List.map_map]
    exact congrArg Json.arr (List.map_congr_left fun r _ => r.sortKeys_toDict)
  refine givesBack_of_decided hs h (fun e e' he => (EventRow.read_kind he).1) (fun e' he' => ?_) ?_
  · refine publicationOfEvent_eq hp ?_
    rcases he' with hsame | hread
    · rw [← hsame, hpayload, Json.get?_obj, hmember]
    · have hloaded : py.Loaded e.payloadJson := by
        rw [hpayload]
        exact loaded_committedPayload fingerprint p.receipts
      exact EventRow.read_member hpayload hloaded hmember hsorted hread
  · intro answer hanswer memory events hevents hfind
    unfold Coordinator.publicationFromState
    rw [@Prog.exec_bind_ok _ _ _ _ _ _ _ _ _ _ events ⟨s, memory⟩]
    · have hlast : events.reverse.find? (·.toStatus = .migration .committed) = some e := hfind
      rw [hlast]
      rfl
    · exact (hanswer ⟨s, memory⟩ (.listEvents mid)).trans (by rw [hevents])

/-- The event of ABORTED gives back the receipt of its cleanup. -/
theorem cleanup_givesBack (hs : s.Sound) {e : EventRow} {receipt : AbortCleanupReceipt}
    (h : s.Decided py mid isAborted e) (hreceipt : receipt.postInit py = .ok receipt)
    (hpayload : e.payloadJson = .obj [("cleanup", receipt.toDict)]) :
    s.GivesBack py mid (Coordinator.abortCleanupFromState mid) isAborted
      (Coordinator.abortCleanupOfEvent py) receipt := by
  have hmember : [("cleanup", receipt.toDict)].lookup "cleanup" = some receipt.toDict := rfl
  refine givesBack_of_decided hs h (fun e e' he => (EventRow.read_kind he).2) (fun e' he' => ?_) ?_
  · refine abortCleanupOfEvent_eq hreceipt ?_
    rcases he' with hsame | hread
    · rw [← hsame, hpayload, Json.get?_obj, hmember]
    · have hloaded : py.Loaded e.payloadJson := by
        rw [hpayload]
        exact loaded_obj.mpr ⟨by simp, by simp [receipt.toDict_loaded]⟩
      exact EventRow.read_member hpayload hloaded hmember receipt.sortKeys_toDict hread
  · intro answer hanswer memory events hevents hfind
    unfold Coordinator.abortCleanupFromState
    rw [@Prog.exec_bind_ok _ _ _ _ _ _ _ _ _ _ events ⟨s, memory⟩]
    · have hlast : events.reverse.find? (fun e => e.eventType = "MIGRATION_ABORTED" &&
          e.toStatus = .migration .aborted) = some e := hfind
      rw [hlast]
      rfl
    · exact (hanswer ⟨s, memory⟩ (.listEvents mid)).trans (by rw [hevents])

section Runs
variable {α : Type} {w w' : CoordinatorState py} {log : List (Σ op : CoordinatorCall py, Result op.Reply)}
  {p : CoordinatorProg py α} {r : Result α}

/-- What a call of a careful run establishes of its migration's log stays there. -/
theorem decided_of_log {kind : EventRow → Bool} {Q : EventRow → Prop} {op : CoordinatorCall py}
    {reply : Result op.Reply}
    (hp : p.Guarded (careful CoordinatorState.store (Returned services) mid (SharedServes services))
      (fun _ _ => True) w)
    (hop : ∀ w₁ w₂, SharedServes services w₁ op reply w₂ → op.Careful (Returned services) mid w₁.store →
      ∃ e, w₂.store.Decided py mid kind e ∧ Q e)
    (hrun : p.Runs (SharedServes services) w log r w') (hs : w.store.Sound)
    (hmem : ⟨op, reply⟩ ∈ log) : w'.store.Sound ∧ ∃ e, w'.store.Decided py mid kind e ∧ Q e := by
  have hsound : ∀ (w₁ : CoordinatorState py) (op : CoordinatorCall py) (reply : Result op.Reply)
      (w₂ : CoordinatorState py), SharedServes services w₁ op reply w₂ → w₁.store.Sound →
        w₂.store.Sound := by
    intro w₁ op reply w₂ hserve hs
    obtain ⟨calls, hcalls⟩ := sharedServes_history hserve
    rw [hcalls]
    exact hs.run calls
  have halone := careful_alone hp
  have hkept : ∀ (w₁ : CoordinatorState py) (op : CoordinatorCall py) (reply : Result op.Reply)
      (w₂ : CoordinatorState py), w₁.store.Sound → op.Careful (Returned services) mid w₁.store →
        SharedServes services w₁ op reply w₂ → w₂.store.Sound :=
    fun w₁ op reply w₂ hs _ hserve => hsound w₁ op reply w₂ hserve hs
  refine ⟨halone.invariant hkept hrun hs, halone.established
    (J := fun w => ∃ e, w.store.Decided py mid kind e ∧ Q e) hkept ?_
    (fun w₁ w₂ hserve _ hcareful => hop w₁ w₂ hserve hcareful) hrun hs hmem⟩
  intro w₁ op reply w₂ hs _ hserve hdecided
  obtain ⟨e, he, hq⟩ := hdecided
  obtain ⟨calls, hcalls⟩ := sharedServes_history hserve
  rw [hcalls]
  exact ⟨e, he.run hs calls, hq⟩

end Runs

/-- A publisher's receipts are values that their constructor accepted. -/
def ReturnsConstructed (services : (c : CoordinatorCall py) → Result c.Reply → Prop) : Prop :=
  ∀ p, Returned services p → ∀ r ∈ p.receipts, r.postInit py = .ok r

/-- Whatever other callers do to the store before, during and after a call of `commit` or
`abort`: once the call has moved its migration to COMMITTED or ABORTED, the store gives
back the publication whose receipts it passed, or the receipt of its cleanup. -/
theorem receipts_recovered (co : Coordinator py) (services : (c : CoordinatorCall py) → Result c.Reply → Prop)
    (hconstructed : ReturnsConstructed services) (mid : String) (earlier : List (String × StoreCall))
    (memory : CoordinatorMemory py) :
    (∀ log r w' expected version ev payload receipts record,
      (co.commit mid).Runs (SharedServes services) ⟨earlier.foldl (storeStep py) {}, memory⟩ log r w' →
      ⟨.store (.transitionMigration mid .committed expected version ev payload receipts),
        .ok record⟩ ∈ log → ∀ later : List (String × StoreCall),
      ∃ publication : PublicationResult, receipts = publication.receipts ∧
        (later.foldl (storeStep py) w'.store).GivesBack py mid
          (Coordinator.publicationFromState mid) isCommitted
          (Coordinator.publicationOfEvent py) publication) ∧
    (∀ log r w' receipt expected version record,
      (co.abort mid).Runs (SharedServes services) ⟨earlier.foldl (storeStep py) {}, memory⟩ log r w' →
      ⟨.store (.abortMigration mid receipt expected version), .ok record⟩ ∈ log →
      ∀ later : List (String × StoreCall),
        (later.foldl (storeStep py) w'.store).GivesBack py mid
          (Coordinator.abortCleanupFromState mid) isAborted
          (Coordinator.abortCleanupOfEvent py) receipt) := by
  have hsound : (earlier.foldl (storeStep py) {}).Sound :=
    Store.Sound.run ⟨keyed_empty, .empty⟩ earlier
  constructor
  · intro log r w' expected version ev payload receipts record hrun hmem later
    have hdecided := @decided_of_log _ _ _ _ _ _ _ _ _ isCommitted (fun e => ∃ (p : PublicationResult)
        (fingerprint : String), receipts = p.receipts ∧ p.Complete py ∧
          e.payloadJson = .obj (eventPayload (committedPayload fingerprint) p.receipts)) _ _
      (Coordinator.commit_careful sharedServes_answers) ?_ hrun hsound hmem
    · obtain ⟨hsound', e, hdecided, p, fingerprint, hreceipts, hcomplete, hpayload⟩ := hdecided
      exact ⟨p, hreceipts, publication_givesBack (hsound'.run later) (hdecided.run hsound' later)
        hcomplete hpayload⟩
    · intro w₁ w₂ hserve hcareful
      obtain ⟨-, harmed, fingerprint, p, rfl, rfl, hshaped, hreturned⟩ := hcareful.2 rfl
      obtain ⟨calls, memory₁, ⟨now, record', s, hanswer, -, rfl⟩ | ⟨_, he, -⟩⟩ := hserve
      · obtain ⟨e, hdecided, hpayload⟩ := decided_of_commit (notes_run calls _ _ harmed)
          (StoreCall.run_of_answer hanswer)
        exact ⟨e, hdecided, p, fingerprint, rfl, ⟨hshaped, hconstructed p hreturned⟩, hpayload⟩
      · cases he
  · intro log r w' receipt expected version record hrun hmem later
    have hdecided := @decided_of_log _ _ _ _ _ _ _ _ _ isAborted (fun e =>
        receipt.postInit py = .ok receipt ∧ e.payloadJson = .obj [("cleanup", receipt.toDict)]) _ _
      (Coordinator.abort_careful sharedServes_answers) ?_ hrun hsound hmem
    · obtain ⟨hsound', e, hdecided, hreceipt, hpayload⟩ := hdecided
      exact cleanup_givesBack (hsound'.run later) (hdecided.run hsound' later) hreceipt hpayload
    · intro w₁ w₂ hserve hcareful
      obtain ⟨-, -, hreceipt⟩ := hcareful
      obtain ⟨calls, memory₁, ⟨now, record', s, hanswer, -, rfl⟩ | ⟨_, he, -⟩⟩ := hserve
      · obtain ⟨e, hdecided, hpayload⟩ := decided_of_abort (StoreCall.run_of_answer hanswer)
        exact ⟨e, hdecided, hreceipt, hpayload⟩
      · cases he

theorem CoordinationReceipt.postInit_self {r r' : CoordinationReceipt} (h : r.postInit py = .ok r') :
    r'.postInit py = .ok r' := by
  have hsame : r' = r := by
    simp only [CoordinationReceipt.postInit, bind_eq_ok] at h
    obtain ⟨_, -, _, -, _, -, _, -, _, -, _, -, _, -, h⟩ := h
    cases h
    rfl
  rw [hsame] at h ⊢
  exact h

/-- What every success tells of its value holds of all values of a traversal. -/
theorem forall_of_mapM_ok {β γ : Type} {f : β → Result γ} {Q : γ → Prop} {l : List β} {l' : List γ}
    (hf : ∀ b c, f b = .ok c → Q c) (h : l.mapM f = .ok l') : ∀ c ∈ l', Q c := by
  induction l generalizing l' with
  | nil =>
    obtain ⟨⟩ := h
    simp
  | cons b l ih =>
    simp only [List.mapM_cons, bind_eq_ok] at h
    obtain ⟨c, hc, rest, hrest, ⟨⟩⟩ := h
    exact List.forall_mem_cons.mpr ⟨hf b c hc, ih hrest⟩

/-- The receipts that the publisher makes for a request passed their constructor. -/
theorem stageOf_constructed {request : PublicationRequest} {prUrl now : String}
    {stage : PublicationStage} (h : FixedGitHubPublisher.stageOf py request prUrl now = .ok stage) :
    ∀ r ∈ stage.candidateReceipts ++ [stage.coordinatedPrReceipt], r.postInit py = .ok r := by
  simp only [FixedGitHubPublisher.stageOf, bind_eq_ok] at h
  obtain ⟨candidates, hcandidates, coordinated, hcoordinated, _, -, ⟨⟩⟩ := h
  intro r hr
  rcases List.mem_append.mp hr with hr | hr
  · exact forall_of_mapM_ok (fun _ _ hitem => CoordinationReceipt.postInit_self hitem) hcandidates r hr
  · rw [List.mem_singleton.mp hr]
    exact CoordinationReceipt.postInit_self hcoordinated

def noon : String := "2026-01-01T12:00:00Z"

/-- The sample migration with its three candidates, before its commit. -/
def readyCalls : List StoreCall := [
  .createMigration .sample [sampleConsumer .dbtSql "a", sampleConsumer .airflowMapping "b",
    sampleConsumer .semanticApproval "c"],
  .transitionMigration ChangeIntent.sample.migrationId .preparing .detected 0 "LINEAGETX_PREPARING"
    [] []] ++ verifyCalls "a" ++ verifyCalls "b" ++ verifyCalls "c" ++ [
  .transitionMigration ChangeIntent.sample.migrationId .prepared .preparing 1
    "ALL_CONSUMERS_PREPARED" [] []]

/-- What the coordinator remembers of it. -/
def readyMemory : CoordinatorMemory samplePython where
  contexts := Dict.empty.set ChangeIntent.sample.migrationId sampleContext
  sessions := ["a", "b", "c"].map fun name =>
    ((ChangeIntent.sample.migrationId, "consumer-" ++ name), ⟨"data/" ++ name, "consumer-" ++ name,
      ChangeIntent.sample.migrationId, "/base", "/worktrees/m/" ++ name, "lineagetx/m/" ++ name,
      "base", ""⟩)
  results := ["a", "b", "c"].map fun name =>
    ((ChangeIntent.sample.migrationId, "consumer-" ++ name),
      { participantId := "consumer-" ++ name, state := .verified
        changedFiles := ["config/" ++ name ++ ".json"] })

def readyState : CoordinatorState samplePython :=
  ⟨(atNoon readyCalls).foldl (storeStep samplePython) {}, readyMemory⟩

/-- Services that answer every call of a commit or an abort. -/
def sampleService : (c : CoordinatorCall samplePython) → Result c.Reply
  | .worktrees (.validateCommittedCandidate ..) => .ok []
  | .worktrees (.abort _) => .ok ()
  | .assertImpactUnchanged frozen => .ok { frozen with ident := frozen.ident + 1 }
  | .stage request =>
    FixedGitHubPublisher.stageOf samplePython request "https://github.com/data/coordination/pull/1" noon
  | .reconcile .. => .ok none
  | .releaseGate request _ => do
    let stage ← FixedGitHubPublisher.stageOf samplePython request
      "https://github.com/data/coordination/pull/1" noon
    FixedGitHubPublisher.resultFromStage samplePython request stage noon
  | .utcNow => .ok noon
  | _ => raise .coordinationError "no answer"

/-- The answers of the store, the maps and those services at noon. -/
def sampleAnswer (w : CoordinatorState samplePython) :
    (c : CoordinatorCall samplePython) → Result c.Reply × CoordinatorState samplePython
  | .store c =>
    match c.answer samplePython noon w.store with
    | .ok (r, s) => (.ok r, { w with store := s })
    | .error e => (.error e, w)
  | .read r => (r.answer samplePython w.store, w)
  | .recalled => (.ok w.memory, w)
  | .remember u => (.ok (), { w with memory := u.apply w.memory })
  | c => (sampleService c, w)

def sampleServices (c : CoordinatorCall samplePython) (reply : Result c.Reply) : Prop :=
  reply = sampleService c

theorem sampleServices_constructed : ReturnsConstructed sampleServices := by
  rintro p (⟨request, stage, h⟩ | ⟨request, stage, h⟩) r hr
  · cases h
  · have hp : sampleService (.releaseGate request stage) = .ok p := h.symm
    simp only [sampleService, FixedGitHubPublisher.resultFromStage, bind_eq_ok] at hp
    obtain ⟨stage', hstage, gate, hgate, _, -, ⟨⟩⟩ := hp
    simp only [PublicationResult.receipts, List.mem_append, List.mem_cons, List.not_mem_nil,
      or_false] at hr
    rcases hr with hr | rfl | rfl
    · exact stageOf_constructed hstage r (List.mem_append.mpr (.inl hr))
    · exact stageOf_constructed hstage _ (List.mem_append.mpr (.inr (List.mem_singleton.mpr rfl)))
    · exact CoordinationReceipt.postInit_self hgate

theorem serves_of_sampleAnswer {w w' : CoordinatorState samplePython}
    {op : CoordinatorCall samplePython} {reply : Result op.Reply} (h : sampleAnswer w op = (reply, w')) :
    Serves sampleServices w op reply w' := by
  cases op with
  | store c =>
    simp only [sampleAnswer] at h
    split at h
    · next r s hanswer =>
      cases h
      exact .inl ⟨noon, r, s, hanswer, rfl, rfl⟩
    · next e hanswer =>
      cases h
      exact .inr ⟨e, rfl, rfl⟩
  | read r =>
    cases h
    exact ⟨.inl rfl, rfl⟩
  | recalled | remember =>
    cases h
    exact ⟨rfl, rfl⟩
  | _ =>
    cases h
    exact ⟨rfl, rfl⟩

theorem serves_sampleAnswer {w w' : CoordinatorState samplePython} {op : CoordinatorCall samplePython}
    {reply : Result op.Reply} (h : sampleAnswer w op = (reply, w')) :
    SharedServes sampleServices w op reply w' :=
  ⟨[], w.memory, serves_of_sampleAnswer h⟩

/-- The call moved the sample migration to COMMITTED. -/
def commitsSample : (Σ op : CoordinatorCall samplePython, Result op.Reply) → Bool
  | ⟨.store (.transitionMigration m .committed _ _ _ _ _), .ok _⟩ =>
    m = ChangeIntent.sample.migrationId
  | _ => false

/-- The call moved it to ABORTED. -/
def abortsSample : (Σ op : CoordinatorCall samplePython, Result op.Reply) → Bool
  | ⟨.store (.abortMigration m _ _ _), .ok _⟩ => m = ChangeIntent.sample.migrationId
  | _ => false

/-- A commit and an abort of the sample migration, each recovered from what they left behind
and a late attempt to reserve a cleanup. -/
theorem sample_recovered :
    let mid := ChangeIntent.sample.migrationId
    let late := fun (status : MigrationStatus) (w : CoordinatorState samplePython) =>
      (atNoon [.reserveAbortCleanup mid status 3]).foldl (storeStep samplePython) w.store
    (∃ publication, (late .committed ((testCoordinator.commit mid).exec sampleAnswer
        readyState).2).GivesBack samplePython mid (Coordinator.publicationFromState mid) isCommitted
      (Coordinator.publicationOfEvent samplePython) publication) ∧
    ∃ receipt, (late .aborted ((testCoordinator.abort mid).exec sampleAnswer
        readyState).2).GivesBack samplePython mid (Coordinator.abortCleanupFromState mid) isAborted
      (Coordinator.abortCleanupOfEvent samplePython) receipt := by
  intro mid late
  have hrecovered := receipts_recovered testCoordinator sampleServices sampleServices_constructed
    mid (atNoon readyCalls) readyMemory
  constructor
  · have hrun := (Prog.runs_exec sampleAnswer (testCoordinator.commit mid) readyState).mono
      fun _ _ _ _ h => serves_sampleAnswer h
    have hcommits : ((testCoordinator.commit mid).trace sampleAnswer readyState).any
      commitsSample = true := by decide +kernel
    obtain ⟨c, hc, hcommit⟩ := List.any_eq_true.mp hcommits
    unfold commitsSample at hcommit
    split at hcommit
    · obtain rfl := of_decide_eq_true hcommit
      obtain ⟨publication, -, hback⟩ := hrecovered.1 _ _ _ _ _ _ _ _ _ hrun hc
        (atNoon [.reserveAbortCleanup mid .committed 3])
      exact ⟨publication, hback⟩
    · cases hcommit
  · have hrun := (Prog.runs_exec sampleAnswer (testCoordinator.abort mid) readyState).mono
      fun _ _ _ _ h => serves_sampleAnswer h
    have haborts : ((testCoordinator.abort mid).trace sampleAnswer readyState).any
      abortsSample = true := by decide +kernel
    obtain ⟨c, hc, habort⟩ := List.any_eq_true.mp haborts
    unfold abortsSample at habort
    split at habort
    · obtain rfl := of_decide_eq_true habort
      exact ⟨_, hrecovered.2 _ _ _ _ _ _ _ hrun hc
        (atNoon [.reserveAbortCleanup mid .aborted 3])⟩
    · cases habort

end LineageTX
