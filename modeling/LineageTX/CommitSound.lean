import LineageTX.Frozen
import LineageTX.EventLog

/-! What the store holds of a COMMITTED migration: participants that were verified, and
the receipts of their candidates and of the publication in the event that moved it. -/
namespace LineageTX
open Library Store

/-- The event moved its migration to COMMITTED. -/
def EventRow.commits (e : EventRow) : Bool :=
  e.participantId = none && e.toStatus = .migration .committed &&
    e.fromStatus ≠ some (.migration .committed)

/-- The receipts cover every candidate, the coordinated pull request and the gate. -/
structure Covers (py : Python) (mid : String) (rows : List ParticipantRow)
    (receipts : List CoordinationReceipt) : Prop where
  candidates : ∀ p ∈ rows, ∃ r ∈ receipts, r.kind = .candidateCommit ∧
    r.commitSha = candidateSha py p.participantJson
  pullRequest : ∃ r ∈ receipts, r.kind = .coordinatedPr
  gate : ∃ r ∈ receipts, r.kind = .producerGateReleased
  unmerged : ∀ r ∈ receipts, r.migrationId = mid ∧ r.merged = false

structure Records.CommitSound (py : Python) (mid : String) (r : Records) : Prop where
  participants : r.participants ≠ []
  ready : ∀ p ∈ r.participants, (p.status = .verified ∨ p.status = .committed) ∧
    isCommitSha (candidateSha py p.participantJson) = true
  event : ∃ e receipts, r.events.filter EventRow.commits = [e] ∧
    e.payloadJson.get? "coordination_receipts" =
      some (.arr (receipts.map CoordinationReceipt.toDict)) ∧
    Covers py mid r.participants receipts

/-- Receipts are frozen values that passed the checks of their constructor. -/
def StoreCall.Constructed (py : Python) : StoreCall → Prop
  | .transitionMigration _ _ _ _ _ _ receipts => ∀ r ∈ receipts, r.postInit py = .ok r
  | _ => True

/-- The invariant between calls. -/
structure Store.CommitsSoundly (py : Python) (s : Store) : Prop where
  sound : ∀ mid, s.status? mid = some .committed → (s.records mid).CommitSound py mid
  peopled : ∀ mid st, s.status? mid = some st → st = .prepared ∨ st = .committed →
    ∃ pid, (pid, mid) ∈ s.owners
  uncommitted : ∀ e ∈ s.events, e.commits = true → s.status? e.migrationId = some .committed

section Steps
variable {py : Python} {now mid : String} {s s' : Store} {c : StoreCall}

/-- A migration gets to PREPARED and COMMITTED by its own transition. -/
theorem StoreCall.becomes {st : MigrationStatus} (h : c.run py now s = .ok s')
    (hst : st = .prepared ∨ st = .committed) (hbefore : s.status? mid ≠ some st)
    (hafter : s'.status? mid = some st) :
    ∃ e v ev payload receipts, c = .transitionMigration mid st e v ev payload receipts := by
  have hm := StoreCall.moves h mid
  have hsame : s'.race mid = s.race mid → False := by
    intro he
    exact hbefore ((congrArg Race.status he).symm.trans hafter)
  have hother : ∀ {st'}, (s'.race mid).status = some st' → st' = .detected ∨ st' = .aborted →
      False := by
    intro st' he hne
    obtain rfl : st' = st := Option.some.inj (he.symm.trans hafter)
    rcases hst with rfl | rfl <;> simp at hne
  cases c with
  | createMigration =>
    simp only [StoreCall.Moves] at hm
    split at hm
    · exact (hother (congrArg Race.status hm.2) (.inl rfl)).elim
    · exact (hsame hm).elim
  | armPublicationGate =>
    simp only [StoreCall.Moves] at hm
    split at hm
    · exact (hbefore ((congrArg Race.status hm.2.2).symm.trans hafter)).elim
    · exact (hsame hm).elim
  | reserveAbortCleanup =>
    simp only [StoreCall.Moves] at hm
    split at hm
    · exact (hbefore ((congrArg Race.status hm.2.2).symm.trans hafter)).elim
    · exact (hsame hm).elim
  | transitionMigration m target e v ev payload receipts =>
    simp only [StoreCall.Moves] at hm
    split at hm
    · next hmid =>
      obtain rfl : target = st := Option.some.inj (hm.2.2.2.1.symm.trans hafter)
      exact ⟨e, v, ev, payload, receipts, by rw [hmid]⟩
    · exact (hsame hm).elim
  | abortMigration =>
    simp only [StoreCall.Moves] at hm
    split at hm
    · exact (hother (congrArg Race.status hm.2.2.2.2) (.inr rfl)).elim
    · exact (hsame hm).elim
  | transitionParticipant => exact (hbefore (hm.1.symm.trans hafter)).elim
  | recordApproval => exact (hsame hm).elim

theorem preparationGuard_eq_ok (h : s.preparationGuard py mid = .ok ()) :
    ∃ pid, (pid, mid) ∈ s.owners := by
  simp only [preparationGuard, bind_eq_ok, require_eq_ok] at h
  obtain ⟨_, hrows, -⟩ := h
  obtain ⟨p, hp⟩ := List.exists_mem_of_ne_nil _ (of_decide_eq_true hrows)
  obtain ⟨hmem, hmid⟩ := mem_participantRows.mp hp
  exact ⟨p.participantId, List.mem_map.mpr ⟨p, hmem, by rw [hmid]⟩⟩

theorem receiptGuard_eq_ok {receipts : List CoordinationReceipt} (h : receiptGuard receipts = .ok ())
    {kind : CoordinationReceiptKind} : ∃ r ∈ receipts, r.kind = kind := by
  simp only [receiptGuard, require_eq_ok, missingReceiptKinds] at h
  have hnone := List.map_eq_nil_iff.mp (sortedSet_eq_nil.mp (of_decide_eq_true h))
  have hkind := List.filter_eq_nil_iff.mp hnone kind (by cases kind <;> decide)
  simpa using hkind

/-- What the guard of a commit established. -/
theorem commitGuard_eq_ok {receipts : List CoordinationReceipt}
    (h : s.commitGuard py mid receipts = .ok ()) {p : ParticipantRow} (hp : p ∈ s.participants)
    (hmid : p.migrationId = mid) : (p.status = .verified ∨ p.status = .committed) ∧
      ∃ r ∈ receipts, r.kind = .candidateCommit ∧
        r.commitSha = candidateSha py p.participantJson := by
  simp only [commitGuard, bind_eq_ok, require_eq_ok] at h
  obtain ⟨_, hready, expected, hexpected, hmissing⟩ := h
  have hrow := mem_participantRows.mpr ⟨hp, hmid⟩
  constructor
  · have hnone := List.filter_eq_nil_iff.mp (List.map_eq_nil_iff.mp (of_decide_eq_true hready)) p hrow
    by_cases hv : p.status = .verified
    · exact .inl hv
    · exact .inr (by simpa [hv] using hnone)
  · have hsha : candidateSha py p.participantJson ∈ expected := by
      obtain ⟨sha, hsha, hitem⟩ := exists_of_mapM_ok hexpected hrow
      obtain ⟨j, hj, ⟨⟩⟩ := bind_eq_ok.mp hitem
      rw [getItem_eq_ok] at hj
      simpa [candidateSha, getD, hj] using hsha
    have hsupplied := List.filter_eq_nil_iff.mp (sortedSet_eq_nil.mp (of_decide_eq_true hmissing)) _ hsha
    simpa [and_assoc] using hsupplied

theorem transitionMigration_receipts {target e : MigrationStatus} {v : Int} {ev : String}
    {payload : List (String × Json)} {receipts : List CoordinationReceipt}
    {r : MigrationRecord × Store}
    (h : s.transitionMigration py now mid target e v ev payload receipts = .ok r) :
    ∀ receipt ∈ receipts, receipt.migrationId = mid := by
  simp only [transitionMigration, bind_eq_ok, require_eq_ok] at h
  obtain ⟨_, -, _, hmid, -⟩ := h
  simpa using hmid

/-- A receipt that was constructed names a commit and no merge. -/
theorem CoordinationReceipt.constructed {r : CoordinationReceipt} (h : r.postInit py = .ok r) :
    (r.kind = .candidateCommit → isCommitSha r.commitSha = true) ∧ r.merged = false := by
  simp only [CoordinationReceipt.postInit, bind_eq_ok, require_eq_ok] at h
  obtain ⟨_, -, _, -, _, hsha, _, -, _, -, _, -, _, hmerged, -⟩ := h
  exact ⟨by simpa [imp_iff_not_or] using hsha, by simpa using hmerged⟩

theorem eventPayload_receipts {payload : List (String × Json)} {receipts : List CoordinationReceipt}
    (h : receipts ≠ []) : (Json.obj (eventPayload payload receipts)).get? "coordination_receipts" =
      some (.arr (receipts.map CoordinationReceipt.toDict)) := by
  simp [eventPayload, h, Json.lookup_assign]

/-- The transition to COMMITTED establishes the soundness of its migration. -/
theorem commitSound_of_transition (hs : s.CommitsSoundly py) {e : MigrationStatus} {v : Int}
    {ev : String} {payload : List (String × Json)} {receipts : List CoordinationReceipt}
    (hbefore : s.status? mid ≠ some .committed)
    (hvalid : ∀ r ∈ receipts, r.postInit py = .ok r)
    (h : (StoreCall.transitionMigration mid .committed e v ev payload receipts).run py now s =
      .ok s') : (s'.records mid).CommitSound py mid := by
  obtain ⟨r, hr, ⟨⟩⟩ := bind_eq_ok.mp h
  have hmids := transitionMigration_receipts hr
  obtain ⟨-, hreceipts, -, hguard, row, t, hrow, he, -, hcan, ht, hs', -⟩ :=
    transitionMigration_cases hr
  obtain ⟨-, rfl⟩ := updateMigration_eq_ok.mp ht
  have hprepared : e = .prepared := by
    cases e <;> first | rfl | exact absurd hcan (by decide)
  have hready := fun p hp hmid => commitGuard_eq_ok (hguard rfl) (p := p) hp hmid
  have hnonempty : receipts ≠ [] := by
    have hpr : ∃ r ∈ receipts, r.kind = .coordinatedPr := receiptGuard_eq_ok (hreceipts rfl)
    obtain ⟨r, hr, -⟩ := hpr
    exact List.ne_nil_of_mem hr
  rw [hs']
  refine ⟨?_, fun p hp => ?_, ⟨⟨mid, s.nextSequence mid, none, ev, some (.migration e),
    .migration .committed, v + 1, .obj (eventPayload payload receipts), now⟩, receipts, ?_,
    eventPayload_receipts hnonempty, ?_⟩⟩
  · obtain ⟨pid, hpid⟩ := hs.peopled mid e (by rw [status?_of_row hrow, he]) (.inl hprepared)
    obtain ⟨p, hp, hid⟩ := List.mem_map.mp hpid
    simp only [Prod.mk.injEq] at hid
    exact List.ne_nil_of_mem (List.mem_filter.mpr ⟨hp, by simpa using hid.2⟩)
  · obtain ⟨hmem, hmid⟩ := List.mem_filter.mp hp
    obtain ⟨hst, r, hr, hkind, hsha⟩ := hready p hmem (of_decide_eq_true hmid)
    exact ⟨hst, hsha ▸ (CoordinationReceipt.constructed (hvalid r hr)).1 hkind⟩
  · have hnone : s.events.filter (fun e => e.commits && e.migrationId = mid) = [] := by
      refine List.filter_eq_nil_iff.mpr fun e he hcommits => ?_
      simp only [Bool.and_eq_true, decide_eq_true_eq] at hcommits
      exact hbefore (hcommits.2 ▸ hs.uncommitted e he hcommits.1)
    simp only [Store.records, Store.appendEvent, List.filter_filter, List.filter_append, hnone]
    simp [EventRow.commits, hprepared, Store.nextSequence]
  · refine ⟨fun p hp => ?_, receiptGuard_eq_ok (hreceipts rfl), receiptGuard_eq_ok (hreceipts rfl),
      fun r hr => ⟨hmids r hr, (CoordinationReceipt.constructed (hvalid r hr)).2⟩⟩
    obtain ⟨hmem, hmid⟩ := List.mem_filter.mp hp
    exact (hready p hmem (of_decide_eq_true hmid)).2

/-- Soundness outlives every later call, the reservation of a cleanup included. -/
theorem commitSound_kept (hk : s.Keyed) (hs : (s.records mid).CommitSound py mid)
    (hst : s.status? mid = some .committed) (h : c.run py now s = .ok s') :
    (s'.records mid).CommitSound py mid := by
  by_cases hc : c.Reserves mid s
  · cases c with
    | reserveAbortCleanup m e v =>
      obtain ⟨row, hrow, he, -, -, ⟨-, rfl⟩ | rfl⟩ := reserveAbortCleanup_cases h
      · exact hs
      · obtain rfl : m = mid := hc.1
        have hcommitted : e = .committed :=
          he.symm.trans (Option.some.inj ((status?_of_row hrow).symm.trans hst))
        have hevents : ((s.appendEvent m "" abortReservedEvent (some (.migration e)) (.migration e) v
            [("scope", .str "unmerged_candidate_changes_only")] now).records m).events.filter
            EventRow.commits = (s.records m).events.filter EventRow.commits := by
          simp [Store.records, Store.appendEvent, EventRow.commits, hcommitted]
        exact ⟨hs.participants, hs.ready, by rw [hevents]; exact hs.event⟩
    | _ => exact hc.elim
  · have hsame : (c.after py now s).records mid = s.records mid := (records_frozen_iff hk hst rfl).mpr hc
    rw [StoreCall.after_ok h] at hsame
    rw [hsame]
    exact hs

/-- An appended event that moves a migration to COMMITTED finds it there afterwards. -/
theorem Appends.uncommitted (hs : ∀ e ∈ s.events, e.commits = true →
    s.status? e.migrationId = some .committed) {e : EventRow} (h : Appends mid s s' e) :
    ∀ e ∈ s'.events, e.commits = true → s'.status? e.migrationId = some .committed := by
  have hstatus : ∀ {t : Store} {m : String}, t.status? m = some .committed ↔
      ∃ v, t.standing (.migration m) = some (.migration .committed, v) := by
    intro t m
    cases hrow : t.migrationRow? m with
    | none => simp [Store.status?, Store.standing, hrow]
    | some row => simp [Store.status?, Store.standing, hrow]
  intro e' he' hcommits
  rw [h.events, List.mem_append, List.mem_singleton] at he'
  rw [hstatus]
  rcases he' with hold | rfl
  · obtain ⟨v, hv⟩ := hstatus.mp (hs e' hold hcommits)
    have hadv := h.effect.advances (.migration e'.migrationId)
    rw [hv] at hadv
    generalize hafter : s'.standing (.migration e'.migrationId) = after at hadv
    cases hadv with
    | stays => exact ⟨v, rfl⟩
    | moves status target version hcan => cases target with
      | migration target => cases target <;> exact absurd hcan (by decide)
      | participant target => cases hcan
  · simp only [EventRow.commits, Bool.and_eq_true, decide_eq_true_eq] at hcommits
    obtain ⟨⟨hnone, hto⟩, hfrom⟩ := hcommits
    have habout : e'.about = .migration e'.migrationId := by simp [EventRow.about, hnone]
    cases h.effect with
    | detects hfree habout hnote hafter hrest =>
      simp only [EventRow.told, Prod.mk.injEq] at hnote
      rw [hto] at hnote
      simp at hnote
    | notes final hat hnote hafter =>
      simp only [EventRow.told, Prod.mk.injEq] at hnote
      rw [hnote.1, ← hnote.2.1, hto] at hfrom
      simp at hfrom
    | moves final target hat hcan hnote hafter =>
      simp only [EventRow.told, Prod.mk.injEq] at hnote
      refine ⟨final.2 + 1, ?_⟩
      rw [hafter, habout, if_pos rfl, ← hnote.2.1, hto]

theorem Store.CommitsSoundly.step (hk : s.Sound) (hs : s.CommitsSoundly py)
    (hc : c.Constructed py) (h : c.run py now s = .ok s') : s'.CommitsSoundly py := by
  refine ⟨fun m hm => ?_, fun m st hm hst => ?_, ?_⟩
  · by_cases hbefore : s.status? m = some .committed
    · exact commitSound_kept hk.keyed (hs.sound m hbefore) hbefore h
    · obtain ⟨e, v, ev, payload, receipts, rfl⟩ := StoreCall.becomes h (.inr rfl) hbefore hm
      exact commitSound_of_transition hs hbefore hc h
  · have howners : ∀ o ∈ s.owners, o ∈ s'.owners := fun o ho =>
      (StoreCall.pieces hk.keyed h).induct (P := fun t => o ∈ t.owners)
        (fun _ hP hpiece => hpiece.owners hP) hk.keyed ho
    by_cases hbefore : s.status? m = some st
    · obtain ⟨pid, hpid⟩ := hs.peopled m st hbefore hst
      exact ⟨pid, howners _ hpid⟩
    · obtain ⟨e, v, ev, payload, receipts, rfl⟩ := StoreCall.becomes h hst hbefore hm
      obtain ⟨r, hr, -⟩ := bind_eq_ok.mp h
      obtain ⟨-, -, hprepared, -, row, t, hrow, he, -, hcan, -⟩ := transitionMigration_cases hr
      rcases hst with rfl | rfl
      · obtain ⟨pid, hpid⟩ := preparationGuard_eq_ok (hprepared rfl)
        exact ⟨pid, howners _ hpid⟩
      · have he' : e = .prepared := by
          cases e <;> first | rfl | exact absurd hcan (by decide)
        obtain ⟨pid, hpid⟩ := hs.peopled m e (by rw [status?_of_row hrow, he]) (.inl he')
        exact ⟨pid, howners _ hpid⟩
  · have hpieces := (StoreCall.pieces hk.keyed h).induct (P := fun t => t.Faithful ∧
      ∀ e ∈ t.events, e.commits = true → t.status? e.migrationId = some .committed)
      (fun hkeyed hP hpiece => ?_) hk.keyed ⟨hk.faithful, hs.uncommitted⟩
    · exact hpieces.2
    · obtain ⟨e, he⟩ := hpiece.appends hkeyed hP.1.named
      exact ⟨hP.1.piece hkeyed hpiece, he.uncommitted hP.2⟩

end Steps

/-- In every run: a COMMITTED migration is sound, and it stays COMMITTED. -/
theorem commits_soundly (py : Python) (calls : List (String × StoreCall))
    (hcalls : ∀ c ∈ calls, c.2.Constructed py) :
    StatesMeet (storeStep py) (fun s => ∀ mid, s.status? mid = some .committed →
      (s.records mid).CommitSound py mid) {} calls ∧
    CallsMeet (storeStep py) (fun s c => ∀ mid, s.status? mid = some .committed →
      (storeStep py s c).status? mid = some .committed) {} calls := by
  have hempty : ({} : Store).Sound ∧ ({} : Store).CommitsSoundly py :=
    ⟨⟨keyed_empty, .empty⟩, by simp [Store.status?, Store.migrationRow?],
      by simp [Store.status?, Store.migrationRow?], by simp⟩
  have hrun : StatesMeet (storeStep py) (fun s => s.Sound ∧ s.CommitsSoundly py) {} calls := by
    refine StatesMeet.of_step hempty fun s c hmem hs => ?_
    obtain ⟨hk, hP⟩ := hs
    rcases c.2.after_cases py c.1 s with h | h
    · rw [storeStep, h]
      exact ⟨hk, hP⟩
    · exact ⟨(hk.storeStep (x := .migration "") c).1, hP.step hk (hcalls c hmem) h⟩
  refine ⟨hrun.mono fun s hs => hs.2.sound, hrun.callsMeet fun s c _ _ _ mid hst => ?_⟩
  rcases c.2.after_cases py c.1 s with h | h
  · rw [storeStep, h]
    exact hst
  · exact StoreCall.terminal_final h hst rfl

/-- The prepared migration is committed, and a cleanup is reserved for it afterwards. -/
theorem commits_soundly_reserved : StatesMeet (storeStep samplePython) (fun s => ∀ mid,
    s.status? mid = some .committed → (s.records mid).CommitSound samplePython mid) {}
    (atNoon (preparedCalls ++ [sampleCommit,
      .reserveAbortCleanup ChangeIntent.sample.migrationId .committed 3])) := by
  refine (commits_soundly samplePython _ fun c hc => ?_).1
  simp only [atNoon, preparedCalls, List.cons_append, List.nil_append, List.map_cons, List.map_nil,
    List.mem_cons, List.not_mem_nil, or_false] at hc
  rcases hc with rfl | rfl | rfl | rfl | rfl | rfl | rfl <;>
    simp [StoreCall.Constructed, sampleCommit]
  decide

end LineageTX
