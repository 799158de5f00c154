import LineageTX.AbortStore
import LineageTX.CommitSound
import LineageTX.GateCredit
import LineageTX.RowRecords

/-! When a migration can still be brought to an end: an unarmed one always, by an abort; an
armed one exactly while all its participants are verified or COMMITTED with a full SHA. -/
namespace LineageTX
open Library Store
variable {py : Python} {now mid : String} {s s' : Store} {c : StoreCall}

/-- A participant that a commit accepts. -/
def ParticipantRow.Ready (py : Python) (row : ParticipantRow) : Prop :=
  (row.status = .verified ∨ row.status = .committed) ∧
    isCommitSha (candidateSha py row.participantJson) = true

/-- A call with values that their constructors made, and no reserved event name. -/
structure StoreCall.Admitted (py : Python) (c : StoreCall) : Prop where
  plain : c.Plain
  constructed : c.Constructed py
  cleanup : ∀ m receipt e v, c = .abortMigration m receipt e v → receipt.postInit py = .ok receipt

/-- Some calls bring the migration to COMMITTED or ABORTED. -/
def Store.Finishable (py : Python) (s : Store) (mid : String) : Prop :=
  ∃ calls : List (String × StoreCall), (∀ c ∈ calls, c.2.Admitted py) ∧
    ∃ st, (calls.foldl (storeStep py) s).status? mid = some st ∧ st.isTerminal = true

/-- What the steps of a migration have left of its participants. -/
structure Store.Staged (py : Python) (s : Store) : Prop where
  armed : ∀ mid, s.hasMigrationEvent mid gateArmedEvent = true →
    s.status? mid = some .prepared ∨ s.status? mid = some .committed
  settled : ∀ row ∈ s.participants, s.status? row.migrationId = some .prepared →
    row.status = .verified ∨ row.Settled
  shas : ∀ row ∈ s.participants, row.status = .verified →
    isCommitSha (candidateSha py row.participantJson) = true

section Steps

/-- A plain call arms only a PREPARED migration, and an armed one goes to COMMITTED only. -/
theorem armed_step (hc : c.Plain) (h : c.run py now s = .ok s')
    (hs : s.hasMigrationEvent mid gateArmedEvent = true →
      s.status? mid = some .prepared ∨ s.status? mid = some .committed)
    (harmed : s'.hasMigrationEvent mid gateArmedEvent = true) :
    s'.status? mid = some .prepared ∨ s'.status? mid = some .committed := by
  have hm := StoreCall.moves h mid
  have hsame : s'.race mid = s.race mid →
      s'.status? mid = some .prepared ∨ s'.status? mid = some .committed := by
    intro he
    rw [show s'.status? mid = s.status? mid from congrArg Race.status he]
    exact hs ((congrArg Race.armed he).symm.trans harmed)
  cases c with
  | createMigration =>
    simp only [StoreCall.Moves] at hm
    split at hm
    · have hbefore := hs ((congrArg Race.armed hm.2).symm.trans harmed)
      rw [show s.status? mid = none from hm.1] at hbefore
      simp at hbefore
    · exact hsame hm
  | armPublicationGate =>
    simp only [StoreCall.Moves] at hm
    split at hm
    · exact .inl ((congrArg Race.status hm.2.2).trans hm.1)
    · exact hsame hm
  | reserveAbortCleanup =>
    simp only [StoreCall.Moves] at hm
    split at hm
    · have hbefore : s'.race mid = _ := hm.2.2
      exact absurd ((congrArg Race.armed hbefore).symm.trans harmed) (by simpa using hm.2.1)
    · exact hsame hm
  | transitionMigration m target e v ev payload receipts =>
    simp only [StoreCall.Moves] at hm
    split at hm
    · obtain ⟨he, hcan, hne, htarget, hrace⟩ := hm
      have hbefore := hs ((congrArg Race.armed (hrace hc)).symm.trans harmed)
      rw [show s.status? mid = some e from he] at hbefore
      rcases hbefore with hprepared | hcommitted
      · obtain rfl := Option.some.inj hprepared
        have hnext : target = .committed ∨ target = .aborted := by
          cases target <;> first | exact .inl rfl | exact .inr rfl | cases hcan
        rcases hnext with rfl | rfl
        · exact .inr htarget
        · exact absurd rfl hne
      · obtain rfl := Option.some.inj hcommitted
        cases target <;> cases hcan
    · exact hsame hm
  | abortMigration =>
    simp only [StoreCall.Moves] at hm
    split at hm
    · obtain ⟨-, hunarmed, -, -, hrace⟩ := hm
      exact absurd ((congrArg Race.armed hrace).symm.trans harmed) (by simpa using hunarmed)
    · exact hsame hm
  | transitionParticipant => exact hsame (hm.2 hc)
  | recordApproval => exact hsame hm

/-- The guard of PREPARED found every participant verified. -/
theorem preparationGuard_verified (h : s.preparationGuard py mid = .ok ()) {row : ParticipantRow}
    (hrow : row ∈ s.participants) (hmid : row.migrationId = mid) : row.status = .verified := by
  simp only [preparationGuard, bind_eq_ok, require_eq_ok] at h
  obtain ⟨_, -, hverified⟩ := h
  have hnone := List.filterMap_eq_nil_iff.mp (of_decide_eq_true hverified) row
    (mem_participantRows.mpr ⟨hrow, hmid⟩)
  unfold unprepared at hnone
  by_contra hst
  rw [if_pos hst] at hnone
  cases hnone

/-- No participant leaves VERIFIED but for COMMITTED and ABORTED, and these it keeps. -/
theorem settled_of_move {row : ParticipantRow} {target : ParticipantStatus}
    (hrow : row.status = .verified ∨ row.Settled)
    (hcan : canTransitionParticipant row.status target = true) :
    target = .committed ∨ target = .aborted := by
  rcases hrow with hst | hst | hst
  · rw [hst] at hcan
    cases target <;> first | exact .inl rfl | exact .inr rfl | cases hcan
  · rw [hst] at hcan
    cases target <;> cases hcan
  · rw [hst] at hcan
    cases target <;> cases hcan

theorem settled_step (hk : s.Keyed) (h : c.run py now s = .ok s')
    (hs : ∀ row ∈ s.participants, s.status? row.migrationId = some .prepared →
      row.status = .verified ∨ row.Settled)
    {row' : ParticipantRow} (hrow' : row' ∈ s'.participants)
    (hprepared : s'.status? row'.migrationId = some .prepared) :
    row'.status = .verified ∨ row'.Settled := by
  by_cases hbefore : s.status? row'.migrationId = some .prepared
  · rcases StoreCall.row_cases hk h hrow' with ⟨row, hrow, hupd⟩ | ⟨-, hdetected⟩
    · have hrowBefore := hs row hrow (hupd.migrationId ▸ hbefore)
      rcases hupd.change with rfl | hmoved
      · exact hrowBefore
      · cases c with
        | transitionParticipant =>
          obtain ⟨-, rfl, hcan, hst, -⟩ := hmoved
          rw [ParticipantRow.Settled, hst]
          exact .inr (settled_of_move hrowBefore hcan)
        | abortMigration => exact .inr (.inr hmoved.1.2.2)
        | _ => exact hmoved.elim
    · rw [hprepared] at hdetected
      cases hdetected
  · obtain ⟨e, v, ev, payload, receipts, rfl⟩ := StoreCall.becomes h (.inl rfl) hbefore hprepared
    obtain ⟨r, hr, ⟨⟩⟩ := bind_eq_ok.mp h
    obtain ⟨-, -, hguard, -, row, t, -, -, -, -, ht, hs', -⟩ := transitionMigration_cases hr
    obtain ⟨-, rfl⟩ := updateMigration_eq_ok.mp ht
    rw [hs'] at hrow'
    exact .inl (preparationGuard_verified (hguard rfl) hrow' rfl)

/-- A transition to VERIFIED asks for a full SHA; the document keeps it. -/
theorem shas_step (hk : s.Keyed) (h : c.run py now s = .ok s')
    (hs : ∀ row ∈ s.participants, row.status = .verified →
      isCommitSha (candidateSha py row.participantJson) = true)
    {row' : ParticipantRow} (hrow' : row' ∈ s'.participants) (hst : row'.status = .verified) :
    isCommitSha (candidateSha py row'.participantJson) = true := by
  by_cases hmoves : ∃ pid target e v ev payload sha links,
      c = .transitionParticipant pid target e v ev payload sha links
  · obtain ⟨pid, target, e, v, ev, payload, sha, links, rfl⟩ := hmoves
    obtain ⟨r, hr, ⟨⟩⟩ := bind_eq_ok.mp h
    obtain ⟨row, parent, value, t, hrow, -, -, rfl, rfl, -, -, hsha, ht, -, hs'⟩ :=
      transitionParticipant_cases hr
    have hid : row.participantId = pid := by simpa using List.find?_some hrow
    subst hid
    rw [hs'] at hrow'
    rcases (mem_updateParticipant hk.unique (List.mem_of_find?_eq_some hrow) ht).mp hrow' with rfl | hold
    · have hkept : (movedDocument (setEvidenceLinks links value) target (row.version + 1) now).get?
          "candidate_commit_sha" = (setEvidenceLinks links value).get? "candidate_commit_sha" := by
        rw [movedDocument, Json.get?_set_of_ne (by decide), Json.get?_set_of_ne (by decide),
          Json.get?_set_of_ne (by decide)]
      have hmoved := hsha hst
      unfold candidateSha getD at hmoved ⊢
      rw [ParticipantRow.moved, hkept]
      exact hmoved
    · exact hs row' hold.1 hst
  · rcases StoreCall.row_cases hk h hrow' with ⟨row, hrow, hupd⟩ | ⟨hdiscovered, -⟩
    · rcases hupd.change with rfl | hmoved
      · exact hs row' hrow hst
      · cases c with
        | transitionParticipant => exact absurd ⟨_, _, _, _, _, _, _, _, rfl⟩ hmoves
        | abortMigration =>
          rw [hmoved.1.2.2] at hst
          cases hst
        | _ => exact hmoved.elim
    · rw [hdiscovered] at hst
      cases hst

theorem Store.Staged.step (hs : s.Staged py) (hk : s.Keyed) (hc : c.Plain) (h : c.run py now s = .ok s') :
    s'.Staged py where
  armed m := armed_step hc h (hs.armed m)
  settled _ hrow hst := settled_step hk h hs.settled hrow hst
  shas _ hrow hst := shas_step hk h hs.shas hrow hst

end Steps

section Finish
variable {migration : MigrationRecord} {pull : CoordinationReceipt}

/-- The receipts of a publication of these commits, at the time of a pull request's receipt. -/
def publicationReceipts (pull : CoordinationReceipt) (mid : String) (shas : List String) :
    List CoordinationReceipt :=
  shas.map (fun sha => { migrationId := mid, kind := .candidateCommit, reference := "candidate"
                         recordedAt := pull.recordedAt, commitSha := sha }) ++
  [{ pull with migrationId := mid },
    { migrationId := mid, kind := .producerGateReleased, reference := "check-run:1"
      recordedAt := pull.recordedAt }]

theorem CoordinationReceipt.postInit_iff {r : CoordinationReceipt} : r.postInit py = .ok r ↔
    isBlank r.reference = false ∧ requireUtcTimestamp py r.recordedAt "recorded_at" = .ok () ∧
      (r.kind = .candidateCommit → isCommitSha r.commitSha = true) ∧
      (r.kind = .coordinatedPr → requireHttpsUrl py r.reference "coordinated PR reference" = .ok ()) ∧
      (r.kind = .producerGateReleased → startsWith r.reference "check-run:" = true) ∧
      (r.evidenceUrl ≠ "" → requireHttpsUrl py r.evidenceUrl "coordination evidence_url" = .ok ()) ∧
      r.merged = false := by
  simp only [CoordinationReceipt.postInit, bind_eq_ok, require_eq_ok, onlyIf_eq_ok, Bool.not_eq_true',
    Bool.or_eq_true, decide_eq_true_eq]
  constructor
  · rintro ⟨_, hreference, _, hnow, _, hsha, _, hurl, _, hgate, _, hevidence, _, hmerged, -⟩
    exact ⟨hreference, hnow, fun h => hsha.resolve_left fun hne => hne h, hurl,
      fun h => hgate.resolve_left fun hne => hne h, hevidence, hmerged⟩
  · rintro ⟨hreference, hnow, hsha, hurl, hgate, hevidence, hmerged⟩
    exact ⟨(), hreference, (), hnow, (), or_iff_not_imp_left.mpr fun h => hsha (of_not_not h), (), hurl,
      (), or_iff_not_imp_left.mpr fun h => hgate (of_not_not h), (), hevidence, (), hmerged, rfl⟩

theorem publicationReceipts_constructed (hpull : pull.postInit py = .ok pull) {shas : List String}
    (hshas : ∀ sha ∈ shas, isCommitSha sha = true) :
    ∀ r ∈ publicationReceipts pull mid shas, r.postInit py = .ok r := by
  obtain ⟨hreference, hnow, hsha, hurl, hgate, hevidence, hmerged⟩ := CoordinationReceipt.postInit_iff.mp hpull
  intro r hr
  simp only [publicationReceipts, List.mem_append, List.mem_map, List.mem_cons, List.not_mem_nil,
    or_false] at hr
  rw [CoordinationReceipt.postInit_iff]
  rcases hr with ⟨sha, hmem, rfl⟩ | rfl | rfl
  · refine ⟨?_, hnow, fun _ => hshas sha hmem, ?_, ?_, ?_, rfl⟩ <;> simp [isBlank]
    decide
  · exact ⟨hreference, hnow, hsha, hurl, hgate, hevidence, hmerged⟩
  · refine ⟨?_, hnow, ?_, ?_, ?_, ?_, rfl⟩ <;> simp [isBlank]
    all_goals decide

theorem candidateSha_of_holds {row : ParticipantRow} {p : Participant} (h : row.Holds p) :
    (do return py.str (← getItem row.participantJson "candidate_commit_sha")) =
      (.ok (candidateSha py row.participantJson) : Result String) := by
  rw [h.document]
  rfl

theorem receiptGuard_publication (shas : List String) (hshas : shas ≠ []) (hkind : pull.kind = .coordinatedPr) :
    receiptGuard (publicationReceipts pull mid shas) = .ok () := by
  rw [receiptGuard, require_eq_ok, decide_eq_true_eq, missingReceiptKinds, sortedSet_eq_nil,
    List.map_eq_nil_iff, List.filter_eq_nil_iff]
  obtain ⟨sha, rest, rfl⟩ := List.exists_cons_of_ne_nil hshas
  intro kind _
  cases kind <;> simp [publicationReceipts, hkind]

/-- The guard of a commit accepts receipts that cover the candidates of ready participants. -/
theorem commitGuard_covered {receipts : List CoordinationReceipt} (hheld : s.HoldsParticipants)
    (hready : ∀ row ∈ s.participantRows mid, row.Ready py)
    (hcovered : ∀ row ∈ s.participantRows mid, ∃ r ∈ receipts, r.kind = .candidateCommit ∧
      r.commitSha = candidateSha py row.participantJson) : s.commitGuard py mid receipts = .ok () := by
  have hexpected := mapM_eq_ok (l := s.participantRows mid)
    (f := fun r => (do return py.str (← getItem r.participantJson "candidate_commit_sha") : Result String))
    (g := fun r => candidateSha py r.participantJson) fun row hrow => by
      obtain ⟨p, hp⟩ := hheld row (mem_participantRows.mp hrow).1
      exact candidateSha_of_holds hp
  simp only [commitGuard, bind_eq_ok, require_eq_ok, decide_eq_true_eq]
  refine ⟨(), ?_, _, hexpected, ?_⟩
  · rw [List.map_eq_nil_iff, List.filter_eq_nil_iff]
    intro row hrow
    rcases (hready row hrow).1 with hst | hst <;> simp [hst]
  · rw [sortedSet_eq_nil, List.filter_eq_nil_iff]
    intro sha hsha
    obtain ⟨row, hrow, rfl⟩ := List.mem_map.mp hsha
    obtain ⟨r, hr, hkind, hsame⟩ := hcovered row hrow
    simp only [Bool.not_eq_true', Bool.not_eq_false, List.contains_iff_mem, List.mem_map, List.mem_filter]
    exact ⟨r, ⟨hr, by simp [hkind]⟩, hsame⟩

theorem commitGuard_publication (hheld : s.HoldsParticipants)
    (hready : ∀ row ∈ s.participantRows mid, row.Ready py) : s.commitGuard py mid (publicationReceipts pull mid
      ((s.participantRows mid).map fun row => candidateSha py row.participantJson)) = .ok () := by
  refine commitGuard_covered hheld hready fun row hrow => ?_
  refine ⟨{ migrationId := mid, kind := .candidateCommit, reference := "candidate"
            recordedAt := pull.recordedAt, commitSha := candidateSha py row.participantJson }, ?_, rfl, rfl⟩
  exact List.mem_append_left _ (List.mem_map.mpr ⟨_, List.mem_map.mpr ⟨row, hrow, rfl⟩, rfl⟩)

/-- A PREPARED migration is committed with receipts that the guards accept. -/
theorem transitionMigration_commits {receipts : List CoordinationReceipt} (ev : String)
    (payload : List (String × Json)) (hfound : s.getMigration py mid = .ok migration)
    (hst : migration.status = .prepared) (hkeys : s.PrimaryKeys)
    (hmids : ∀ r ∈ receipts, r.migrationId = mid) (hkinds : receiptGuard receipts = .ok ())
    (hguard : s.commitGuard py mid receipts = .ok ()) : ∃ r,
      s.transitionMigration py now mid .committed .prepared migration.version ev payload receipts = .ok r ∧
        r.2.status? mid = some .committed := by
  obtain ⟨row, hrow, hintent, hstatus, hversion⟩ := getMigration_cases hfound
  obtain ⟨t, ht⟩ := @updateMigration_ok now mid s row .committed hkeys.migrations hrow
  refine ⟨(⟨migration.intent, .committed, row.version + 1, row.createdAt, now⟩, t.appendEvent mid "" ev
    (some (.migration row.status)) (.migration .committed) (row.version + 1) (eventPayload payload receipts) now),
    ?_, ?_⟩
  · simp only [transitionMigration, bind_eq_ok, require_eq_ok, onlyIf_eq_ok, selectMigration_eq_ok,
      requireMigration_eq_ok]
    refine ⟨(), rfl, (), by simpa using hmids, (), fun _ => hkinds, row, hrow, (), ⟨hstatus.trans hst, hversion⟩,
      (), ?_, (), (fun h => by cases h), (), fun _ => hguard, t, ht, _, hintent, rfl⟩
    rw [hstatus, hst]
    rfl
  · rw [status?_appendEvent, status?_updateMigration hrow ht, if_pos rfl]

theorem publicationReceipts_migration {shas : List String} :
    ∀ r ∈ publicationReceipts pull mid shas, r.migrationId = mid := by
  intro r hr
  simp only [publicationReceipts, List.mem_append, List.mem_map, List.mem_cons, List.not_mem_nil,
    or_false] at hr
  rcases hr with ⟨_, -, rfl⟩ | rfl | rfl <;> rfl

theorem finishable_of_call {now : String} (hc : c.Admitted py) {st : MigrationStatus}
    (h : c.run py now s = .ok s') (hst : s'.status? mid = some st) (hterm : st.isTerminal = true) :
    s.Finishable py mid := by
  refine ⟨[(now, c)], fun d hd => ?_, st, ?_, hterm⟩
  · obtain rfl := List.mem_singleton.mp hd
    exact hc
  · rw [List.foldl_cons, List.foldl_nil, storeStep, StoreCall.after_ok h]
    exact hst

/-- An open migration that is not armed is aborted. -/
theorem finishable_of_unarmed (hpull : pull.postInit py = .ok pull)
    (hfound : s.getMigration py mid = .ok migration) (hopen : migration.status.isTerminal = false)
    (hkeys : s.PrimaryKeys) (hunarmed : s.hasMigrationEvent mid gateArmedEvent = false) :
    s.Finishable py mid := by
  let receipt : AbortCleanupReceipt := { migrationId := mid, recordedAt := pull.recordedAt }
  have hreceipt : receipt.postInit py = .ok receipt := by
    have hnow := (CoordinationReceipt.postInit_iff.mp hpull).2.1
    simp only [AbortCleanupReceipt.postInit, bind_eq_ok, require_eq_ok]
    exact ⟨(), hnow, (), rfl, (), rfl, (), rfl, rfl⟩
  obtain ⟨r, hr, haborted⟩ := @abortMigration_ok py pull.recordedAt mid s migration receipt
    ⟨hfound, hopen, hunarmed, hkeys⟩ rfl rfl
  have hadmitted : (StoreCall.abortMigration mid receipt migration.status migration.version).Admitted py := by
    refine ⟨trivial, trivial, fun m r' e v hc => ?_⟩
    cases hc
    exact hreceipt
  exact finishable_of_call hadmitted (bind_eq_ok.mpr ⟨r, hr, rfl⟩) haborted rfl

/-- An open migration whose participants are ready is committed. -/
theorem finishable_of_ready (hpull : pull.postInit py = .ok pull) (hkind : pull.kind = .coordinatedPr)
    (hfound : s.getMigration py mid = .ok migration) (hst : migration.status = .prepared)
    (hkeys : s.PrimaryKeys) (hheld : s.HoldsParticipants) (hpeopled : s.participantRows mid ≠ [])
    (hready : ∀ row ∈ s.participantRows mid, row.Ready py) : s.Finishable py mid := by
  let receipts := publicationReceipts pull mid
    ((s.participantRows mid).map fun row => candidateSha py row.participantJson)
  have hshas : ∀ sha ∈ (s.participantRows mid).map (fun row => candidateSha py row.participantJson),
      isCommitSha sha = true := by
    intro sha hsha
    obtain ⟨row, hrow, rfl⟩ := List.mem_map.mp hsha
    exact (hready row hrow).2
  obtain ⟨r, hr, hcommitted⟩ := @transitionMigration_commits py pull.recordedAt mid s migration receipts
    "MIGRATION_COMMITTED" [] hfound hst hkeys publicationReceipts_migration
    (receiptGuard_publication _ (by simpa using hpeopled) hkind) (commitGuard_publication hheld hready)
  have hadmitted : (StoreCall.transitionMigration mid .committed .prepared migration.version
      "MIGRATION_COMMITTED" [] receipts).Admitted py := by
    refine ⟨(by decide : PlainEvent "MIGRATION_COMMITTED"), publicationReceipts_constructed hpull hshas,
      fun m r' e v hc => ?_⟩
    cases hc
  exact finishable_of_call hadmitted (bind_eq_ok.mpr ⟨r, hr, rfl⟩) hcommitted rfl

end Finish

section Stuck
variable {row : ParticipantRow}

/-- A participant that is COMMITTED or ABORTED is not moved any more. -/
theorem Piece.keeps_settled (hs : s.Keyed) (h : Piece now mid s s') (hrow : row ∈ s.participants)
    (hsettled : row.Settled) : row ∈ s'.participants := by
  cases h with
  | create => exact List.mem_append_left _ hrow
  | noteMigration => exact hrow
  | noteParticipant => exact hrow
  | moveMigration old target t ev payload hold hcan ht =>
    obtain ⟨-, rfl⟩ := updateMigration_eq_ok.mp ht
    exact hrow
  | moveParticipant old target t doc ev payload hold hmid hcan hdoc ht =>
    refine (mem_updateParticipant hs.unique hold ht).mpr (.inr ⟨hrow, fun hid => ?_⟩)
    obtain rfl := hs.eq_of_id hrow hold hid
    rcases hsettled with hst | hst <;> rw [hst] at hcan <;> cases target <;> cases hcan

theorem StoreCall.keeps_settled (hs : s.Keyed) (h : c.run py now s = .ok s') (hrow : row ∈ s.participants)
    (hsettled : row.Settled) : row ∈ s'.participants :=
  (StoreCall.pieces hs h).induct (P := fun t => row ∈ t.participants)
    (fun hk hmem hpiece => hpiece.keeps_settled hk hmem hsettled) hs hrow

/-- An armed migration with a participant that no commit accepts and no call moves. -/
structure Store.Stuck (s : Store) (mid : String) (row : ParticipantRow) : Prop where
  keyed : s.Keyed
  race : (s.race mid).status = some .prepared ∧ (s.race mid).armed = true
  row : row ∈ s.participants

/-- It stays so. -/
theorem Store.Stuck.step (hs : s.Stuck mid row) (hmid : row.migrationId = mid) (hsettled : row.Settled)
    (hready : ¬row.Ready py) (hc : c.Admitted py) (h : c.run py now s = .ok s') : s'.Stuck mid row := by
  refine ⟨hs.keyed.step h, ?_, StoreCall.keeps_settled hs.keyed h hs.row hsettled⟩
  obtain ⟨hprepared, harmed⟩ := hs.race
  have hm := StoreCall.moves h mid
  have hsame : s'.race mid = s.race mid → (s'.race mid).status = some .prepared ∧
      (s'.race mid).armed = true := fun he => he ▸ ⟨hprepared, harmed⟩
  cases c with
  | createMigration =>
    simp only [StoreCall.Moves] at hm
    split at hm
    · rw [hm.1] at hprepared
      cases hprepared
    · exact hsame hm
  | armPublicationGate =>
    simp only [StoreCall.Moves] at hm
    split at hm
    · rw [hm.2.2]
      exact ⟨hprepared, rfl⟩
    · exact hsame hm
  | reserveAbortCleanup =>
    simp only [StoreCall.Moves] at hm
    split at hm
    · rw [hm.2.1] at harmed
      cases harmed
    · exact hsame hm
  | transitionMigration m target e v ev payload receipts =>
    simp only [StoreCall.Moves] at hm
    split at hm
    · next hm' =>
      obtain ⟨he, hcan, hne, -⟩ := hm
      obtain rfl := Option.some.inj (hprepared.symm.trans he)
      have htarget : target = .committed := by
        cases target <;> first | rfl | exact absurd rfl hne | cases hcan
      subst htarget
      obtain ⟨r, hr, -⟩ := bind_eq_ok.mp h
      obtain ⟨-, -, -, hguard, -⟩ := transitionMigration_cases hr
      obtain ⟨hst, receipt, hreceipt, hkind, hsha⟩ := commitGuard_eq_ok (hguard rfl) hs.row
        (hmid.trans hm'.symm)
      refine absurd ⟨hst, ?_⟩ hready
      rw [← hsha]
      exact (CoordinationReceipt.constructed (hc.constructed receipt hreceipt)).1 hkind
    · exact hsame hm
  | abortMigration =>
    simp only [StoreCall.Moves] at hm
    split at hm
    · rw [hm.2.1] at harmed
      cases harmed
    · exact hsame hm
  | transitionParticipant => exact hsame (hm.2 hc.plain)
  | recordApproval => exact hsame hm

theorem Store.Stuck.run (hs : s.Stuck mid row) (hmid : row.migrationId = mid) (hsettled : row.Settled)
    (hready : ¬row.Ready py) (calls : List (String × StoreCall)) (hcalls : ∀ c ∈ calls, c.2.Admitted py) :
    (calls.foldl (storeStep py) s).Stuck mid row := by
  refine (StatesMeet.of_step (P := fun t : Store => t.Stuck mid row) hs fun t c hmem hs => ?_).last
  rcases c.2.after_cases py c.1 t with h | h
  · rw [storeStep, h]
    exact hs
  · exact hs.step hmid hsettled hready (hcalls c hmem) h

end Stuck

/-- What every state of a run has. -/
structure Store.Tracked (py : Python) (s : Store) : Prop where
  sound : s.Sound
  commits : s.CommitsSoundly py
  staged : s.Staged py
  held : s.HoldsParticipants

theorem tracked_empty : ({} : Store).Tracked py where
  sound := ⟨keyed_empty, .empty⟩
  commits := ⟨by simp [Store.status?, Store.migrationRow?], by simp [Store.status?, Store.migrationRow?],
    by simp⟩
  staged := ⟨by simp [Store.hasMigrationEvent], by simp, by simp⟩
  held := by simp [HoldsParticipants]

theorem Store.Tracked.step (hs : s.Tracked py) (hc : c.Plain ∧ c.Constructed py)
    (h : c.run py now s = .ok s') : s'.Tracked py where
  sound := by
    have hstep : (storeStep py s (now, c)).Sound := (hs.sound.storeStep (x := .migration "") (now, c)).1
    rwa [storeStep, StoreCall.after_ok h] at hstep
  commits := hs.commits.step hs.sound hc.2 h
  staged := hs.staged.step hs.sound.keyed hc.1 h
  held := (StoreCall.participants_held hs.sound.keyed hs.held h).1

theorem tracked_run (calls : List (String × StoreCall))
    (hcalls : ∀ c ∈ calls, c.2.Plain ∧ c.2.Constructed py) : (calls.foldl (storeStep py) {}).Tracked py := by
  refine (StatesMeet.of_step tracked_empty fun s c hmem hs => ?_).last
  rcases c.2.after_cases py c.1 s with h | h
  · rw [storeStep, h]
    exact hs
  · exact hs.step (hcalls c hmem) h

section Exact
variable {migration : MigrationRecord} {pull : CoordinationReceipt}

theorem participantRows_ne_nil (hs : s.Tracked py) {st : MigrationStatus} (hst : s.status? mid = some st)
    (hlate : st = .prepared ∨ st = .committed) : s.participantRows mid ≠ [] := by
  obtain ⟨pid, hpid⟩ := hs.commits.peopled mid st hst hlate
  obtain ⟨row, hrow, howner⟩ := List.mem_map.mp hpid
  exact List.ne_nil_of_mem (mem_participantRows.mpr ⟨hrow, congrArg Prod.snd howner⟩)

/-- Where a participant is not ready, the armed migration is stuck on it. -/
theorem stuck_of_unready (hs : s.Tracked py) (harmed : s.hasMigrationEvent mid gateArmedEvent = true)
    {row : ParticipantRow} (hrow : row ∈ s.participantRows mid) (hready : ¬row.Ready py) :
    s.Stuck mid row ∧ row.Settled := by
  obtain ⟨hmem, hmid⟩ := mem_participantRows.mp hrow
  rcases hs.staged.armed mid harmed with hprepared | hcommitted
  · refine ⟨⟨hs.sound.keyed, ⟨hprepared, harmed⟩, hmem⟩, ?_⟩
    rcases hs.staged.settled row hmem (hmid ▸ hprepared) with hverified | hsettled
    · exact absurd ⟨.inl hverified, hs.staged.shas row hmem hverified⟩ hready
    · exact hsettled
  · have hsound := (hs.commits.sound mid hcommitted).ready row
      (List.mem_filter.mpr ⟨hmem, decide_eq_true hmid⟩)
    exact absurd hsound hready

/-- After every run: a migration can still be brought to an end exactly if its gate is not
armed or every participant is verified or COMMITTED with a full SHA. -/
theorem finishable_iff (hpull : pull.postInit py = .ok pull) (hkind : pull.kind = .coordinatedPr)
    (calls : List (String × StoreCall)) (hcalls : ∀ c ∈ calls, c.2.Admitted py)
    (hfound : (calls.foldl (storeStep py) {}).getMigration py mid = .ok migration) :
    (calls.foldl (storeStep py) {}).Finishable py mid ↔
      ((calls.foldl (storeStep py) {}).hasMigrationEvent mid gateArmedEvent = true →
        ∀ row ∈ (calls.foldl (storeStep py) {}).participantRows mid, row.Ready py) := by
  have htracked := tracked_run calls fun c hc => ⟨(hcalls c hc).plain, (hcalls c hc).constructed⟩
  have hkeys := primaryKeys_run py calls
  generalize calls.foldl (storeStep py) {} = s at hfound htracked hkeys ⊢
  obtain ⟨row, hrow, -, hstatus, -⟩ := getMigration_cases hfound
  have hst := status?_of_row hrow
  rw [hstatus] at hst
  constructor
  · rintro ⟨more, hmore, st, hend, hterm⟩ harmed row hrow
    by_contra hready
    obtain ⟨hstuck, hsettled⟩ := stuck_of_unready htracked harmed hrow hready
    have hlast := hstuck.run (mem_participantRows.mp hrow).2 hsettled hready more hmore
    obtain rfl := Option.some.inj (hend.symm.trans hlast.race.1)
    cases hterm
  · intro hready
    cases hopen : migration.status.isTerminal with
    | true => exact ⟨[], by simp, migration.status, hst, hopen⟩
    | false =>
      by_cases harmed : s.hasMigrationEvent mid gateArmedEvent = true
      · have hprepared : migration.status = .prepared := by
          rcases htracked.staged.armed mid harmed with hprepared | hcommitted
          · exact Option.some.inj (hst.symm.trans hprepared)
          · obtain hcommitted := Option.some.inj (hst.symm.trans hcommitted)
            rw [hcommitted] at hopen
            cases hopen
        exact finishable_of_ready hpull hkind hfound hprepared hkeys htracked.held
          (participantRows_ne_nil htracked hst (.inl hprepared)) (hready harmed)
      · exact finishable_of_unarmed hpull hfound hopen hkeys (Bool.eq_false_of_not_eq_true harmed)

/-- The prepared migration is armed, and then its participant is aborted alone. -/
def strandedCalls : List (String × StoreCall) :=
  atNoon (preparedCalls ++ [.armPublicationGate ChangeIntent.sample.migrationId 2,
    .transitionParticipant "consumer-a" .aborted .verified 2 "PARTICIPANT_STATE_CHANGED" [] none none])

def samplePull : CoordinationReceipt where
  migrationId := ChangeIntent.sample.migrationId
  kind := .coordinatedPr
  reference := "https://host/pr/1"
  recordedAt := "2026-01-01T00:00:00Z"

/-- No call brings that migration to an end. -/
theorem stranded_for_good :
    ¬(strandedCalls.foldl (storeStep samplePython) {}).Finishable samplePython ChangeIntent.sample.migrationId := by
  have hread : ((strandedCalls.foldl (storeStep samplePython) {}).getMigration samplePython
      ChangeIntent.sample.migrationId).isOk = true := by decide +kernel
  have harmed : (strandedCalls.foldl (storeStep samplePython) {}).hasMigrationEvent
      ChangeIntent.sample.migrationId gateArmedEvent = true := by decide +kernel
  have haborted : ((strandedCalls.foldl (storeStep samplePython) {}).participantRows
      ChangeIntent.sample.migrationId).any (fun row => row.status = .aborted) = true := by decide +kernel
  have hcalls : ∀ c ∈ strandedCalls, c.2.Admitted samplePython := by
    intro c hc
    simp only [strandedCalls, atNoon, preparedCalls, List.cons_append, List.nil_append, List.map_cons,
      List.map_nil, List.mem_cons, List.not_mem_nil, or_false] at hc
    rcases hc with rfl | rfl | rfl | rfl | rfl | rfl | rfl
    all_goals exact ⟨by decide, by simp [StoreCall.Constructed], fun _ _ _ _ h => by cases h⟩
  cases hfound : (strandedCalls.foldl (storeStep samplePython) {}).getMigration samplePython
      ChangeIntent.sample.migrationId with
  | error e =>
    rw [hfound] at hread
    cases hread
  | ok migration =>
    intro hfinish
    have hready := (@finishable_iff samplePython ChangeIntent.sample.migrationId migration samplePull
      (by decide +kernel) rfl strandedCalls hcalls hfound).mp hfinish harmed
    obtain ⟨row, hrow, hst⟩ := List.any_eq_true.mp haborted
    have hready' := (hready row hrow).1
    rw [of_decide_eq_true hst] at hready'
    simp at hready'

end Exact

end LineageTX
