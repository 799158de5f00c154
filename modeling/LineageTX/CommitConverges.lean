import LineageTX.CommitAttempt
import LineageTX.Library.Success
import LineageTX.ReceiptRecovery

/-! Once the gate of a migration is armed, a commit that failed is simply tried again: whatever
the attempts before it came to, an attempt in which nothing fails records COMMITTED. -/
namespace LineageTX
open Library Store
variable {py : Python} {mid : String}

/-- The answers of a store, a recorder and services of which none fails. -/
def Obliges (mid : String) (w : CoordinatorState py) :
    (c : CoordinatorCall py) → Result c.Reply → CoordinatorState py → Prop
  | .store c, reply, w' => w'.memory = w.memory ∧ c.Answered py w.store reply w'.store
  | .read r, reply, w' => w' = w ∧ reply = r.answer py w.store
  | .recalled, reply, w' => w' = w ∧ reply = .ok w.memory
  | .remember u, reply, w' => w' = { w with memory := u.apply w.memory } ∧ reply = .ok ()
  | .assertImpactUnchanged context, reply, w' => w' = w ∧
    ∃ refreshed, reply = .ok refreshed ∧ acceptsRefresh context refreshed = true
  | .verify _ _, reply, w' => w' = w ∧ ∃ current, reply = .ok current ∧
    ∀ v, w.memory.verifiedGithubApprovals.get? mid = some v → current.evidenceSha256 = v.evidenceSha256 ∧
      current.resourceId = v.resourceId ∧ current.resourceNodeId = v.resourceNodeId
  | .stage request, reply, w' => w' = w ∧ ∃ stage, reply = .ok stage ∧ stage.validate request = .ok ()
  | .reconcile request _, reply, w' => w' = w ∧
    ∃ found, reply = .ok found ∧ ∀ publication, found = some publication → publication.validate request = .ok ()
  | .releaseGate request _, reply, w' => w' = w ∧
    ∃ publication, reply = .ok publication ∧ publication.validate request = .ok ()
  | _, reply, w' => w' = w ∧ ∃ a, reply = .ok a

/-- What a stage's write-back is built from. -/
structure Coordinator.Writable (co : Coordinator py) (context : ContextData) (mid : String)
    (ps : List Participant) : Prop where
  named : isBlank mid = false
  source : ∃ owner, context.source.governance.ownerUrns.head? = some owner ∧ startsWith owner "urn:li:" = true
  owners : ∀ p ∈ ps, ∃ owner, p.ownerUrns.head? = some owner ∧ startsWith owner "urn:li:" = true
  linked : ∀ stage, requireHttpsUrl py (co.baseUrl ++ "/" ++ mid ++ "/writeback/" ++ stage ++ ".json")
    "evidence_url" = .ok ()

/-- The candidate of a participant as the coordinator remembers it. -/
structure Remembered (memory : CoordinatorMemory py) (mid : String) (p : Participant)
    (v : Coordinator.VerifiedCandidate) : Prop where
  participant : v.participant = p
  session : memory.sessions.lookup (mid, p.participantId) = some v.session
  result : ∃ result, memory.results.lookup (mid, p.participantId) = some result ∧
    v.candidate = { participantId := p.participantId, repository := p.repository, branch := v.session.branch
                    commitSha := p.candidateCommitSha, changedFiles := result.changedFiles }
  valid : v.candidate.postInit = .ok v.candidate

/-- What a commit needs of the coordinator: its configuration, and its maps as the methods
before it left them. -/
structure Coordinator.Equipped (co : Coordinator py) (mid : String) (memory : CoordinatorMemory py)
    (migration : MigrationRecord) (ps : List Participant) : Prop where
  revalidator : co.hasRevalidator = true
  named : migration.migrationId = mid
  three : ps.length = 3
  context : ∃ context, memory.contexts.get? mid = some context ∧
    (co.hasWriter = true → co.Writable context.data mid ps)
  approval : co.allowTestApprovals = false → co.approvalVerifier.isSome = true ∧
    ∃ v, memory.verifiedGithubApprovals.get? mid = some v
  candidates : ∀ p ∈ ps, ∃ v, Remembered memory mid p v
  branch : isSafeBranch ("lineagetx/" ++ mid ++ "/coordination") = true

/-- The participants as the store lists them: each of a row that is ready. -/
structure Listing (py : Python) (s : Store) (mid : String) (ps : List Participant) : Prop where
  listed : s.listParticipants py mid = .ok ps
  ids : (ps.map (·.participantId)).Nodup
  verified : ∀ p ∈ ps, p.status = .verified ∧ p.candidateCommitSha ≠ ""
  ready : ∀ row ∈ s.participantRows mid, row.Ready py
  shas : ∀ row ∈ s.participantRows mid, ∃ p ∈ ps, p.candidateCommitSha = candidateSha py row.participantJson

section Store
variable {s s' : Store} {ps : List Participant} {now : String} {c : StoreCall}

/-- A plain call lets no gate be armed beside a reserved cleanup. -/
theorem oneSide_step (hc : c.Plain) (h : c.run py now s = .ok s')
    (hs : ¬((s.race mid).armed = true ∧ (s.race mid).reserved = true)) :
    ¬((s'.race mid).armed = true ∧ (s'.race mid).reserved = true) := by
  have hm := StoreCall.moves h mid
  cases c with
  | createMigration | abortMigration =>
    simp only [StoreCall.Moves] at hm
    split at hm
    all_goals simp_all
  | armPublicationGate | reserveAbortCleanup =>
    simp only [StoreCall.Moves] at hm
    split at hm
    all_goals simp_all
  | transitionMigration =>
    simp only [StoreCall.Moves] at hm
    split at hm
    · rw [hm.2.2.2.2 hc]
      exact hs
    · rw [hm]
      exact hs
  | transitionParticipant =>
    rw [hm.2 hc]
    exact hs
  | recordApproval =>
    rw [show s'.race mid = s.race mid from hm]
    exact hs

theorem unreserved_of_armed (calls : List (String × StoreCall)) (hcalls : ∀ c ∈ calls, c.2.Plain)
    (harmed : (calls.foldl (storeStep py) {}).hasMigrationEvent mid gateArmedEvent = true) :
    (calls.foldl (storeStep py) {}).hasMigrationEvent mid abortReservedEvent = false := by
  have hone : ¬(((calls.foldl (storeStep py) {}).race mid).armed = true ∧
      ((calls.foldl (storeStep py) {}).race mid).reserved = true) := by
    refine (StatesMeet.of_step (P := fun s : Store =>
      ¬((s.race mid).armed = true ∧ (s.race mid).reserved = true)) ?_ fun s c hmem hs => ?_).last
    · simp [Store.race, Store.hasMigrationEvent]
    · rcases c.2.after_cases py c.1 s with h | h
      · rw [storeStep, h]
        exact hs
      · exact oneSide_step (hcalls c hmem) h hs
  exact Bool.eq_false_iff.mpr fun hreserved => hone ⟨harmed, hreserved⟩

/-- What a store lists of a PREPARED migration, if nobody settles its participants alone. -/
theorem Store.Unstranded.listing (hs : s.Unstranded py) (hst : s.status? mid = some .prepared)
    (hlisted : s.listParticipants py mid = .ok ps) : Listing py s mid ps := by
  have hread : (s.participantRows mid).mapM (participantFromRow py) = .ok ps := by
    obtain ⟨_, -, h⟩ := bind_eq_ok.mp hlisted
    exact h
  have hsame : ∀ row ∈ s.participantRows mid, ∀ p, participantFromRow py row = .ok p →
      p.participantId = row.participantId ∧ p.status = row.status ∧
        p.candidateCommitSha = candidateSha py row.participantJson := by
    intro row hrow p hp
    obtain ⟨p₀, hp₀⟩ := hs.held row (mem_participantRows.mp hrow).1
    rw [hp₀.of_read hp, hp₀.participantId, hp₀.status, hp₀.document]
    exact ⟨rfl, rfl, rfl⟩
  have hpartners : List.Forall₂ (fun row p => row ∈ s.participantRows mid ∧ participantFromRow py row = .ok p)
      (s.participantRows mid) ps :=
    (List.forall₂_and_left _ _).mpr ⟨fun _ hrow => hrow, forall₂_of_mapM_ok hread⟩
  refine ⟨hlisted, ?_, fun p hp => ?_, fun row hrow => (hs.verified hst hrow).2, fun row hrow => ?_⟩
  · rw [← map_eq_of_partners (fun row p h => (hsame row h.1 p h.2).1.symm) hpartners]
    exact ((sortBy_perm _ _).map _).nodup_iff.mpr (hs.keyed.unique.sublist (List.filter_sublist.map _))
  · obtain ⟨row, -, hrow, hfrom⟩ := exists_partner hpartners.flip hp
    obtain ⟨-, hstatus, hsha⟩ := hsame row hrow p hfrom
    obtain ⟨hverified, -, hfull⟩ := hs.verified hst hrow
    rw [hstatus, hsha]
    refine ⟨hverified, fun hempty => ?_⟩
    rw [hempty] at hfull
    exact absurd hfull (by decide)
  · obtain ⟨p, hp, -, hfrom⟩ := exists_partner hpartners hrow
    exact ⟨p, hp, (hsame row hrow p hfrom).2.2⟩

end Store

section Success
variable {co : Coordinator py} {w : CoordinatorState py} {migration : MigrationRecord}
  {ps : List Participant}

/-- A stage's map is built for participants of which each has its owner. -/
theorem stageWritebacks_ok {context : ContextData} {url : String} {record : MigrationRecord}
    (hnamed : isBlank record.migrationId = false) (hthree : ps.length = 3)
    (hstatus : record.status = .prepared ∨ record.status = .committed)
    (hverified : ∀ p ∈ ps, p.status = .verified)
    (hsource : ∃ owner, context.source.governance.ownerUrns.head? = some owner ∧
      startsWith owner "urn:li:" = true)
    (howners : ∀ p ∈ ps, ∃ owner, p.ownerUrns.head? = some owner ∧ startsWith owner "urn:li:" = true)
    (hlinked : requireHttpsUrl py url "evidence_url" = .ok ()) :
    ∃ writebacks, stageWritebacks py context record ps url = .ok writebacks := by
  have hrecord : ∀ status owner, migrationStates.contains status = true → startsWith owner "urn:li:" = true →
      MigrationWriteback.postInit py { migrationId := record.migrationId, status, owner, evidenceUrl := url } =
        .ok { migrationId := record.migrationId, status, owner, evidenceUrl := url } := by
    intro status owner hstates howner
    simp only [MigrationWriteback.postInit, bind_eq_ok, require_eq_ok]
    exact ⟨(), by rw [hnamed]; rfl, (), hstates, (), howner, (), hlinked, rfl⟩
  have hloop : ∀ (l : List Participant) (d : Dict MigrationWriteback), (∀ p ∈ l, p ∈ ps) →
      ∃ writebacks, l.foldlM (addWriteback py record.migrationId url) d = .ok writebacks := by
    intro l
    induction l with
    | nil => exact fun d _ => ⟨d, rfl⟩
    | cons p l ih =>
      intro d hl
      obtain ⟨hp, hrest⟩ := List.forall_mem_cons.mp hl
      obtain ⟨owner, hhead, howner⟩ := howners p hp
      obtain ⟨writebacks, hwritebacks⟩ := ih (d.set p.assetUrn
        { migrationId := record.migrationId, status := p.status.value, owner, evidenceUrl := url }) hrest
      refine ⟨writebacks, ?_⟩
      rw [List.foldlM_cons, addWriteback, firstOwner_eq_ok.mpr hhead, ok_bind,
        hrecord _ owner (by rw [hverified p hp]; decide) howner]
      exact hwritebacks
  obtain ⟨owner, hhead, howner⟩ := hsource
  obtain ⟨writebacks, hwritebacks⟩ := hloop ps _ fun _ hp => hp
  refine ⟨writebacks, ?_⟩
  simp only [stageWritebacks, bind_eq_ok, require_eq_ok]
  exact ⟨(), decide_eq_true hthree, owner, firstOwner_eq_ok.mpr hhead, _,
    hrecord _ owner (by rcases hstatus with h | h <;> rw [h] <;> decide) howner, hwritebacks⟩

namespace Coordinator

theorem record_succeeds (calls : List EvidenceCall) :
    (co.record calls).Succeeds (Obliges mid) (fun _ w' => w' = w) w := by
  refine Prog.succeeds_onlyWhen (fun _ => Prog.succeeds_forM calls fun call _ => ?_) fun _ => rfl
  refine Prog.succeeds_perform fun reply w' hserve => ?_
  obtain ⟨rfl, a, rfl⟩ := hserve
  exact ⟨a, rfl, rfl⟩

theorem read_succeeds {r : StoreRead} {a : r.Reply} (h : r.answer py w.store = .ok a) :
    (@CoordinatorCall.read py r).run.Succeeds (Obliges mid) (fun a' w' => w' = w ∧ a' = a) w := by
  refine Prog.succeeds_perform fun reply w' hserve => ?_
  obtain ⟨rfl, hreply⟩ := hserve
  exact ⟨a, hreply.trans h, rfl, rfl⟩

theorem recalled_succeeds : (@recalled py).Succeeds (Obliges mid) (fun m w' => w' = w ∧ m = w.memory) w := by
  refine Prog.succeeds_perform fun reply w' hserve => ?_
  obtain ⟨rfl, hreply⟩ := hserve
  exact ⟨_, hreply, rfl, rfl⟩

theorem requiredContext_succeeds {context : ContextObject py}
    (h : w.memory.contexts.get? mid = some context) : (@requiredContext py mid).Succeeds (Obliges mid)
      (fun c w' => w' = w ∧ c = context) w := by
  refine recalled_succeeds.bind fun m w' hm => ?_
  obtain ⟨rfl, rfl⟩ := hm
  rw [h]
  exact ⟨rfl, rfl⟩

theorem refreshImpact_succeeds (context : ContextObject py) (refusal : String) :
    (refreshImpact context refusal).Succeeds (Obliges mid) (fun _ w' => w' = w) w := by
  refine Prog.Succeeds.bind (R := fun refreshed w' => w' = w ∧ acceptsRefresh context refreshed = true)
    (Prog.succeeds_perform fun reply w' hserve => ?_) fun refreshed w' hrefreshed => ?_
  · obtain ⟨rfl, refreshed, rfl, haccepts⟩ := hserve
    exact ⟨refreshed, rfl, rfl, haccepts⟩
  · obtain ⟨rfl, haccepts⟩ := hrefreshed
    exact Prog.Succeeds.lift_bind (b := ()) (require_eq_ok.mpr haccepts) rfl

/-- The write-back of a stage at which the participants are verified. -/
theorem writeback_succeeds {record : MigrationRecord} {stage : String} {refreshed : Option (ContextObject py)}
    {context : ContextObject py} (hcontext : w.memory.contexts.get? mid = some context)
    (hwritable : co.hasWriter = true → co.Writable context.data mid ps) (hthree : ps.length = 3)
    (hnamed : record.migrationId = mid) (hstatus : record.status = .prepared ∨ record.status = .committed)
    (hlisted : w.store.listParticipants py mid = .ok ps) (hverified : ∀ p ∈ ps, p.status = .verified) :
    (co.writeback record stage refreshed).Succeeds (Obliges mid) (fun _ w' => w' = w) w := by
  refine Prog.succeeds_onlyWhen (fun happlies => ?_) fun _ => rfl
  obtain ⟨hblank, hsource, howners, hlinked⟩ := hwritable happlies
  subst hnamed
  refine (requiredContext_succeeds hcontext).bind fun c w' hc => ?_
  obtain ⟨rfl, rfl⟩ := hc
  refine (read_succeeds (r := .listParticipants _) hlisted).bind fun rows w' hrows => ?_
  obtain ⟨rfl, rfl⟩ := hrows
  obtain ⟨writebacks, hbuilt⟩ := stageWritebacks_ok hblank hthree hstatus hverified hsource howners (hlinked stage)
  refine Prog.Succeeds.lift_bind hbuilt ?_
  refine Prog.Succeeds.bind (R := fun _ w₁ => w₁ = w') (Prog.succeeds_perform fun reply w₁ hserve => ?_)
    fun _ w₁ hw₁ => ?_
  · obtain ⟨rfl, a, rfl⟩ := hserve
    exact ⟨a, rfl, rfl⟩
  · subst hw₁
    exact record_succeeds _

theorem reverifyApproval_succeeds (hverifier : co.approvalVerifier.isSome = true)
    {v : VerifiedGitHubApproval} (hkept : w.memory.verifiedGithubApprovals.get? mid = some v)
    (intent : ChangeIntent) : (co.reverifyApproval mid intent).Succeeds (Obliges mid) (fun _ w' => w' = w) w := by
  have hlook : (co.lookUpVerified mid).Succeeds (Obliges mid) (fun v' w' => w' = w ∧ v' = v) w := by
    refine recalled_succeeds.bind fun m w' hm => ?_
    obtain ⟨rfl, rfl⟩ := hm
    rw [hkept]
    exact Prog.Succeeds.lift_bind (b := ()) (require_eq_ok.mpr hverifier) ⟨rfl, rfl⟩
  refine hlook.bind fun v' w' hv => ?_
  obtain ⟨rfl, rfl⟩ := hv
  refine Prog.Succeeds.bind (R := fun current w₁ => w₁ = w' ∧ (current.evidenceSha256 = v'.evidenceSha256 &&
    current.resourceId = v'.resourceId && current.resourceNodeId = v'.resourceNodeId) = true)
    (Prog.succeeds_perform fun reply w₁ hserve => ?_) fun current w₁ hcurrent => ?_
  · obtain ⟨rfl, current, rfl, hsame⟩ := hserve
    obtain ⟨hsha, hresource, hnode⟩ := hsame v' hkept
    exact ⟨current, rfl, rfl, by simp [hsha, hresource, hnode]⟩
  · obtain ⟨rfl, hsame⟩ := hcurrent
    exact Prog.Succeeds.lift_bind (b := ()) (require_eq_ok.mpr hsame) (record_succeeds _)

theorem verifiedCandidate_succeeds {p : Participant} {v : VerifiedCandidate}
    (hp : p.status = .verified ∧ p.candidateCommitSha ≠ "") (hv : Remembered w.memory mid p v) :
    (@verifiedCandidate py mid p).Succeeds (Obliges mid) (fun v' w' => w' = w ∧ v' = v) w := by
  obtain ⟨hparticipant, hsession, ⟨result, hresult, hcandidate⟩, hvalid⟩ := hv
  refine Prog.Succeeds.lift_bind (b := ()) (require_eq_ok.mpr (by simp [hp.1, hp.2])) ?_
  refine recalled_succeeds.bind fun m w' hm => ?_
  obtain ⟨rfl, rfl⟩ := hm
  simp only [hsession, hresult]
  rw [hcandidate] at hvalid
  refine Prog.Succeeds.lift_bind hvalid ⟨rfl, ?_⟩
  rw [← hcandidate, ← hparticipant]

/-- The request of three candidates of different participants is valid. -/
theorem publicationRequest_ok (intent : ChangeIntent) {candidates : List CandidateCommit}
    (hthree : candidates.length = 3) (hids : (candidates.map (·.participantId)).Nodup)
    (hbranch : isSafeBranch ("lineagetx/" ++ mid ++ "/coordination") = true) :
    ∃ request, publicationRequest py mid intent candidates = .ok request := by
  have htitle : isBlank ("LineageTX " ++ mid ++ ": " ++ intent.oldField ++ " to " ++ intent.newField) = false := by
    simp only [isBlank, String.toList_append]
    rfl
  have hbody : isBlank (publicationBody candidates) = false := by
    simp only [publicationBody, isBlank, List.cons_append, String.intercalate_cons_cons, String.toList_append]
    rfl
  have hmain : isSafeBranch "main" = true := by decide
  refine ⟨{ intent, candidates, title := "LineageTX " ++ mid ++ ": " ++ intent.oldField ++ " to " ++ intent.newField
            body := publicationBody candidates
            coordinatedHeadBranch := "lineagetx/" ++ mid ++ "/coordination" }, ?_⟩
  unfold publicationRequest PublicationRequest.postInit
  simp only [bind_eq_ok, require_eq_ok]
  refine ⟨(), rfl, (), decide_eq_true hthree, (), decide_eq_true hids, (), by rw [htitle, hbody]; rfl, ⟨⟩, ?_, rfl⟩
  simp only [List.forIn_cons, List.forIn_nil, require, hbranch, hmain]
  rfl

/-- A request whose candidates are those that the coordinator remembers. -/
def RequestOf (w : CoordinatorState py) (mid : String) (migration : MigrationRecord) (ps : List Participant)
    (request : PublicationRequest) : Prop :=
  ∃ vs, List.Forall₂ (Remembered w.memory mid) ps vs ∧
    publicationRequest py mid migration.intent (vs.map (·.candidate)) = .ok request

theorem stagePublication_succeeds (he : co.Equipped mid w.memory migration ps)
    (hl : Listing py w.store mid ps) (refreshed : ContextObject py) :
    (stagePublication mid refreshed migration.intent).Succeeds (Obliges mid)
      (fun ready w' => w' = w ∧ RequestOf w mid migration ps ready.request) w := by
  refine (read_succeeds (r := .listParticipants mid) hl.listed).bind fun rows w' hrows => ?_
  obtain ⟨rfl, rfl⟩ := hrows
  refine (Prog.succeeds_mapM (R := Remembered w'.memory mid) rows fun p hp => ?_).bind fun vs w₁ hvs => ?_
  · obtain ⟨v, hv⟩ := he.candidates p hp
    refine (verifiedCandidate_succeeds (hl.verified p hp) hv).mono fun v' w₁ hv' => ?_
    obtain ⟨rfl, rfl⟩ := hv'
    exact ⟨rfl, hv⟩
  obtain ⟨rfl, hvs⟩ := hvs
  have hthree : vs.length = 3 := hvs.length_eq ▸ he.three
  have hids : ((vs.map (·.candidate)).map (·.participantId)).Nodup := by
    rw [List.map_map, ← map_eq_of_partners (f := (·.participantId)) (fun p v hv => ?_) hvs]
    · exact hl.ids
    · obtain ⟨result, -, hcandidate⟩ := hv.result
      simp [hcandidate]
  obtain ⟨request, hrequest⟩ := @publicationRequest_ok py mid migration.intent (vs.map (·.candidate))
    (by simpa using hthree) hids he.branch
  refine Prog.Succeeds.lift_bind (b := ()) (require_eq_ok.mpr (decide_eq_true hthree)) ?_
  refine Prog.Succeeds.lift_bind hrequest ?_
  refine (Prog.succeeds_forM vs fun v _ => ?_).bind fun _ w₂ hw₂ => ?_
  · refine Prog.Succeeds.bind (R := fun _ w₂ => w₂ = w₁) (Prog.succeeds_perform fun reply w₂ hserve => ?_)
      fun _ w₂ hw₂ => hw₂
    obtain ⟨rfl, a, rfl⟩ := hserve
    exact ⟨a, rfl, rfl⟩
  subst hw₂
  refine Prog.Succeeds.bind (R := fun stage w₃ => w₃ = w₂ ∧ stage.validate request = .ok ())
    (Prog.succeeds_perform fun reply w₃ hserve => ?_) fun stage w₃ hstage => ?_
  · obtain ⟨rfl, stage, rfl, hvalid⟩ := hserve
    exact ⟨stage, rfl, rfl, hvalid⟩
  · obtain ⟨rfl, hvalid⟩ := hstage
    exact Prog.Succeeds.lift_bind hvalid ⟨rfl, vs, hvs, hrequest⟩

theorem readyToRelease_succeeds (he : co.Equipped mid w.memory migration ps)
    (hprepared : migration.status = .prepared) (hl : Listing py w.store mid ps) {context : ContextObject py}
    (hcontext : w.memory.contexts.get? mid = some context) :
    (co.readyToRelease mid migration context).Succeeds (Obliges mid)
      (fun ready w' => w' = w ∧ RequestOf w mid migration ps ready.request) w := by
  obtain ⟨context', hcontext', hwritable⟩ := he.context
  obtain rfl := Option.some.inj (hcontext.symm.trans hcontext')
  refine (refreshImpact_succeeds context _).bind fun refreshed w' hw' => ?_
  subst hw'
  refine (writeback_succeeds hcontext hwritable he.three he.named (.inl hprepared) hl.listed
    fun p hp => (hl.verified p hp).1).bind fun _ w₁ hw₁ => ?_
  subst hw₁
  refine Prog.Succeeds.bind (R := fun _ w₂ => w₂ = w₁) (Prog.succeeds_onlyWhen (fun hmode => ?_) fun _ => rfl)
    fun _ w₂ hw₂ => ?_
  · obtain ⟨hverifier, v, hkept⟩ := he.approval hmode
    exact reverifyApproval_succeeds hverifier hkept migration.intent
  · subst hw₂
    exact stagePublication_succeeds he hl refreshed

/-- The gate is armed already, so that arming it again succeeds. -/
theorem armGate_succeeds (harmed : w.store.Armed py mid migration)
    (hunreserved : w.store.hasMigrationEvent mid abortReservedEvent = false) :
    (@armGate py mid migration.version).Succeeds (Obliges mid) (fun _ w' => w' = w) w := by
  refine Prog.Succeeds.tryCatch (Prog.succeeds_perform fun reply w' hserve => ?_)
  obtain ⟨hmemory, now, hanswer⟩ := hserve
  obtain ⟨row, hrow, -, hstatus, hversion⟩ := getMigration_cases harmed.found
  have harm : w.store.armPublicationGate now mid migration.version = .ok w.store := by
    simp only [armPublicationGate, bind_eq_ok, selectMigration_eq_ok, requireMigration_eq_ok, require_eq_ok,
      harmed.gate, if_true]
    exact ⟨row, hrow, (), ⟨hstatus.trans harmed.prepared, hversion⟩, (), by rw [hunreserved]; rfl, rfl⟩
  simp only [StoreCall.answer, harm, ok_bind] at hanswer
  obtain ⟨hreply, hstore⟩ := hanswer
  refine ⟨(), hreply, ?_⟩
  cases w'
  cases w
  exact congrArg₂ CoordinatorState.mk hstore hmemory

theorem publish_succeeds (ready : ReadyToRelease py) : (co.publish ready).Succeeds (Obliges mid)
    (fun publication w' => w' = w ∧ publication.validate ready.request = .ok ()) w := by
  refine Prog.Succeeds.tryCatch (Prog.Succeeds.bind (R := fun publication w' => w' = w ∧
    publication.validate ready.request = .ok ()) ?_ fun publication w' hpublication => ?_)
  · refine (record_succeeds _).bind fun _ w' hw' => ?_
    subst hw'
    refine Prog.Succeeds.bind (R := fun found w₁ => w₁ = w' ∧ ∀ publication, found = some publication →
      publication.validate ready.request = .ok ()) (Prog.succeeds_perform fun reply w₁ hserve => ?_)
      fun found w₁ hfound => ?_
    · obtain ⟨rfl, found, rfl, hvalid⟩ := hserve
      exact ⟨found, rfl, rfl, hvalid⟩
    obtain ⟨rfl, hvalid⟩ := hfound
    cases found with
    | some publication => exact ⟨rfl, hvalid publication rfl⟩
    | none =>
      refine Prog.succeeds_perform fun reply w₂ hserve => ?_
      obtain ⟨rfl, publication, rfl, hvalid⟩ := hserve
      exact ⟨publication, rfl, rfl, hvalid⟩
  · obtain ⟨rfl, hvalid⟩ := hpublication
    exact Prog.Succeeds.lift_bind hvalid ⟨rfl, hvalid⟩

/-- A publication of the request has receipts that the guards of the store accept. -/
theorem guards_of_validate {memory : CoordinatorMemory py} {s : Store} (hl : Listing py s mid ps)
    (hheld : s.HoldsParticipants) (hthree : ps.length = 3) (hnamed : migration.migrationId = mid)
    {request : PublicationRequest} (hrequest : RequestOf ⟨s, memory⟩ mid migration ps request)
    {publication : PublicationResult} (hvalid : publication.validate request = .ok ()) :
    (∀ r ∈ publication.receipts, r.migrationId = mid) ∧ receiptGuard publication.receipts = .ok () ∧
      s.commitGuard py mid publication.receipts = .ok () := by
  obtain ⟨vs, hvs, hpost⟩ := hrequest
  obtain ⟨rfl, -⟩ := request_postInit hpost
  have hshaped := shaped_of_validate hvalid (by simpa using hvs.length_eq ▸ hthree)
  simp only [PublicationResult.validate, PublicationStage.validate, PublicationResult.stage,
    bind_eq_ok, requirePublication_eq_ok, List.all_eq_true] at hvalid
  obtain ⟨_, ⟨_, -, _, hmids, _, -, _, -, _, -, hsame⟩, _, -, _, hgate, -⟩ := hvalid
  refine ⟨fun r hr => ?_, ?_, commitGuard_covered hheld hl.ready fun row hrow => ?_⟩
  · simp only [PublicationResult.receipts, List.mem_append, List.mem_cons, List.not_mem_nil, or_false] at hr
    rcases hr with hr | rfl | rfl
    · exact (of_decide_eq_true (hmids r (by simp [hr]))).trans hnamed
    · exact (of_decide_eq_true (hmids _ (by simp))).trans hnamed
    · exact (of_decide_eq_true hgate).trans hnamed
  · rw [receiptGuard, require_eq_ok, decide_eq_true_eq, missingReceiptKinds, sortedSet_eq_nil,
      List.map_eq_nil_iff, List.filter_eq_nil_iff]
    have hne : publication.candidateReceipts ≠ [] := by
      intro hnil
      have hlength := hshaped.three
      simp [hnil] at hlength
    obtain ⟨first, rest, hfirst⟩ := List.exists_cons_of_ne_nil hne
    have hkind := hshaped.candidates first (by simp [hfirst])
    intro kind _
    cases kind <;> simp [PublicationResult.receipts, hfirst, hkind, hshaped.pullRequest, hshaped.gate]
  · obtain ⟨p, hp, hsha⟩ := hl.shas row hrow
    obtain ⟨v, hv, hremembered⟩ := exists_partner hvs hp
    have hcommit : (v.candidate.reference, v.candidate.commitSha) ∈
        publication.candidateReceipts.map fun r => (r.reference, r.commitSha) := by
      have hsubset := (Bool.and_eq_true_iff.mp hsame).2
      refine of_decide_eq_true hsubset (List.mem_map.mpr ⟨v.candidate, ?_, rfl⟩)
      exact List.mem_map_of_mem hv
    obtain ⟨r, hr, hpair⟩ := List.mem_map.mp hcommit
    obtain ⟨result, -, hcandidate⟩ := hremembered.result
    refine ⟨r, List.mem_append_left _ hr, hshaped.candidates r hr, ?_⟩
    rw [(Prod.mk.inj hpair).2, hcandidate, ← hsha]

/-- COMMITTED is recorded with the receipts of the publication. -/
theorem persistCommitted_succeeds (harmed : w.store.Armed py mid migration) (hkeys : w.store.PrimaryKeys)
    (refreshed : ContextObject py) {publication : PublicationResult}
    (hguards : (∀ r ∈ publication.receipts, r.migrationId = mid) ∧ receiptGuard publication.receipts = .ok () ∧
      w.store.commitGuard py mid publication.receipts = .ok ()) :
    (co.persistCommitted mid migration refreshed publication).Succeeds (Obliges mid)
      (fun record w' => w'.memory = w.memory ∧ Recorded py mid publication w.store w'.store ∧
        record.status = .committed ∧ record.intent = migration.intent) w := by
  refine Prog.Succeeds.tryCatch (Prog.succeeds_perform fun reply w' hserve => ?_)
  obtain ⟨hmemory, now, hanswer⟩ := hserve
  obtain ⟨hmids, hkinds, hguard⟩ := hguards
  obtain ⟨r, hr, -⟩ := @transitionMigration_commits py now mid w.store migration publication.receipts
    "COORDINATED_PR_CREATED_AND_PRODUCER_GATE_RELEASED" (committedPayload refreshed.data.impactFingerprint)
    harmed.found harmed.prepared hkeys hmids hkinds hguard
  obtain ⟨-, -, -, -, row, t, hrow, -, -, -, -, -, hintent, hstatus, -⟩ := transitionMigration_cases hr
  obtain ⟨row', hrow', hintent', -⟩ := getMigration_cases harmed.found
  obtain rfl := Option.some.inj (hrow.symm.trans hrow')
  rw [committedPayload] at hr
  simp only [StoreCall.answer, hr] at hanswer
  obtain ⟨hreply, hstore⟩ := hanswer
  exact ⟨r.1, hreply, hmemory, ⟨now, _, _, _, r, hr, hstore⟩, hstatus, Except.ok.inj (hintent.symm.trans hintent')⟩

theorem finalWriteback_succeeds {record : MigrationRecord} {context : ContextObject py}
    (hcontext : w.memory.contexts.get? mid = some context)
    (hwritable : co.hasWriter = true → co.Writable context.data mid ps) (hthree : ps.length = 3)
    (hnamed : record.migrationId = mid) (hstatus : record.status = .committed)
    (hlisted : w.store.listParticipants py mid = .ok ps) (hverified : ∀ p ∈ ps, p.status = .verified)
    (refreshed : ContextObject py) (publication : PublicationResult) (stage failure capture : String)
    (msg : Exn → String) :
    (co.finalWriteback mid record refreshed publication stage failure capture msg).Succeeds (Obliges mid)
      (fun outcome w' => w' = w ∧ outcome.publication = publication ∧ outcome.migration = record ∧
        outcome.participants = ps) w := by
  refine Prog.Succeeds.bind (R := fun _ w' => w' = w) (Prog.Succeeds.tryCatch (writeback_succeeds hcontext
    hwritable hthree hnamed (.inr hstatus) hlisted hverified)) fun _ w' hw' => ?_
  subst hw'
  refine (record_succeeds _).bind fun _ w₁ hw₁ => ?_
  subst hw₁
  refine (read_succeeds (r := .listParticipants mid) hlisted).bind fun rows w₂ hrows => ?_
  obtain ⟨rfl, rfl⟩ := hrows
  exact ⟨rfl, rfl, rfl, rfl⟩

/-- What a commit without a failure ends with. -/
def Ended (py : Python) (mid : String) (s : Store) (ps : List Participant) (outcome : CommitOutcome)
    (w' : CoordinatorState py) : Prop :=
  Recorded py mid outcome.publication s w'.store ∧ outcome.migration.status = .committed ∧
    outcome.participants = ps

theorem commitReady_succeeds (harmed : w.store.Armed py mid migration)
    (hunreserved : w.store.hasMigrationEvent mid abortReservedEvent = false) (hkeys : w.store.PrimaryKeys)
    (hheld : w.store.HoldsParticipants) (he : co.Equipped mid w.memory migration ps)
    (hl : Listing py w.store mid ps) {ready : ReadyToRelease py}
    (hready : RequestOf w mid migration ps ready.request) :
    (co.commitReady mid migration ready).Succeeds (Obliges mid) (Ended py mid w.store ps) w := by
  obtain ⟨context, hcontext, hwritable⟩ := he.context
  refine (armGate_succeeds harmed hunreserved).bind fun _ w' hw' => ?_
  subst hw'
  refine (publish_succeeds ready).bind fun publication w₁ hpublication => ?_
  obtain ⟨rfl, hvalid⟩ := hpublication
  have hrequest : RequestOf ⟨w₁.store, w₁.memory⟩ mid migration ps ready.request := hready
  have hguards := guards_of_validate hl hheld he.three he.named hrequest hvalid
  refine Prog.Succeeds.bind (R := fun _ w₂ => w₂ = { w₁ with memory :=
      { w₁.memory with publications := w₁.memory.publications.set mid publication } })
    (Prog.succeeds_perform fun reply w₂ hserve => ⟨(), hserve.2, hserve.1⟩) fun _ w₂ hw₂ => ?_
  have hstore : w₂.store = w₁.store := by rw [hw₂]
  have hcontexts : w₂.memory.contexts = w₁.memory.contexts := by rw [hw₂]
  refine (persistCommitted_succeeds (w := w₂) (hstore ▸ harmed) (hstore ▸ hkeys) ready.refreshed
    (hstore ▸ hguards)).bind fun record w₃ hrecord => ?_
  obtain ⟨hmemory, hrecorded, hstatus, hintent⟩ := hrecord
  rw [hstore] at hrecorded
  have hlisted := (hrecorded.reads harmed.found).2.trans hl.listed
  have hnamed : record.migrationId = mid := by
    rw [MigrationRecord.migrationId, hintent]
    exact he.named
  refine (finalWriteback_succeeds (by rw [hmemory, hcontexts]; exact hcontext) hwritable he.three hnamed hstatus
    hlisted (fun p hp => (hl.verified p hp).1) _ _ _ _ _ _).mono fun outcome w₄ houtcome => ?_
  obtain ⟨rfl, rfl, rfl, hps⟩ := houtcome
  exact ⟨hrecorded, hstatus, hps⟩

theorem Equipped.published {memory : CoordinatorMemory py} (h : co.Equipped mid memory migration ps)
    (publications : Dict PublicationResult) :
    co.Equipped mid { memory with publications } migration ps where
  revalidator := h.revalidator
  named := h.named
  three := h.three
  context := h.context
  approval := h.approval
  candidates p hp := by
    obtain ⟨v, hv⟩ := h.candidates p hp
    exact ⟨v, hv.participant, hv.session, hv.result, hv.valid⟩
  branch := h.branch

/-- A commit that was recorded before is reconciled with the publication remembered. -/
theorem reconcileCommit_succeeds (he : co.Equipped mid w.memory migration ps) {s : Store}
    (hfound : s.getMigration py mid = .ok migration) (hl : Listing py s mid ps)
    {publication : PublicationResult} (hknown : w.memory.publications.get? mid = some publication)
    (hrecorded : Recorded py mid publication s w.store) :
    (co.reconcileCommit mid).Succeeds (Obliges mid) (Ended py mid s ps) w := by
  obtain ⟨context, hcontext, hwritable⟩ := he.context
  obtain ⟨⟨record, hread, hstatus, hintent⟩, hrows⟩ := hrecorded.reads hfound
  have hlisted := hrows.trans hl.listed
  have hnamed : record.migrationId = mid := by
    rw [MigrationRecord.migrationId, hintent]
    exact he.named
  refine (read_succeeds (r := .getMigration mid) hread).bind fun current w' hcurrent => ?_
  obtain ⟨rfl, rfl⟩ := hcurrent
  refine Prog.Succeeds.lift_bind (b := ()) (require_eq_ok.mpr (decide_eq_true hstatus)) ?_
  refine (requiredContext_succeeds hcontext).bind fun c w₁ hc => ?_
  obtain ⟨rfl, rfl⟩ := hc
  refine Prog.Succeeds.lift_bind (b := ()) (require_eq_ok.mpr he.revalidator) ?_
  refine (refreshImpact_succeeds c _).bind fun refreshed w₂ hw₂ => ?_
  subst hw₂
  have hpublication : (@knownPublication py mid).Succeeds (Obliges mid)
      (fun found w' => w' = w₂ ∧ found = publication) w₂ := by
    refine recalled_succeeds.bind fun m w' hm => ?_
    obtain ⟨rfl, rfl⟩ := hm
    rw [hknown]
    exact ⟨rfl, rfl⟩
  refine hpublication.bind fun found w₃ hfound => ?_
  obtain ⟨rfl, rfl⟩ := hfound
  refine (finalWriteback_succeeds hcontext hwritable he.three hnamed hstatus hlisted
    (fun p hp => (hl.verified p hp).1) _ _ _ _ _ _).mono fun outcome w₄ houtcome => ?_
  obtain ⟨rfl, rfl, rfl, hps⟩ := houtcome
  exact ⟨hrecorded, hstatus, hps⟩

/-- A commit without a failure, after attempts that left what they found or recorded COMMITTED. -/
theorem commit_succeeds {w₀ : CoordinatorState py} (hstart : w₀.store.Armed py mid migration)
    (hunreserved : w₀.store.hasMigrationEvent mid abortReservedEvent = false) (hkeys : w₀.store.PrimaryKeys)
    (hheld : w₀.store.HoldsParticipants) (he : co.Equipped mid w₀.memory migration ps)
    (hl : Listing py w₀.store mid ps) (hw : Held py mid w₀ w) :
    (co.commit mid).Succeeds (Obliges mid) (Ended py mid w₀.store ps) w := by
  have hequipped : co.Equipped mid w.memory migration ps := hw.maps ▸ he.published w.memory.publications
  obtain ⟨context, hcontext, -⟩ := hequipped.context
  rcases hw.store with hsame | ⟨publication, hknown, hrecorded⟩
  · rw [← hsame] at hstart hunreserved hkeys hheld hl ⊢
    refine (read_succeeds (r := .getMigration mid) hstart.found).bind fun current w' hcurrent => ?_
    obtain ⟨rfl, rfl⟩ := hcurrent
    rw [if_neg (by rw [hstart.prepared]; decide)]
    refine Prog.Succeeds.lift_bind (b := ()) (require_eq_ok.mpr (decide_eq_true hstart.prepared)) ?_
    refine (requiredContext_succeeds hcontext).bind fun c w₁ hc => ?_
    obtain ⟨rfl, rfl⟩ := hc
    refine Prog.Succeeds.lift_bind (b := ()) (require_eq_ok.mpr hequipped.revalidator) ?_
    refine (readyToRelease_succeeds hequipped hstart.prepared hl hcontext).tryCatch.bind fun ready w₂ hready => ?_
    obtain ⟨rfl, hrequest⟩ := hready
    exact commitReady_succeeds hstart hunreserved hkeys hheld hequipped hl hrequest
  · obtain ⟨⟨record, hread, hstatus, -⟩, -⟩ := hrecorded.reads hstart.found
    refine (read_succeeds (r := .getMigration mid) hread).bind fun current w' hcurrent => ?_
    obtain ⟨rfl, rfl⟩ := hcurrent
    rw [if_pos hstatus]
    exact reconcileCommit_succeeds hequipped hstart.found hl hknown hrecorded

end Coordinator
end Success

/-- Once the gate of a PREPARED migration is armed: no attempt to commit deletes a candidate,
whatever fails in it, and it leaves the store as it was or COMMITTED; and after any number of
attempts that failed, an attempt in which nothing fails ends with the migration COMMITTED, by
one transition with the receipts of the publication that it returns. -/
theorem commit_converges (co : Coordinator py) (mid : String) (earlier : List (String × StoreCall))
    (hearlier : ∀ c ∈ earlier, c.2.Plain ∧ c.2.Undecided) (memory : CoordinatorMemory py)
    (migration : MigrationRecord) (harmed : (earlier.foldl (storeStep py) {}).Armed py mid migration)
    (w : CoordinatorState py) (hattempts : CommitAttempts co mid ⟨earlier.foldl (storeStep py) {}, memory⟩ w) :
    (∀ services log r w', (co.commit mid).Runs (Serves services) w log r w' →
      Held py mid ⟨earlier.foldl (storeStep py) {}, memory⟩ w' ∧
        ∀ session reply, ⟨.worktrees (.abort session), reply⟩ ∉ log) ∧
    ∀ ps, (earlier.foldl (storeStep py) {}).listParticipants py mid = .ok ps →
      co.Equipped mid memory migration ps →
      ∀ log r w', (co.commit mid).Runs (Obliges mid) w log r w' → ∃ outcome, r = .ok outcome ∧
        Recorded py mid outcome.publication (earlier.foldl (storeStep py) {}) w'.store ∧
        outcome.migration.status = .committed ∧ outcome.participants = ps := by
  have hheld := hattempts.held harmed
  have hstore : (earlier.foldl (storeStep py) {}).Unstranded py := unstranded_run earlier hearlier
  have hunreserved := unreserved_of_armed earlier (fun c hc => (hearlier c hc).1) harmed.gate
  refine ⟨fun services log r w' hrun => ?_, fun ps hlisted hequipped log r w' hrun => ?_⟩
  · have hattempt := @Coordinator.commit_held py mid co w _ services migration harmed hheld
    refine ⟨hattempt.of_run hrun, fun session reply hmem => ?_⟩
    obtain ⟨_, -, hretains⟩ := hattempt.found (I := fun _ => True) (fun _ _ _ _ _ _ _ => trivial) hrun trivial hmem
    exact hretains
  · obtain ⟨row, hrow, -, hstatus, -⟩ := getMigration_cases harmed.found
    have hst := status?_of_row hrow
    rw [hstatus, harmed.prepared] at hst
    exact (Coordinator.commit_succeeds harmed hunreserved ⟨hstore.migrations, hstore.keyed.unique⟩ hstore.held
      hequipped (hstore.listing hst hlisted) hheld).of_run hrun

instance : (c : StoreCall) → Decidable c.Undecided
  | .transitionParticipant _ target .. => inferInstanceAs (Decidable (target ≠ .committed ∧ target ≠ .aborted))
  | .createMigration .. | .transitionMigration .. | .armPublicationGate .. | .reserveAbortCleanup ..
  | .abortMigration .. | .recordApproval .. => .isTrue trivial

section Sample

/-- The sample migration, its gate armed. -/
def releasingCalls : List StoreCall :=
  readyCalls ++ [.armPublicationGate ChangeIntent.sample.migrationId 2]

/-- The services at noon, but the catalogue does not answer. -/
def unreachedAnswer (w : CoordinatorState samplePython) :
    (c : CoordinatorCall samplePython) → Result c.Reply × CoordinatorState samplePython
  | .assertImpactUnchanged _ => (raise .coordinationError "no answer", w)
  | c => sampleAnswer w c

theorem serves_unreached {w w' : CoordinatorState samplePython} {op : CoordinatorCall samplePython}
    {reply : Result op.Reply} (h : unreachedAnswer w op = (reply, w')) :
    Serves (fun _ _ => True) w op reply w' := by
  cases op with
  | store c =>
    have hserve : Serves sampleServices w (.store c) reply w' := serves_of_sampleAnswer h
    exact hserve
  | read | recalled | remember =>
    cases h
    first | exact ⟨.inl rfl, rfl⟩ | exact ⟨rfl, rfl⟩
  | _ =>
    cases h
    exact ⟨trivial, rfl⟩

/-- The calls that the services at noon answer without a failure. -/
def obligingFits (_w : CoordinatorState samplePython) : CoordinatorCall samplePython → Bool
  | .store _ | .read _ | .recalled | .remember _ => true
  | .verify .. => false
  | .assertImpactUnchanged context => acceptsRefresh context { context with ident := context.ident + 1 }
  | .stage request =>
    match sampleService (.stage request) with
    | .ok stage => stage.validate request = .ok ()
    | .error _ => false
  | .releaseGate request stage =>
    match sampleService (.releaseGate request stage) with
    | .ok publication => publication.validate request = .ok ()
    | .error _ => false
  | c => (sampleService c).isOk

theorem obligingFits_serves (w : CoordinatorState samplePython) (c : CoordinatorCall samplePython)
    (h : obligingFits w c = true) :
    Obliges ChangeIntent.sample.migrationId w c (sampleAnswer w c).1 (sampleAnswer w c).2 := by
  cases c with
  | store c =>
    cases hanswer : c.answer samplePython noon w.store with
    | ok a =>
      simp only [sampleAnswer, hanswer]
      exact ⟨rfl, noon, by rw [hanswer]; exact ⟨rfl, rfl⟩⟩
    | error e =>
      simp only [sampleAnswer, hanswer]
      exact ⟨rfl, noon, by rw [hanswer]; exact ⟨rfl, rfl⟩⟩
  | read | recalled | remember => exact ⟨rfl, rfl⟩
  | verify => cases h
  | assertImpactUnchanged context => exact ⟨rfl, _, rfl, h⟩
  | stage request =>
    simp only [obligingFits] at h
    split at h
    · next stage hstage => exact ⟨rfl, stage, hstage, of_decide_eq_true h⟩
    · cases h
  | reconcile => exact ⟨rfl, none, rfl, fun publication h => by cases h⟩
  | releaseGate request stage =>
    simp only [obligingFits] at h
    split at h
    · next publication hpublication => exact ⟨rfl, publication, hpublication, of_decide_eq_true h⟩
    · cases h
  | _ => exact ⟨rfl, exists_of_isOk h⟩

/-- The candidate of a participant, rebuilt from the maps. -/
def rebuilt (memory : CoordinatorMemory py) (mid : String) (p : Participant) :
    Option Coordinator.VerifiedCandidate := do
  let session ← memory.sessions.lookup (mid, p.participantId)
  let result ← memory.results.lookup (mid, p.participantId)
  let candidate ← (CandidateCommit.postInit {
    participantId := p.participantId, repository := p.repository, branch := session.branch
    commitSha := p.candidateCommitSha, changedFiles := result.changedFiles }).toOption
  return ⟨p, session, candidate⟩

theorem ok_of_toOption {α : Type} {x : Result α} {a : α} (h : x.toOption = some a) : x = .ok a := by
  cases x with
  | error e => cases h
  | ok b => exact congrArg Except.ok (Option.some.inj h)

theorem exists_of_any {α : Type} {x : Result α} {p : α → Bool} (h : x.toOption.any p = true) :
    ∃ a, x = .ok a ∧ p a = true := by
  cases x with
  | error e => cases h
  | ok a => exact ⟨a, rfl, h⟩

theorem exists_error_of_isOk {α : Type} {x : Result α} (h : x.isOk = false) : ∃ e, x = .error e := by
  cases x with
  | error e => exact ⟨e, rfl⟩
  | ok a => cases h

theorem remembered_of_rebuilt {memory : CoordinatorMemory py} {p : Participant} {v : Coordinator.VerifiedCandidate}
    (h : rebuilt memory mid p = some v) : Remembered memory mid p v := by
  simp only [rebuilt, Option.bind_eq_bind, Option.bind_eq_some_iff] at h
  obtain ⟨session, hsession, result, hresult, candidate, hcandidate, hv⟩ := h
  cases hv
  have hpost := ok_of_toOption hcandidate
  obtain ⟨rfl, hself⟩ := Coordinator.candidate_postInit hpost
  exact ⟨rfl, hsession, ⟨result, hresult, rfl⟩, hself⟩

/-- What the computation of the sample shows: it is armed and remembered, a first attempt that
does not reach the catalogue fails, and all calls of the second succeed. -/
def sampleChecks (w : CoordinatorState samplePython) : Bool :=
  let mid := ChangeIntent.sample.migrationId
  w.store.hasMigrationEvent mid gateArmedEvent &&
    (w.store.getMigration samplePython mid).toOption.any
      (fun m => m.status = .prepared ∧ m.migrationId = mid) &&
    (w.store.listParticipants samplePython mid).toOption.any
      (fun ps => ps.length = 3 && ps.all fun p => (rebuilt w.memory mid p).isSome) &&
    match (testCoordinator.commit mid).exec unreachedAnswer w with
    | (first, w') => !first.isOk && (testCoordinator.commit mid).allFit sampleAnswer obligingFits w'

theorem equipped_of_checks {w : CoordinatorState samplePython} (h : sampleChecks w = true)
    (hmemory : w.memory = readyMemory) : ∃ migration ps,
    w.store.Armed samplePython ChangeIntent.sample.migrationId migration ∧
    w.store.listParticipants samplePython ChangeIntent.sample.migrationId = .ok ps ∧
    testCoordinator.Equipped ChangeIntent.sample.migrationId w.memory migration ps := by
  simp only [sampleChecks, Bool.and_eq_true] at h
  obtain ⟨⟨⟨hgate, hfound⟩, hlisted⟩, -⟩ := h
  obtain ⟨migration, hmigration, hprepared⟩ := exists_of_any hfound
  obtain ⟨ps, hps, hrebuilt⟩ := exists_of_any hlisted
  obtain ⟨hstatus, hnamed⟩ := of_decide_eq_true hprepared
  obtain ⟨hthree, hall⟩ := Bool.and_eq_true_iff.mp hrebuilt
  refine ⟨migration, ps, ⟨hmigration, hstatus, hgate⟩, hps, rfl, hnamed, of_decide_eq_true hthree,
    ⟨sampleContext, by rw [hmemory]; rfl, fun hwriter => (by cases hwriter)⟩, (fun htests => by cases htests),
    (fun p hp => ?_), by decide +kernel⟩
  obtain ⟨v, hv⟩ := Option.isSome_iff_exists.mp (List.all_eq_true.mp hall p hp)
  exact ⟨v, remembered_of_rebuilt hv⟩

theorem attempts_of_checks {w : CoordinatorState samplePython} (h : sampleChecks w = true) :
    ∃ w', CommitAttempts testCoordinator ChangeIntent.sample.migrationId w w' ∧
      (testCoordinator.commit ChangeIntent.sample.migrationId).allFit sampleAnswer obligingFits w' = true := by
  have hrun := (Prog.runs_exec unreachedAnswer (testCoordinator.commit ChangeIntent.sample.migrationId) w).mono
    fun _ _ _ _ h => serves_unreached h
  have hattempt := (Bool.and_eq_true_iff.mp h).2
  generalize (testCoordinator.commit ChangeIntent.sample.migrationId).exec unreachedAnswer w = ended
    at hrun hattempt
  obtain ⟨r, w'⟩ := ended
  obtain ⟨hfails, hfits⟩ := Bool.and_eq_true_iff.mp hattempt
  obtain ⟨e, rfl⟩ := exists_error_of_isOk ((Bool.not_eq_true' _).mp hfails)
  exact ⟨w', .again .start hrun, hfits⟩

theorem releasingCalls_plain : ∀ c ∈ atNoon releasingCalls, c.2.Plain ∧ c.2.Undecided := by decide +kernel

/-- A first attempt that did not reach the catalogue, and a second that records COMMITTED. -/
theorem sample_committed : ∃ w, CommitAttempts testCoordinator ChangeIntent.sample.migrationId
      ⟨(atNoon releasingCalls).foldl (storeStep samplePython) {}, readyMemory⟩ w ∧
    ((testCoordinator.commit ChangeIntent.sample.migrationId).exec sampleAnswer w).2.store.status?
      ChangeIntent.sample.migrationId = some .committed := by
  have hchecks : sampleChecks ⟨(atNoon releasingCalls).foldl (storeStep samplePython) {}, readyMemory⟩ = true := by
    decide +kernel
  have hplain := releasingCalls_plain
  generalize atNoon releasingCalls = calls at hchecks hplain ⊢
  obtain ⟨migration, ps, harmed, hlisted, hequipped⟩ := equipped_of_checks hchecks rfl
  obtain ⟨w, hattempts, hfits⟩ := attempts_of_checks hchecks
  have hconverges := commit_converges testCoordinator ChangeIntent.sample.migrationId calls hplain readyMemory
    migration harmed w hattempts
  obtain ⟨outcome, -, hrecorded, -⟩ := hconverges.2 ps hlisted hequipped _ _ _
    (Prog.runs_of_allFit obligingFits_serves hfits)
  exact ⟨w, hattempts, hrecorded.status⟩

end Sample

end LineageTX
