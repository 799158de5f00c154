import LineageTX.PublishOnce

/-! Which request the pull request and the success status were made for, and when a
result for other candidates can rest on them. -/
namespace LineageTX
open Library Library.Prog
variable {ι : Type} {py : Python}

/-- A request that its constructor accepts, of candidates that theirs accepts. -/
structure PublicationRequest.Valid (py : Python) (r : PublicationRequest) : Prop where
  request : r.postInit py = .ok r
  candidates : ∀ c ∈ r.candidates, c.postInit = .ok c

/-- The two requests ask for the same pull request and the same status. -/
structure SameGate (r₁ r₂ : PublicationRequest) : Prop where
  head : r₁.coordinatedHeadBranch = r₂.coordinatedHeadBranch
  base : r₁.coordinatedBaseBranch = r₂.coordinatedBaseBranch
  repository : r₁.intent.producerRepository = r₂.intent.producerRepository
  sha : r₁.intent.producerHeadSha = r₂.intent.producerHeadSha

/-- The result rests on the pull request and the success status that were created in
attempts for the other request. -/
def Credited (p : FixedGitHubPublisher) (r₁ r₂ : PublicationRequest) (result : PublicationResult)
    (g : GitHub) : Prop :=
  ∃ pr st, g.pullRequest? p.coordinationRepository r₂.coordinatedHeadBranch
      r₂.coordinatedBaseBranch = some pr ∧
    g.status? p.producerRepository r₂.intent.producerHeadSha safeToContract = some st ∧
    pr.createdFor = some r₁ ∧ st.createdFor = some r₁ ∧
    result.coordinatedPrReceipt.reference = pr.htmlUrl ∧ st.targetUrl = pr.htmlUrl

/-- Nothing that GitHub has was created in an attempt yet. -/
structure GitHub.Untouched (g : GitHub) : Prop where
  pullRequests : ∀ pr ∈ g.pullRequests, pr.createdFor = none
  statuses : ∀ st ∈ g.statuses, st.createdFor = none

section Bound
variable [DecidableEq ι] {coordination : String} {producer : ι → String} {w w' : Publishers ι}
  {request : PublicationRequest} {i : ι}

/-- What was created carries the branches of its request, and a status was created by an
instance that has staged its request and no other one. -/
structure Bound (producer : ι → String) (w : Publishers ι) : Prop where
  pullRequests : ∀ pr ∈ w.github.pullRequests, ∀ r, pr.createdFor = some r →
    pr.head = r.coordinatedHeadBranch ∧ pr.base = r.coordinatedBaseBranch
  statuses : ∀ st ∈ w.github.statuses, ∀ r, st.createdFor = some r →
    ∃ i, (w.memory i).requests.get? r.migrationId = some r ∧
      producer i = r.intent.producerRepository ∧ st.repository = r.intent.producerRepository ∧
      st.sha = r.intent.producerHeadSha
  stages : ∀ i mid stage, (w.memory i).stages.get? mid = some stage →
    ∃ r, (w.memory i).requests.get? mid = some r

omit [DecidableEq ι] in
theorem Bound.fresh {g : GitHub} (h : g.Untouched) : Bound producer (.fresh g) where
  pullRequests pr hpr r hr := by simp [h.pullRequests pr hpr] at hr
  statuses st hst r hr := by simp [h.statuses st hst] at hr
  stages i mid stage hi := by simp [Publishers.fresh] at hi

omit [DecidableEq ι] in
/-- The request that an instance has staged. -/
theorem Bound.staged {p : FixedGitHubPublisher} {stage : PublicationStage} (h : Bound producer w)
    (hready : Ready p request i w stage) :
    (w.memory i).requests.get? request.migrationId = some request := by
  obtain ⟨r, hr⟩ := h.stages i _ stage hready.hasStage
  rw [hr, hready.admits r hr]

theorem Bound.remember {m : PublisherMemory} (h : Bound producer w)
    (hkeeps : ∀ mid r, (w.memory i).requests.get? mid = some r → m.requests.get? mid = some r)
    (hstages : ∀ mid stage, m.stages.get? mid = some stage → ∃ r, m.requests.get? mid = some r) :
    Bound producer (w.remember i m) where
  pullRequests := h.pullRequests
  statuses st hst r hr := by
    obtain ⟨j, hj, hrest⟩ := h.statuses st hst r hr
    refine ⟨j, ?_, hrest⟩
    by_cases hji : j = i
    · subst hji
      rw [Publishers.remember_self]
      exact hkeeps _ _ hj
    · rwa [Publishers.remember_of_ne w hji]
  stages j mid stage hj := by
    by_cases hji : j = i
    · subst hji
      rw [Publishers.remember_self] at hj ⊢
      exact hstages mid stage hj
    · rw [Publishers.remember_of_ne w hji] at hj ⊢
      exact h.stages j mid stage hj

theorem Bound.step {c : GitHubCall} {reply : Result c.Reply} (h : Bound producer w)
    (hcall : MayCall py ⟨coordination, producer i⟩ request i w c)
    (hserve : w.Serves request i c reply w') : Bound producer w' := by
  cases c with
  | findPullRequest => exact hserve.1 ▸ h
  | createPullRequest repository title body head base draft =>
    obtain ⟨rfl, rfl, rfl, -⟩ := hcall
    rcases hserve with ⟨rfl, -⟩ | ⟨url, rfl, -⟩
    · exact h
    · refine ⟨fun pr hpr r hr => ?_, h.statuses, h.stages⟩
      rcases List.mem_append.mp hpr with hpr | hpr
      · exact h.pullRequests pr hpr r hr
      · obtain rfl := List.mem_singleton.mp hpr
        obtain rfl := Option.some.inj hr
        exact ⟨rfl, rfl⟩
  | createCommitStatus repository sha state context description targetUrl =>
    obtain ⟨rfl, rfl, rfl, rfl, -, stage, hready, rfl⟩ := hcall
    rcases hserve with ⟨rfl, -⟩ | rfl
    · exact h
    · refine ⟨h.pullRequests, fun st hst r hr => ?_, h.stages⟩
      rcases List.mem_cons.mp hst with rfl | hst
      · obtain rfl := Option.some.inj hr
        exact ⟨i, h.staged hready, hready.scope, hready.scope, rfl⟩
      · exact h.statuses st hst r hr
  | getCommitStatus => exact hserve.1 ▸ h
  | remembered => exact hserve.2 ▸ h
  | remember m =>
    obtain ⟨-, rfl⟩ := hserve
    rcases hcall with ⟨stage, -, hadmits, -, -, rfl⟩ | ⟨result, -, -, rfl⟩
    · refine h.remember (fun mid r hr => ?_) fun mid stage' hstage' => ?_
      · rw [Dict.get?_set]
        split
        · next hmid =>
          subst hmid
          rw [hadmits r hr]
        · exact hr
      · rw [Dict.get?_set] at hstage' ⊢
        split
        · exact ⟨request, rfl⟩
        · next hmid =>
          rw [if_neg hmid] at hstage'
          exact h.stages i mid stage' hstage'
    · exact h.remember (fun _ _ hr => hr) (h.stages i)
  | utcNow => exact (show w' = w from hserve) ▸ h

theorem bound_of_publications {g₀ : GitHub} (hg : g₀.Untouched)
    {history : List (PublishAttempt ι × Result PublicationResult)}
    (h : Publications py (fun i => ⟨coordination, producer i⟩) (.fresh g₀) history w) :
    Bound producer w := by
  induction h with
  | start => exact .fresh hg
  | attempt _ a hrun ih =>
    exact attempt_guarded.invariant (fun _ _ _ _ h hcall hserve => h.step hcall hserve) hrun ih

/-- A credited result comes from another instance than the one that made the status. -/
theorem sameGate_of_credited {r₁ r₂ : PublicationRequest} {a : PublishAttempt ι}
    {result : PublicationResult} {log : List (Σ c : GitHubCall, Result c.Reply)}
    (hmigration : r₁.migrationId = r₂.migrationId) (hne : r₁ ≠ r₂) (hw : Bound producer w)
    (ha : a.request = r₂)
    (hrun : (a.program py ⟨coordination, producer a.publisher⟩).Runs
      (Publishers.Serves r₂ a.publisher) w log (.ok result) w')
    (hcredited : Credited ⟨coordination, producer a.publisher⟩ r₁ r₂ result w'.github) :
    SameGate r₁ r₂ ∧ ∃ i, i ≠ a.publisher ∧ producer i = r₁.intent.producerRepository ∧
      producer a.publisher = r₂.intent.producerRepository := by
  subst ha
  have hw' : Bound producer w' :=
    attempt_guarded.invariant (fun _ _ _ _ h hcall hserve => h.step hcall hserve) hrun hw
  obtain ⟨⟨stage, hready⟩, -⟩ := attempt_guarded.of_run hrun result rfl
  obtain ⟨pr, st, hpr, hst, hfor, hstfor, -, -⟩ := hcredited
  obtain ⟨hhead, hbase⟩ := hw'.pullRequests pr (List.mem_of_find?_eq_some hpr) r₁ hfor
  obtain ⟨i, hi, hproducer, hrepository, hsha⟩ :=
    hw'.statuses st (List.mem_of_find?_eq_some hst) r₁ hstfor
  have hprfor := List.find?_some hpr
  have hstatus := List.find?_some hst
  simp only [PullRequest.isFor, CommitStatus.isFor, Bool.and_eq_true, decide_eq_true_eq]
    at hprfor hstatus
  have hscope : producer a.publisher = a.request.intent.producerRepository := hready.scope
  refine ⟨⟨?_, ?_, ?_, ?_⟩, i, ?_, hproducer, hscope⟩
  · rw [← hhead, hprfor.1.2]
  · rw [← hbase, hprfor.2]
  · rw [← hrepository, hstatus.1.1, hscope]
  · rw [← hsha, hstatus.1.2]
  · rintro rfl
    rw [hmigration, hw'.staged hready] at hi
    exact hne (Option.some.inj hi).symm

end Bound

theorem mapM_eq_ok {α β : Type} {f : α → Result β} {g : α → β} {l : List α}
    (h : ∀ x ∈ l, f x = .ok (g x)) : l.mapM f = .ok (l.map g) := by
  induction l with
  | nil => rfl
  | cons x l ih =>
    rw [List.mapM_cons, h x (by simp), ih fun y hy => h y (by simp [hy])]
    rfl

/-- A text that starts with a character that is no space is not blank. -/
theorem isBlank_append {s t : String} (h : isBlank s = false) : isBlank (s ++ t) = false := by
  simp only [isBlank, String.toList_append, List.all_append] at h ⊢
  rw [h, Bool.false_and]

section Serving
variable [DecidableEq ι] {coordination url now : String} {producer : ι → String}
  {w : Publishers ι} {i : ι} {p : FixedGitHubPublisher} {request : PublicationRequest}

/-- What an attempt needs of GitHub's URL and of the clock. -/
structure Served (py : Python) (coordination url now : String) : Prop where
  ofRepository : IsPullRequestOf py coordination url
  notBlank : isBlank url = false
  utc : py.fromIsoFormat now = some true

omit [DecidableEq ι] in
theorem Served.https (h : Served py coordination url now) (fieldName : String) :
    requireHttpsUrl py url fieldName = .ok () := by
  have hcheck := h.ofRepository
  simp only [IsPullRequestOf, FixedGitHubPublisher.checkPullRequestUrl, bind_eq_ok] at hcheck
  obtain ⟨_, hweb, -⟩ := hcheck
  cases hgitHub : requireGitHubWebUrl py url "coordination PR URL" with
  | error e =>
    rw [hgitHub, asPublicationError] at hweb
    split at hweb <;> cases hweb
  | ok u =>
    simp only [requireGitHubWebUrl, requireHttpsUrl, bind_eq_ok, require_eq_ok] at hgitHub ⊢
    obtain ⟨_, ⟨parsed, hparsed, hhttps⟩, -⟩ := hgitHub
    exact ⟨parsed, hparsed, hhttps⟩

theorem Served.timestamp (h : Served py coordination url now) (fieldName : String) :
    requireUtcTimestamp py now fieldName = .ok () := by
  rw [requireUtcTimestamp, h.utc]
  rfl

theorem sameSet_self {α : Type} [DecidableEq α] (l : List α) : sameSet l l = true := by
  simp [sameSet]

omit [DecidableEq ι] in
theorem coordinationReceipt_accepted {r : CoordinationReceipt} (hblank : isBlank r.reference = false)
    (hutc : ∀ name, requireUtcTimestamp py r.recordedAt name = .ok ())
    (hsha : r.kind = .candidateCommit → isCommitSha r.commitSha = true)
    (hpr : r.kind = .coordinatedPr → ∀ name, requireHttpsUrl py r.reference name = .ok ())
    (hgate : r.kind = .producerGateReleased → startsWith r.reference "check-run:" = true)
    (hevidence : r.evidenceUrl ≠ "" → ∀ name, requireHttpsUrl py r.evidenceUrl name = .ok ())
    (hmerged : r.merged = false) : r.postInit py = .ok r := by
  simp only [CoordinationReceipt.postInit, bind_eq_ok, require_eq_ok, onlyIf_eq_ok]
  refine ⟨(), by simp [hblank], (), hutc _, (), ?_, (), fun hk => hpr hk _, (), ?_, (),
    fun he => hevidence he _, (), by simp [hmerged], rfl⟩
  · by_cases hk : r.kind = .candidateCommit
    · simp [hsha hk]
    · simp [hk]
  · by_cases hk : r.kind = .producerGateReleased
    · simp [hgate hk]
    · simp [hk]

theorem stageOf_of_valid (hserved : Served py coordination url now) (hvalid : request.Valid py) :
    ∃ stage, FixedGitHubPublisher.stageOf py request url now = .ok stage := by
  have hone : ∀ c ∈ request.candidates,
      (FixedGitHubPublisher.candidateReceipt request now c).postInit py =
        .ok (FixedGitHubPublisher.candidateReceipt request now c) := by
    intro c hc
    have hsha := hvalid.candidates c hc
    simp only [CandidateCommit.postInit, bind_eq_ok, require_eq_ok] at hsha
    obtain ⟨_, -, _, -, _, -, _, hsha, -⟩ := hsha
    exact coordinationReceipt_accepted (isBlank_append (by decide)) hserved.timestamp (fun _ => hsha)
      (fun h => by cases h) (fun h => by cases h) (fun h => absurd rfl h) rfl
  have hpr : (FixedGitHubPublisher.coordinatedReceipt request url now).postInit py =
      .ok (FixedGitHubPublisher.coordinatedReceipt request url now) :=
    coordinationReceipt_accepted hserved.notBlank hserved.timestamp (fun h => by cases h)
      (fun _ => hserved.https) (fun h => by cases h) (fun _ => hserved.https) rfl
  refine ⟨⟨request.candidates.map (FixedGitHubPublisher.candidateReceipt request now),
    FixedGitHubPublisher.coordinatedReceipt request url now⟩, ?_⟩
  simp only [FixedGitHubPublisher.stageOf, bind_eq_ok]
  refine ⟨_, mapM_eq_ok hone, _, hpr, (), ?_, rfl⟩
  have hsame : (request.candidates.map (FixedGitHubPublisher.candidateReceipt request now)).map
      (fun r => (r.reference, r.commitSha)) = request.commits := by
    rw [List.map_map]
    rfl
  simp only [PublicationStage.validate, bind_eq_ok, requirePublication_eq_ok, hsame, sameSet_self]
  exact ⟨(), by simp, (), by simp [FixedGitHubPublisher.candidateReceipt,
    FixedGitHubPublisher.coordinatedReceipt], (), by simp [FixedGitHubPublisher.candidateReceipt,
    FixedGitHubPublisher.coordinatedReceipt], (), by simp [FixedGitHubPublisher.candidateReceipt],
    (), rfl, trivial⟩

theorem resultFromStage_of_valid {stage : PublicationStage}
    (hserved : Served py coordination url now) (hvalid : stage.validate request = .ok ())
    (href : stage.coordinatedPrReceipt.reference = url) :
    ∃ result, FixedGitHubPublisher.resultFromStage py request stage now = .ok result := by
  have hgate : (FixedGitHubPublisher.gateReceipt request stage now).postInit py =
      .ok (FixedGitHubPublisher.gateReceipt request stage now) :=
    coordinationReceipt_accepted (isBlank_append (by decide)) hserved.timestamp (fun h => nomatch h)
      (fun h => nomatch h) (fun _ => by simp [startsWith, FixedGitHubPublisher.gateReceipt])
      (fun _ => by rw [FixedGitHubPublisher.gateReceipt, href]; exact hserved.https) rfl
  refine ⟨⟨stage.candidateReceipts, stage.coordinatedPrReceipt,
    FixedGitHubPublisher.gateReceipt request stage now⟩, ?_⟩
  simp only [FixedGitHubPublisher.resultFromStage, bind_eq_ok]
  refine ⟨_, hgate, (), ?_, rfl⟩
  simp only [PublicationResult.validate, bind_eq_ok, requirePublication_eq_ok]
  exact ⟨(), hvalid, (), rfl, (), by simp [FixedGitHubPublisher.gateReceipt], (), rfl,
    by simp [FixedGitHubPublisher.gateReceipt]⟩

theorem pullRequestUrl_of_reply {reply : Json} (hserved : Served py p.coordinationRepository url now)
    (hurl : reply.get? "html_url" = some (.str url)) (hmerged : getD reply "merged" .null ≠ .bool true) :
    p.pullRequestUrl py reply = .ok url := by
  have hcheck : p.checkPullRequestUrl py url = .ok () := hserved.ofRepository
  simp only [FixedGitHubPublisher.pullRequestUrl, hurl, bind_eq_ok, requirePublication_eq_ok]
  exact ⟨(), hcheck, (), by simp [hmerged], rfl⟩

/-- The pull request that the attempt ends up with, and the request it was made for. -/
theorem coordinationPullRequest_exec (now : String)
    (hfound : ∀ pr, w.github.pullRequest? p.coordinationRepository request.coordinatedHeadBranch
      request.coordinatedBaseBranch = some pr → pr.htmlUrl = url) :
    ∃ reply w₁ pr, (p.coordinationPullRequest request).exec (Publishers.answer url now false request i) w =
        (.ok reply, w₁) ∧
      reply.get? "html_url" = some (.str url) ∧ getD reply "merged" .null ≠ .bool true ∧
      w₁.memory = w.memory ∧ w₁.github.statuses = w.github.statuses ∧
      w₁.github.pullRequest? p.coordinationRepository request.coordinatedHeadBranch
        request.coordinatedBaseBranch = some pr ∧ pr.htmlUrl = url ∧
      (w.github.pullRequest? p.coordinationRepository request.coordinatedHeadBranch
        request.coordinatedBaseBranch = some pr ∨
        w.github.pullRequest? p.coordinationRepository request.coordinatedHeadBranch
          request.coordinatedBaseBranch = none ∧ pr.createdFor = some request) := by
  have hmerged : ∀ u : String, getD (.obj [("html_url", .str u)]) "merged" .null ≠ .bool true := by
    simp [getD, Json.get?, Json.lookup_cons_if]
  cases hpr : w.github.pullRequest? p.coordinationRepository request.coordinatedHeadBranch
      request.coordinatedBaseBranch with
  | some pr =>
    have hfind : (GitHubCall.findPullRequest p.coordinationRepository request.coordinatedHeadBranch
        request.coordinatedBaseBranch).run.exec (Publishers.answer url now false request i) w =
        (.ok (.obj [("html_url", .str pr.htmlUrl)]), w) := by
      simp [GitHubCall.run, perform, exec, Publishers.answer, hpr]
    refine ⟨.obj [("html_url", .str pr.htmlUrl)], w, pr, ?_, ?_, hmerged _, rfl, rfl, hpr,
      hfound pr hpr, .inl rfl⟩
    · rw [FixedGitHubPublisher.coordinationPullRequest, exec_bind_ok hfind]
      rfl
    · rw [← hfound pr hpr]
      rfl
  | none =>
    have hfind : (GitHubCall.findPullRequest p.coordinationRepository request.coordinatedHeadBranch
        request.coordinatedBaseBranch).run.exec (Publishers.answer url now false request i) w =
        (.ok .null, w) := by
      simp [GitHubCall.run, perform, exec, Publishers.answer, hpr]
    refine ⟨.obj [("html_url", .str url)], w.addPullRequest ⟨p.coordinationRepository,
      request.coordinatedHeadBranch, request.coordinatedBaseBranch, url, some request⟩, _, ?_, rfl,
      hmerged _, rfl, rfl, Publishers.addPullRequest_found hpr (by simp [PullRequest.isFor]), rfl, .inr ⟨rfl, rfl⟩⟩
    rw [FixedGitHubPublisher.coordinationPullRequest, exec_bind_ok hfind]
    rfl

/-- A stage of a fresh instance. -/
theorem stage_exec (hserved : Served py p.coordinationRepository url now) (hvalid : request.Valid py)
    (hscope : request.intent.producerRepository = p.producerRepository) (hfresh : w.memory i = {})
    (hfound : ∀ pr, w.github.pullRequest? p.coordinationRepository request.coordinatedHeadBranch
      request.coordinatedBaseBranch = some pr → pr.htmlUrl = url) :
    ∃ stage w₁ pr, (p.stage py request).exec (Publishers.answer url now false request i) w =
        (.ok stage, w₁) ∧
      stage.validate request = .ok () ∧ stage.coordinatedPrReceipt.reference = url ∧
      HasStage request i w₁ stage ∧ (w₁.memory i).results.get? request.migrationId = none ∧
      (∀ j, j ≠ i → w₁.memory j = w.memory j) ∧ w₁.github.statuses = w.github.statuses ∧
      w₁.github.pullRequest? p.coordinationRepository request.coordinatedHeadBranch
        request.coordinatedBaseBranch = some pr ∧ pr.htmlUrl = url ∧
      (w.github.pullRequest? p.coordinationRepository request.coordinatedHeadBranch
        request.coordinatedBaseBranch = some pr ∨
        w.github.pullRequest? p.coordinationRepository request.coordinatedHeadBranch
          request.coordinatedBaseBranch = none ∧ pr.createdFor = some request) := by
  obtain ⟨reply, w₁, pr, hexec, hurl, hmerged, hmemory, hstatuses, hpr, hprUrl, hmade⟩ :=
    coordinationPullRequest_exec (i := i) now hfound
  obtain ⟨stage, hstage⟩ := stageOf_of_valid hserved hvalid
  obtain ⟨hstageValid, href⟩ := stageOf_eq_ok hstage
  let m : PublisherMemory := { w.memory i with
    requests := (w.memory i).requests.set request.migrationId request
    stages := (w.memory i).stages.set request.migrationId stage }
  refine ⟨stage, w₁.remember i m, pr, ?_, hstageValid, href, ?_, ?_, fun j hj => ?_, hstatuses, hpr,
    hprUrl, hmade⟩
  · have hrecall : GitHubCall.remembered.run.exec (Publishers.answer url now false request i) w =
        (.ok (w.memory i), w) := rfl
    rw [FixedGitHubPublisher.stage, exec_lift_bind (a := ()) (requirePublication_eq_ok.mpr (by simp [hscope])),
      exec_bind_ok hrecall, exec_lift_bind (a := ()) (requirePublication_eq_ok.mpr (by simp [hfresh]))]
    have hnone : (w.memory i).stages.get? request.migrationId = none := by simp [hfresh]
    simp only [hnone]
    have hclock : GitHubCall.utcNow.run.exec (Publishers.answer url now false request i) w₁ =
        (.ok now, w₁) := rfl
    rw [FixedGitHubPublisher.stageNew, exec_bind_ok hexec,
      exec_lift_bind (pullRequestUrl_of_reply hserved hurl hmerged), exec_bind_ok hclock,
      exec_lift_bind hstage]
    rfl
  · rw [HasStage, Publishers.remember_self, Dict.get?_set, if_pos rfl]
  · rw [Publishers.remember_self]
    simp [m, hfresh]
  · rw [Publishers.remember_of_ne w₁ hj, hmemory]

/-- What the attempt does with its stage: it credits the success that GitHub shows, or
creates one. -/
theorem settle_exec {stage : PublicationStage} (hserved : Served py p.coordinationRepository url now)
    (hvalid : stage.validate request = .ok ()) (href : stage.coordinatedPrReceipt.reference = url)
    (hstage : HasStage request i w stage)
    (hnew : (w.memory i).results.get? request.migrationId = none)
    (hstatus : ∀ st, w.github.status? p.producerRepository request.intent.producerHeadSha
      safeToContract = some st → st.state = "success" ∧ st.targetUrl = url) :
    ∃ result w₁ st, (p.settle py request stage).exec (Publishers.answer url now false request i) w =
        (.ok result, w₁) ∧
      result.coordinatedPrReceipt.reference = url ∧ (∀ j, j ≠ i → w₁.memory j = w.memory j) ∧
      w₁.github.pullRequests = w.github.pullRequests ∧
      w₁.github.status? p.producerRepository request.intent.producerHeadSha safeToContract = some st ∧
      st.state = "success" ∧ st.targetUrl = url ∧
      (w.github.status? p.producerRepository request.intent.producerHeadSha safeToContract = some st ∨
        w.github.status? p.producerRepository request.intent.producerHeadSha safeToContract = none ∧
          st.createdFor = some request) := by
  obtain ⟨result, hresult⟩ := resultFromStage_of_valid hserved hvalid href
  obtain ⟨-, hsame⟩ := resultFromStage_eq_ok hresult
  have hreference : result.coordinatedPrReceipt.reference = url := by
    rw [← href, ← hsame]
    rfl
  let m : PublisherMemory := { w.memory i with
    results := (w.memory i).results.set request.migrationId result }
  have hconfirm : ∀ w₁ : Publishers ι,
      (FixedGitHubPublisher.confirm py request stage (w.memory i)).exec
        (Publishers.answer url now false request i) w₁ = (.ok result, w₁.remember i m) := by
    intro w₁
    have hclock : GitHubCall.utcNow.run.exec (Publishers.answer url now false request i) w₁ =
        (.ok now, w₁) := rfl
    rw [FixedGitHubPublisher.confirm, exec_bind_ok hclock, exec_lift_bind hresult]
    rfl
  have hothers : ∀ w₁ : Publishers ι, w₁.memory = w.memory →
      ∀ j, j ≠ i → (w₁.remember i m).memory j = w.memory j := by
    intro w₁ hw₁ j hj
    rw [Publishers.remember_of_ne w₁ hj, hw₁]
  have hrecall : GitHubCall.remembered.run.exec (Publishers.answer url now false request i) w =
      (.ok (w.memory i), w) := rfl
  cases hst : w.github.status? p.producerRepository request.intent.producerHeadSha safeToContract with
  | some st =>
    obtain ⟨hstate, htarget⟩ := hstatus st hst
    have hget : (GitHubCall.getCommitStatus p.producerRepository request.intent.producerHeadSha
        safeToContract).run.exec (Publishers.answer url now false request i) w =
        (.ok (.obj [("state", .str st.state), ("target_url", .str st.targetUrl)]), w) := by
      simp [GitHubCall.run, perform, exec, Publishers.answer, hst]
    have hreconcile : (p.reconcile py request stage).exec (Publishers.answer url now false request i) w =
        (.ok (some result), w.remember i m) := by
      rw [FixedGitHubPublisher.reconcile, exec_lift_bind hvalid, exec_bind_ok hrecall,
        FixedGitHubPublisher.cachedOr]
      simp only [hnew]
      rw [exec_bind_ok hget, if_neg (by simp), exec_lift_bind (a := .str st.state) (by
        simp [getMember, isObj, getD, Json.get?]), if_neg (by simp [hstate]),
        exec_lift_bind (a := ()) (requirePublication_eq_ok.mpr (by
          simp [getD, Json.get?, Json.lookup_cons_if, htarget, href])), exec_bind_ok (hconfirm w)]
      rfl
    refine ⟨result, w.remember i m, st, ?_, hreference, hothers w rfl, rfl, hst, hstate, htarget, .inl rfl⟩
    rw [FixedGitHubPublisher.settle, exec_bind_ok hreconcile]
    rfl
  | none =>
    let st : CommitStatus := ⟨p.producerRepository, request.intent.producerHeadSha, safeToContract,
      "success", stage.coordinatedPrReceipt.reference, some request⟩
    have hget : (GitHubCall.getCommitStatus p.producerRepository request.intent.producerHeadSha
        safeToContract).run.exec (Publishers.answer url now false request i) w = (.ok .null, w) := by
      simp [GitHubCall.run, perform, exec, Publishers.answer, hst]
    have hreconcile : (p.reconcile py request stage).exec (Publishers.answer url now false request i) w =
        (.ok none, w) := by
      rw [FixedGitHubPublisher.reconcile, exec_lift_bind hvalid, exec_bind_ok hrecall,
        FixedGitHubPublisher.cachedOr]
      simp only [hnew]
      rw [exec_bind_ok hget]
      rfl
    have hcreate : (GitHubCall.createCommitStatus p.producerRepository request.intent.producerHeadSha
        "success" safeToContract "0 unverified consumers; safe to merge (merge remains manual)"
        stage.coordinatedPrReceipt.reference).run.exec (Publishers.answer url now false request i) w =
        (.ok (.obj [("state", .str "success")]), w.addStatus st) := rfl
    have hrelease : (p.releaseGate py request stage).exec
        (Publishers.answer url now false request i) w = (.ok result, (w.addStatus st).remember i m) := by
      rw [FixedGitHubPublisher.releaseGate, exec_lift_bind hvalid, exec_bind_ok hrecall,
        exec_lift_bind (a := ()) (requirePublication_eq_ok.mpr (by simpa [HasStage] using hstage)),
        FixedGitHubPublisher.cachedOr]
      simp only [hnew]
      have hmember : getMember (.obj [("state", .str "success")]) "state" = .ok (.str "success") := rfl
      rw [exec_bind_ok hcreate, exec_lift_bind hmember,
        exec_lift_bind (a := ()) (requirePublication_eq_ok.mpr (by simp)), hconfirm]
    refine ⟨result, (w.addStatus st).remember i m, st, ?_, hreference, hothers _ rfl, rfl, ?_, rfl, href,
      .inr ⟨rfl, rfl⟩⟩
    · rw [FixedGitHubPublisher.settle, exec_bind_ok hreconcile]
      exact hrelease
    · simp [GitHub.status?, Publishers.remember, Publishers.addStatus, st, CommitStatus.isFor]

/-- A fresh instance publishes a valid request, on a pull request and a success status
that GitHub has already or creates for it. -/
theorem publish_exec (hserved : Served py p.coordinationRepository url now) (hvalid : request.Valid py)
    (hscope : request.intent.producerRepository = p.producerRepository) (hfresh : w.memory i = {})
    (hfound : ∀ pr, w.github.pullRequest? p.coordinationRepository request.coordinatedHeadBranch
      request.coordinatedBaseBranch = some pr → pr.htmlUrl = url)
    (hstatus : ∀ st, w.github.status? p.producerRepository request.intent.producerHeadSha
      safeToContract = some st → st.state = "success" ∧ st.targetUrl = url) :
    ∃ result w' pr st, (p.publish py request).exec (Publishers.answer url now false request i) w =
        (.ok result, w') ∧
      result.coordinatedPrReceipt.reference = url ∧ (∀ j, j ≠ i → w'.memory j = w.memory j) ∧
      w'.github.pullRequest? p.coordinationRepository request.coordinatedHeadBranch
        request.coordinatedBaseBranch = some pr ∧ pr.htmlUrl = url ∧
      (w.github.pullRequest? p.coordinationRepository request.coordinatedHeadBranch
        request.coordinatedBaseBranch = some pr ∨
        w.github.pullRequest? p.coordinationRepository request.coordinatedHeadBranch
          request.coordinatedBaseBranch = none ∧ pr.createdFor = some request) ∧
      w'.github.status? p.producerRepository request.intent.producerHeadSha safeToContract = some st ∧
      st.state = "success" ∧ st.targetUrl = url ∧
      (w.github.status? p.producerRepository request.intent.producerHeadSha safeToContract = some st ∨
        w.github.status? p.producerRepository request.intent.producerHeadSha safeToContract = none ∧
          st.createdFor = some request) := by
  obtain ⟨stage, w₁, pr, hexec, hstageValid, href, hstage, hnew, hothers, hstatuses, hpr, hprUrl, hmade⟩ :=
    stage_exec (i := i) hserved hvalid hscope hfresh hfound
  have hsame : w₁.github.status? = w.github.status? := by
    funext repository sha context
    rw [GitHub.status?, GitHub.status?, hstatuses]
  obtain ⟨result, w₂, st, hsettle, hreference, hothers₂, hpulls, hst, hstate, htarget, hstMade⟩ :=
    settle_exec hserved hstageValid href hstage hnew (hsame ▸ hstatus)
  refine ⟨result, w₂, pr, st, ?_, hreference, fun j hj => (hothers₂ j hj).trans (hothers j hj), ?_, hprUrl,
    hmade, hst, hstate, htarget, hsame ▸ hstMade⟩
  · rw [FixedGitHubPublisher.publish, exec_bind_ok hexec]
    exact hsettle
  · rw [GitHub.pullRequest?, hpulls]
    exact hpr

end Serving

section Condition
variable [DecidableEq ι]

/-- No attempt for the second request ever ends in a result that rests on what was created
for the first. -/
def NeverCredited (py : Python) (coordination : String) (producer : ι → String)
    (r₁ r₂ : PublicationRequest) : Prop :=
  ∀ (g₀ : GitHub) (history : List (PublishAttempt ι × Result PublicationResult)) (w w' : Publishers ι)
    (a : PublishAttempt ι) (log : List (Σ c : GitHubCall, Result c.Reply)) (result : PublicationResult),
    g₀.Untouched → Publications py (fun i => ⟨coordination, producer i⟩) (.fresh g₀) history w →
    a.request = r₂ →
    (a.program py ⟨coordination, producer a.publisher⟩).Runs (Publishers.Serves r₂ a.publisher) w log
      (.ok result) w' →
    ¬Credited ⟨coordination, producer a.publisher⟩ r₁ r₂ result w'.github

/-- A second instance takes over what the first one created for other candidates. -/
theorem credited_of_sameGate {coordination url now : String} {producer : ι → String} {i j : ι}
    {r₁ r₂ : PublicationRequest} (hserved : Served py coordination url now) (h₁ : r₁.Valid py)
    (h₂ : r₂.Valid py) (hgate : SameGate r₁ r₂) (hij : i ≠ j)
    (hi : producer i = r₁.intent.producerRepository) (hj : producer j = r₂.intent.producerRepository) :
    ¬NeverCredited py coordination producer r₁ r₂ := by
  intro hnever
  have hserved' : ∀ p : FixedGitHubPublisher, p.coordinationRepository = coordination →
      Served py p.coordinationRepository url now := fun p hp => hp ▸ hserved
  obtain ⟨result₁, w, pr, st, hfirst, -, hothers, hpr, hprUrl, hmade, hst, hstate, htarget, hstMade⟩ :=
    publish_exec (p := ⟨coordination, producer i⟩) (i := i) (w := Publishers.fresh {}) (hserved' _ rfl)
      h₁ hi.symm rfl (by simp [GitHub.pullRequest?, Publishers.fresh])
      (by simp [GitHub.status?, Publishers.fresh])
  have hfor : pr.createdFor = some r₁ :=
    (hmade.resolve_left (by simp [GitHub.pullRequest?, Publishers.fresh])).2
  have hstFor : st.createdFor = some r₁ :=
    (hstMade.resolve_left (by simp [GitHub.status?, Publishers.fresh])).2
  have hrepository : producer i = producer j := by rw [hi, hj, hgate.repository]
  simp only [hgate.head, hgate.base] at hpr
  simp only [hgate.sha, hrepository] at hst
  obtain ⟨result, w', pr', st', hsecond, hreference, -, hpr', -, hsame, hst', -, htarget', hstSame⟩ :=
    publish_exec (p := ⟨coordination, producer j⟩) (i := j) (w := w) (hserved' _ rfl) h₂ hj.symm
      (hothers j (Ne.symm hij)) (fun found hfound => by rw [hpr] at hfound; cases hfound; exact hprUrl)
      (fun found hfound => by rw [hst] at hfound; cases hfound; exact ⟨hstate, htarget⟩)
  have hpr'' : pr' = pr := by
    rcases hsame with hsame | ⟨hnone, -⟩
    · exact Option.some.inj (hsame.symm.trans hpr)
    · rw [hpr] at hnone
      cases hnone
  have hst'' : st' = st := by
    rcases hstSame with hsame | ⟨hnone, -⟩
    · exact Option.some.inj (hsame.symm.trans hst)
    · rw [hst] at hnone
      cases hnone
  subst hpr'' hst''
  have hpublished : Publications py (fun i => ⟨coordination, producer i⟩) (.fresh {}) [] (.fresh {}) := .start
  have hhistory := hpublished.exec ⟨i, r₁, none⟩ hfirst
  obtain ⟨log, hrun⟩ := exec_runs (Publishers.answer url now false r₂ j)
    (FixedGitHubPublisher.publish py ⟨coordination, producer j⟩ r₂) w
  rw [hsecond] at hrun
  exact hnever {} _ w w' ⟨j, r₂, none⟩ log result ⟨by simp, by simp⟩ hhistory rfl
    (hrun.mono fun _ _ _ _ hanswer => Publishers.serves_of_answer hanswer)
    ⟨pr', st', hpr', hst', hfor, hstFor, by rw [hreference, hprUrl], by rw [htarget, hprUrl]⟩

/-- For valid requests of one migration with other candidates: results are never credited
exactly if no two instances of the requests' scope exist, or the requests ask for different
pull requests or statuses. Then a retry that does not match is rejected. -/
theorem never_credited_iff (py : Python) (coordination url now : String) (producer : ι → String)
    (r₁ r₂ : PublicationRequest) (hserved : Served py coordination url now) (h₁ : r₁.Valid py)
    (h₂ : r₂.Valid py) (hmigration : r₁.migrationId = r₂.migrationId)
    (hdiffer : sameSet r₁.commits r₂.commits = false) :
    NeverCredited py coordination producer r₁ r₂ ↔
      ¬(SameGate r₁ r₂ ∧ ∃ i j, i ≠ j ∧ producer i = r₁.intent.producerRepository ∧
        producer j = r₂.intent.producerRepository) := by
  constructor
  · rintro hnever ⟨hgate, i, j, hij, hi, hj⟩
    exact credited_of_sameGate hserved h₁ h₂ hgate hij hi hj hnever
  · intro hcondition g₀ history w w' a log result hg h ha hrun hcredited
    have hne : r₁ ≠ r₂ := by
      rintro rfl
      rw [sameSet_self] at hdiffer
      cases hdiffer
    obtain ⟨hgate, i, hia, hi, hj⟩ :=
      sameGate_of_credited hmigration hne (bound_of_publications hg h) ha hrun hcredited
    exact hcondition ⟨hgate, i, a.publisher, hia, hi, hj⟩

end Condition

section Samples

def firstSample : PublicationRequest := sampleRequest "1111111111111111111111111111111111111111"

/-- The request after the candidates were prepared again. -/
def secondSample : PublicationRequest := sampleRequest "2222222222222222222222222222222222222222"

theorem sampleRequests_valid : firstSample.Valid samplePython ∧ secondSample.Valid samplePython :=
  ⟨⟨by decide +kernel, by decide +kernel⟩, ⟨by decide +kernel, by decide +kernel⟩⟩

theorem sample_served : Served samplePython samplePublisher.coordinationRepository samplePullRequest
    ChangeIntent.sample.createdAt :=
  ⟨by unfold IsPullRequestOf; decide +kernel, by decide +kernel, by decide +kernel⟩

/-- With one instance the results of the second request are never credited. -/
theorem never_credited_one_instance : NeverCredited samplePython samplePublisher.coordinationRepository
    (fun _ : Unit => samplePublisher.producerRepository) firstSample secondSample := by
  refine (never_credited_iff samplePython _ samplePullRequest ChangeIntent.sample.createdAt _ _ _
    sample_served sampleRequests_valid.1 sampleRequests_valid.2 rfl (by decide +kernel)).mpr ?_
  rintro ⟨-, i, j, hij, -⟩
  exact hij rfl

/-- A second instance credits the gate of the first candidates to others. -/
theorem credited_after_restart : ¬∀ r₁ r₂ : PublicationRequest, r₁.Valid samplePython →
    r₂.Valid samplePython → r₁.migrationId = r₂.migrationId → sameSet r₁.commits r₂.commits = false →
    NeverCredited samplePython samplePublisher.coordinationRepository
      (fun _ : Bool => samplePublisher.producerRepository) r₁ r₂ := by
  intro h
  have hgate : SameGate firstSample secondSample := ⟨rfl, rfl, rfl, rfl⟩
  exact credited_of_sameGate sample_served sampleRequests_valid.1 sampleRequests_valid.2 hgate
    Bool.false_ne_true rfl rfl
    (h firstSample secondSample sampleRequests_valid.1 sampleRequests_valid.2 rfl (by decide +kernel))

end Samples
end LineageTX
