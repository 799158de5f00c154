import LineageTX.PublicationRuns

/-! What an attempt to publish calls, by the state in which it calls, and what it ends in.
Every invariant of the instances and of GitHub is derived from this. -/
namespace LineageTX
open Library Library.Prog
variable {ι : Type} {py : Python}

/-- A URL that `stage` accepts as one of the coordination repository's pull requests. -/
def IsPullRequestOf (py : Python) (coordination url : String) : Prop :=
  (FixedGitHubPublisher.mk coordination "").checkPullRequestUrl py url = .ok ()

section Facts
variable (py) (p : FixedGitHubPublisher) (request : PublicationRequest) (i : ι) (w : Publishers ι)

/-- The instance has this stage for the migration. -/
def HasStage (stage : PublicationStage) : Prop :=
  (w.memory i).stages.get? request.migrationId = some stage

/-- The instance has staged no other request of the migration. -/
def Admits : Prop :=
  ∀ r, (w.memory i).requests.get? request.migrationId = some r → r = request

/-- GitHub has no success status for the producer's commit. -/
def Unreleased : Prop :=
  ∀ st, w.github.status? p.producerRepository request.intent.producerHeadSha safeToContract = some st →
    st.state ≠ "success"

/-- The stage of the request whose pull request GitHub has. -/
structure Staged (coordination : String) (g : GitHub) (stage : PublicationStage) : Prop where
  valid : stage.validate request = .ok ()
  ofRepository : IsPullRequestOf py coordination stage.coordinatedPrReceipt.reference
  pullRequest : ∃ pr, g.pullRequest? coordination request.coordinatedHeadBranch
    request.coordinatedBaseBranch = some pr ∧ stage.coordinatedPrReceipt.reference = pr.htmlUrl

/-- What an instance takes up: the first stage of the request, or a result of it. -/
def TakesUp (m : PublisherMemory) : Prop :=
  (∃ stage, (w.memory i).stages.get? request.migrationId = none ∧ Admits request i w ∧
    p.producerRepository = request.intent.producerRepository ∧
    Staged py request p.coordinationRepository w.github stage ∧
    m = { w.memory i with
      requests := (w.memory i).requests.set request.migrationId request
      stages := (w.memory i).stages.set request.migrationId stage }) ∨
  ∃ result : PublicationResult, HasStage request i w result.stage ∧ result.validate request = .ok () ∧
    m = { w.memory i with results := (w.memory i).results.set request.migrationId result }

/-- A request that the instance has staged and may go on with. -/
structure Ready (stage : PublicationStage) : Prop where
  scope : p.producerRepository = request.intent.producerRepository
  admits : Admits request i w
  hasStage : HasStage request i w stage

/-- A result that the instance keeps for the request. -/
structure Keeps (result : PublicationResult) : Prop where
  valid : result.validate request = .ok ()
  kept : (w.memory i).results.get? request.migrationId = some result

/-- The calls of an attempt. It creates a pull request where GitHub has none for the
branches, and a status where GitHub shows no success and the instance has a stage. -/
def MayCall : GitHubCall → Prop
  | .createPullRequest repository _ _ head base _ => repository = p.coordinationRepository ∧
    head = request.coordinatedHeadBranch ∧ base = request.coordinatedBaseBranch ∧
    w.github.pullRequest? repository head base = none
  | .createCommitStatus repository sha state context _ targetUrl =>
    repository = p.producerRepository ∧ sha = request.intent.producerHeadSha ∧ state = "success" ∧
    context = safeToContract ∧ Unreleased p request w ∧
    ∃ stage, Ready p request i w stage ∧ targetUrl = stage.coordinatedPrReceipt.reference
  | .remember m => TakesUp py p request i w m
  | _ => True

/-- The contract of an attempt for the request by one of the instances. -/
abbrev attemptContract [DecidableEq ι] : Contract (Publishers ι) Exn GitHubCall.Reply :=
  .alone (Publishers.Serves request i) (MayCall py p request i)

end Facts

theorem coordinationReceipt_postInit {r r' : CoordinationReceipt} (h : r.postInit py = .ok r') :
    r' = r := by
  simp only [CoordinationReceipt.postInit, bind_eq_ok] at h
  obtain ⟨_, -, _, -, _, -, _, -, _, -, _, -, _, -, ⟨⟩⟩ := h
  rfl

section Programs
variable {p : FixedGitHubPublisher} {request : PublicationRequest} {w : Publishers ι} {i : ι}
  {stage : PublicationStage}

theorem stageOf_eq_ok {url recordedAt : String}
    (h : FixedGitHubPublisher.stageOf py request url recordedAt = .ok stage) :
    stage.validate request = .ok () ∧ stage.coordinatedPrReceipt.reference = url := by
  simp only [FixedGitHubPublisher.stageOf, bind_eq_ok] at h
  obtain ⟨receipts, -, coordinated, hcoordinated, _, hvalid, ⟨⟩⟩ := h
  exact ⟨hvalid, by rw [coordinationReceipt_postInit hcoordinated]; rfl⟩

theorem resultFromStage_eq_ok {recordedAt : String} {result : PublicationResult}
    (h : FixedGitHubPublisher.resultFromStage py request stage recordedAt = .ok result) :
    result.validate request = .ok () ∧ result.stage = stage := by
  simp only [FixedGitHubPublisher.resultFromStage, bind_eq_ok] at h
  obtain ⟨gate, -, _, hvalid, ⟨⟩⟩ := h
  exact ⟨hvalid, rfl⟩

theorem pullRequestUrl_eq_ok {pr : Json} {url : String} (h : p.pullRequestUrl py pr = .ok url) :
    pr.get? "html_url" = some (.str url) ∧ IsPullRequestOf py p.coordinationRepository url := by
  unfold FixedGitHubPublisher.pullRequestUrl at h
  split at h
  · next prUrl hurl =>
    simp only [bind_eq_ok] at h
    obtain ⟨_, hcheck, _, -, ⟨⟩⟩ := h
    exact ⟨hurl, hcheck⟩
  · cases h

/-- The two shapes of a reply that shows no success. -/
theorem unreleased_of_reply {status : Json}
    (hshows : ShowsStatus status (w.github.status? p.producerRepository
      request.intent.producerHeadSha safeToContract))
    (hreply : status = .null ∨ status.get? "state" ≠ some (.str "success")) :
    Unreleased p request w := by
  intro st hst hsuccess
  rw [hst, ShowsStatus, hsuccess] at hshows
  rcases hreply with rfl | hne
  · cases hshows.1
  · exact hne hshows.1

variable [DecidableEq ι]

theorem coordinationPullRequest_guarded : (p.coordinationPullRequest request).Guarded
    (attemptContract py p request i) (fun r w' => w'.memory = w.memory ∧
      ∀ reply url, r = .ok reply → reply.get? "html_url" = some (.str url) →
        ∃ pr, w'.github.pullRequest? p.coordinationRepository request.coordinatedHeadBranch
          request.coordinatedBaseBranch = some pr ∧ url = pr.htmlUrl) w := by
  refine Guarded.perform_bind trivial ?_ ?_
  · rintro e w' ⟨rfl, -⟩
    exact ⟨rfl, by simp⟩
  · rintro (reply : Json) w' ⟨rfl, hshows⟩
    have hshows := hshows reply rfl
    cases hfound : w'.github.pullRequest? p.coordinationRepository request.coordinatedHeadBranch
        request.coordinatedBaseBranch with
    | some pr =>
      rw [hfound] at hshows
      have hne : reply ≠ .null := fun he => by rw [he] at hshows; cases hshows
      rw [if_neg hne]
      refine ⟨rfl, fun _ url hreply hurl => ⟨pr, hfound, ?_⟩⟩
      cases hreply
      rw [hshows] at hurl
      simpa using hurl.symm
    | none =>
      rw [hfound] at hshows
      rw [if_pos (show reply = .null from hshows)]
      refine Guarded.perform_alone ⟨rfl, rfl, rfl, hfound⟩ fun r w₁ hserve => ?_
      rcases hserve with ⟨rfl, e, rfl⟩ | ⟨url, rfl, hreply⟩
      · exact ⟨rfl, by simp⟩
      · refine ⟨rfl, fun pr url' hpr hurl => ?_⟩
        rw [hreply pr hpr] at hurl
        refine ⟨⟨p.coordinationRepository, request.coordinatedHeadBranch,
          request.coordinatedBaseBranch, url, some request⟩, ?_,
          (Json.str.inj (Option.some.inj hurl)).symm⟩
        exact Publishers.addPullRequest_found hfound (by simp [PullRequest.isFor])

theorem stage_guarded : (p.stage py request).Guarded (attemptContract py p request i)
    (fun r w' => ∀ stage, r = .ok stage → Ready p request i w' stage) w := by
  refine Guarded.lift_bind (by simp) fun _ hscope => ?_
  have hscope := (of_decide_eq_true (requirePublication_eq_ok.mp hscope)).symm
  refine Guarded.perform_bind trivial (fun e w' hrecall => nomatch hrecall.1) ?_
  rintro (memory : PublisherMemory) w₁ ⟨hmemory, rfl⟩
  obtain rfl : memory = w₁.memory i := Except.ok.inj hmemory
  refine Guarded.lift_bind (by simp) fun _ hadmits => ?_
  have hadmits : Admits request i w₁ := by
    intro r hr
    have hall := requirePublication_eq_ok.mp hadmits
    rw [hr] at hall
    simpa using hall
  cases hstages : (w₁.memory i).stages.get? request.migrationId with
  | some stage =>
    intro stage' he
    cases he
    exact ⟨hscope, hadmits, hstages⟩
  | none =>
    refine Guarded.bind (coordinationPullRequest_guarded.mono fun r w₂ ⟨hmemory, hpr⟩ => ?_)
    cases r with
    | error e => simp
    | ok pr =>
      refine Guarded.lift_bind (by simp) fun url hurl => ?_
      obtain ⟨hshown, hof⟩ := pullRequestUrl_eq_ok hurl
      obtain ⟨found, hfound, hsame⟩ := hpr pr url rfl hshown
      refine Guarded.perform_bind trivial (by simp) fun recordedAt w₃ hw₃ => ?_
      obtain rfl : w₃ = w₂ := hw₃
      refine Guarded.lift_bind (by simp) fun stage hstage => ?_
      obtain ⟨hvalid, href⟩ := stageOf_eq_ok hstage
      rw [← hmemory] at hstages ⊢
      have hadmits : Admits request i w₃ := by rwa [Admits, hmemory]
      refine Guarded.perform_bind (.inl ⟨stage, hstages, hadmits, hscope,
        ⟨hvalid, href ▸ hof, found, hfound, href.trans hsame⟩, rfl⟩) (by simp) fun u w₄ hw₄ => ?_
      obtain ⟨-, rfl⟩ := hw₄
      intro stage' he
      cases he
      refine ⟨hscope, fun r hr => ?_, ?_⟩
      · rw [Publishers.remember_self, Dict.get?_set, if_pos rfl] at hr
        exact (Option.some.inj hr).symm
      · rw [HasStage, Publishers.remember_self, Dict.get?_set, if_pos rfl]

theorem confirm_guarded (h : Ready p request i w stage) :
    (FixedGitHubPublisher.confirm py request stage (w.memory i)).Guarded
      (attemptContract py p request i) (fun r w' => Ready p request i w' stage ∧
        ∀ result, r = .ok result → Keeps request i w' result) w := by
  refine Guarded.perform_bind trivial (fun e w₁ hw₁ => ?_) fun recordedAt w₁ hw₁ => ?_
  · obtain rfl : w₁ = w := hw₁
    exact ⟨h, by simp⟩
  · obtain rfl : w₁ = w := hw₁
    refine Guarded.lift_bind (by simp [h]) fun result hresult => ?_
    obtain ⟨hvalid, hsame⟩ := resultFromStage_eq_ok hresult
    refine Guarded.perform_bind (.inr ⟨result, hsame ▸ h.hasStage, hvalid, rfl⟩)
      (fun e w₂ hw₂ => nomatch hw₂.1) fun u w₂ hw₂ => ?_
    obtain ⟨-, rfl⟩ := hw₂
    refine ⟨⟨h.scope, ?_, ?_⟩, fun res hres => ?_⟩
    · rw [Admits, Publishers.remember_self]
      exact h.admits
    · rw [HasStage, Publishers.remember_self]
      exact h.hasStage
    · cases hres
      exact ⟨hvalid, by rw [Publishers.remember_self, Dict.get?_set, if_pos rfl]⟩

theorem cachedOr_guarded {α : Type} {wrap : PublicationResult → α} {otherwise : GitHubProg α}
    {post : Result α → Publishers ι → Prop} (herror : ∀ e, post (.error e) w)
    (hcached : ∀ result, Keeps request i w result → post (.ok (wrap result)) w)
    (hotherwise : otherwise.Guarded (attemptContract py p request i) post w) :
    (FixedGitHubPublisher.cachedOr request (w.memory i) wrap otherwise).Guarded
      (attemptContract py p request i) post w := by
  unfold FixedGitHubPublisher.cachedOr
  split
  · next existing hexisting =>
    exact Guarded.lift_bind (fun e _ => herror e) fun _ hvalid => hcached _ ⟨hvalid, hexisting⟩
  · exact hotherwise

theorem reconcile_guarded (h : Ready p request i w stage) :
    (p.reconcile py request stage).Guarded (attemptContract py p request i) (fun r w' =>
      Ready p request i w' stage ∧ (∀ result, r = .ok (some result) → Keeps request i w' result) ∧
      (r = .ok none → Unreleased p request w')) w := by
  refine Guarded.lift_bind (by simp [h]) fun _ _ => ?_
  refine Guarded.perform_bind trivial (fun e w' hrecall => nomatch hrecall.1) ?_
  rintro (memory : PublisherMemory) w₁ ⟨hmemory, rfl⟩
  obtain rfl : memory = w₁.memory i := Except.ok.inj hmemory
  refine cachedOr_guarded (by simp [h]) (fun result hresult => ⟨h, fun res hres => ?_, by simp⟩) ?_
  · cases hres
    exact hresult
  refine Guarded.perform_bind trivial ?_ ?_
  · rintro e w₂ ⟨rfl, -⟩
    exact ⟨h, by simp, by simp⟩
  · rintro (status : Json) w₂ ⟨rfl, hshows⟩
    have hshows := hshows status rfl
    split
    · next hnull => exact ⟨h, by simp, fun _ => unreleased_of_reply hshows (.inl hnull)⟩
    · refine Guarded.lift_bind (by simp [h]) fun state hstate => ?_
      split
      · next hne =>
        refine ⟨h, by simp, fun _ => unreleased_of_reply hshows (.inr fun hs => hne ?_)⟩
        unfold getMember at hstate
        split at hstate
        · simpa [getD, hs] using hstate.symm
        · cases hstate
      · refine Guarded.lift_bind (by simp [h]) fun _ _ => ?_
        refine Guarded.bind ((confirm_guarded h).mono fun r w₃ ⟨h₃, hresult⟩ => ?_)
        cases r with
        | error e => exact ⟨h₃, by simp, by simp⟩
        | ok result =>
          refine ⟨h₃, fun res hres => ?_, by simp⟩
          cases hres
          exact hresult _ rfl

theorem releaseGate_guarded (h : Ready p request i w stage) (hunreleased : Unreleased p request w) :
    (p.releaseGate py request stage).Guarded (attemptContract py p request i) (fun r w' =>
      ∀ result, r = .ok result → Ready p request i w' stage ∧ Keeps request i w' result) w := by
  refine Guarded.lift_bind (by simp) fun _ _ => ?_
  refine Guarded.perform_bind trivial (by simp) ?_
  rintro (memory : PublisherMemory) w₁ ⟨hmemory, rfl⟩
  obtain rfl : memory = w₁.memory i := Except.ok.inj hmemory
  refine Guarded.lift_bind (by simp) fun _ _ => ?_
  refine cachedOr_guarded (by simp) (fun result hresult res hres => ?_) ?_
  · cases hres
    exact ⟨h, hresult⟩
  refine Guarded.perform_bind ⟨rfl, rfl, rfl, rfl, hunreleased, stage, h, rfl⟩ (by simp) ?_
  intro status w₂ hw₂
  have hsame : w₂.memory = w₁.memory := by
    rcases hw₂ with ⟨rfl, -⟩ | rfl <;> rfl
  have h₂ : Ready p request i w₂ stage :=
    ⟨h.scope, by rw [Admits, hsame]; exact h.admits, by rw [HasStage, hsame]; exact h.hasStage⟩
  refine Guarded.lift_bind (by simp) fun state _ => ?_
  refine Guarded.lift_bind (by simp) fun _ _ => ?_
  rw [← hsame]
  exact (confirm_guarded h₂).mono fun r w₃ ⟨h₃, hresult⟩ result hr => ⟨h₃, hresult result hr⟩

theorem settle_guarded (h : Ready p request i w stage) :
    (p.settle py request stage).Guarded (attemptContract py p request i) (fun r w' =>
      ∀ result, r = .ok result → Ready p request i w' stage ∧ Keeps request i w' result) w := by
  refine Guarded.bind ((reconcile_guarded h).mono fun r w₁ ⟨h₁, hsome, hnone⟩ => ?_)
  cases r with
  | error e => simp
  | ok found =>
    cases found with
    | none => exact releaseGate_guarded h₁ (hnone rfl)
    | some result =>
      intro res hres
      cases hres
      exact ⟨h₁, hsome _ rfl⟩

/-- What an attempt calls and what it ends in. -/
theorem attempt_guarded {a : PublishAttempt ι} : (a.program py p).Guarded
    (attemptContract py p a.request a.publisher) (fun r w' => ∀ result, r = .ok result →
      (∃ stage, Ready p a.request a.publisher w' stage) ∧ Keeps a.request a.publisher w' result) w := by
  unfold PublishAttempt.program
  split
  · refine Guarded.bind (stage_guarded.mono fun r w₁ hstage => ?_)
    cases r with
    | error e => simp
    | ok stage =>
      exact (settle_guarded (hstage stage rfl)).mono fun r w₂ h₂ result hr =>
        ⟨⟨stage, (h₂ result hr).1⟩, (h₂ result hr).2⟩
  · refine Guarded.bind (stage_guarded.mono fun r w₁ hstage => ?_)
    cases r with
    | error e => simp
    | ok stage =>
      refine Guarded.lift_bind (by simp) fun _ _ => ?_
      refine Guarded.lift_bind (by simp) fun _ _ => ?_
      refine Guarded.bind ((settle_guarded (hstage stage rfl)).mono fun r w₂ h₂ => ?_)
      cases r with
      | error e => simp
      | ok publication =>
        refine Guarded.lift_bind (by simp) fun _ _ result hr => ?_
        cases hr
        exact ⟨⟨stage, (h₂ _ rfl).1⟩, (h₂ _ rfl).2⟩

end Programs
end LineageTX
