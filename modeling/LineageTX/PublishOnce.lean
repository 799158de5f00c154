import LineageTX.PublisherCalls

/-! Attempts to publish one request, with lost responses: the invariant that relates what
GitHub has to what the instances remember, and what it says of every run. -/
namespace LineageTX
open Library Library.Prog
variable {py : Python} {ι : Type}

section Once
variable (py) (coordination : String) (producer : ι → String) (request : PublicationRequest)

/-- A result that validates, of a stage that GitHub bears out. -/
def Proper (g : GitHub) (result : PublicationResult) : Prop :=
  result.validate request = .ok () ∧ Staged py request coordination g result.stage

/-- What attempts for the request have created since the first state, and what the
instances remember of it. -/
structure Once (g₀ : GitHub) (w : Publishers ι) : Prop where
  pullRequests : w.github.pullRequests = g₀.pullRequests ∨
    ∃ pr, w.github.pullRequests = g₀.pullRequests ++ [pr] ∧
      pr.isFor coordination request.coordinatedHeadBranch request.coordinatedBaseBranch = true
  statuses : w.github.statuses = g₀.statuses ∨
    ∃ st, w.github.statuses = st :: g₀.statuses ∧ st.state = "success" ∧
      st.isFor request.intent.producerRepository request.intent.producerHeadSha safeToContract = true
  stages : ∀ i stage, HasStage request i w stage →
    Staged py request coordination w.github stage
  results : ∀ i result, (w.memory i).results.get? request.migrationId = some result →
    Proper py coordination request w.github result

end Once

section Steps
variable {coordination : String} {producer : ι → String} {request : PublicationRequest}
  {g₀ : GitHub} {w w' : Publishers ι} {i : ι} {stage : PublicationStage}

theorem Once.fresh : Once py coordination request g₀ (.fresh g₀ : Publishers ι) where
  pullRequests := .inl rfl
  statuses := .inl rfl
  stages i stage h := by simp [HasStage, Publishers.fresh] at h
  results i result h := by simp [Publishers.fresh] at h

/-- While GitHub has no pull request for the branches, nobody has staged the request. -/
theorem Once.addPullRequest {pr : PullRequest} (h : Once py coordination request g₀ w)
    (hnone : w.github.pullRequest? coordination request.coordinatedHeadBranch
      request.coordinatedBaseBranch = none)
    (hpr : pr.isFor coordination request.coordinatedHeadBranch request.coordinatedBaseBranch = true) :
    Once py coordination request g₀ (w.addPullRequest pr) where
  pullRequests := by
    rcases h.pullRequests with hp | ⟨pr', hp, hpr'⟩
    · exact .inr ⟨pr, by simp [Publishers.addPullRequest, hp], hpr⟩
    · rw [GitHub.pullRequest?, hp, List.find?_eq_none] at hnone
      exact absurd hpr' (hnone pr' (by simp))
  statuses := h.statuses
  stages i stage hi := by
    obtain ⟨pr', hpr', -⟩ := (h.stages i stage hi).pullRequest
    rw [hnone] at hpr'
    cases hpr'
  results i result hi := by
    obtain ⟨pr', hpr', -⟩ := (h.results i result hi).2.pullRequest
    rw [hnone] at hpr'
    cases hpr'

theorem Staged.addStatus {st : CommitStatus} (h : Staged py request coordination w.github stage) :
    Staged py request coordination (w.addStatus st).github stage :=
  ⟨h.valid, h.ofRepository, h.pullRequest⟩

/-- While GitHub shows no success, no attempt has created a status. -/
theorem Once.addStatus {p : FixedGitHubPublisher} {st : CommitStatus}
    (h : Once py coordination request g₀ w)
    (hscope : p.producerRepository = request.intent.producerRepository)
    (hunreleased : Unreleased p request w) (hstate : st.state = "success")
    (hst : st.isFor request.intent.producerRepository request.intent.producerHeadSha
      safeToContract = true) :
    Once py coordination request g₀ (w.addStatus st) where
  pullRequests := h.pullRequests
  statuses := by
    rcases h.statuses with hs | ⟨st', hs, hstate', hst'⟩
    · exact .inr ⟨st, by simp [Publishers.addStatus, hs], hstate, hst⟩
    · have hfound : w.github.status? p.producerRepository request.intent.producerHeadSha
          safeToContract = some st' := by
        rw [GitHub.status?, hs, hscope, List.find?_cons, hst']
      exact absurd hstate' (hunreleased st' hfound)
  stages j stage' hj := (h.stages j stage' hj).addStatus
  results j result hj := ⟨(h.results j result hj).1, (h.results j result hj).2.addStatus⟩

theorem Once.remember [DecidableEq ι] {m : PublisherMemory}
    (h : Once py coordination request g₀ w)
    (hstages : ∀ stage, m.stages.get? request.migrationId = some stage →
      Staged py request coordination w.github stage)
    (hresults : ∀ result, m.results.get? request.migrationId = some result →
      Proper py coordination request w.github result) :
    Once py coordination request g₀ (w.remember i m) where
  pullRequests := h.pullRequests
  statuses := h.statuses
  stages j stage' hj := by
    by_cases hji : j = i
    · subst hji
      rw [HasStage, Publishers.remember_self] at hj
      exact hstages stage' hj
    · rw [HasStage, Publishers.remember_of_ne w hji] at hj
      exact h.stages j stage' hj
  results j result hj := by
    by_cases hji : j = i
    · subst hji
      rw [Publishers.remember_self] at hj
      exact hresults result hj
    · rw [Publishers.remember_of_ne w hji] at hj
      exact h.results j result hj

/-- Every call of an attempt for the request keeps the invariant. -/
theorem Once.step [DecidableEq ι] {c : GitHubCall} {reply : Result c.Reply}
    (h : Once py coordination request g₀ w)
    (hcall : MayCall py ⟨coordination, producer i⟩ request i w c)
    (hserve : w.Serves request i c reply w') : Once py coordination request g₀ w' := by
  cases c with
  | findPullRequest => exact hserve.1 ▸ h
  | createPullRequest repository title body head base draft =>
    obtain ⟨rfl, rfl, rfl, hnone⟩ := hcall
    rcases hserve with ⟨rfl, -⟩ | ⟨url, rfl, -⟩
    · exact h
    · exact h.addPullRequest hnone (by simp [PullRequest.isFor])
  | createCommitStatus repository sha state context description targetUrl =>
    obtain ⟨rfl, rfl, rfl, rfl, hunreleased, stage, hready, rfl⟩ := hcall
    rcases hserve with ⟨rfl, -⟩ | rfl
    · exact h
    · have hscope : producer i = request.intent.producerRepository := hready.scope
      exact h.addStatus hready.scope hunreleased rfl (by simp [CommitStatus.isFor, hscope])
  | getCommitStatus => exact hserve.1 ▸ h
  | remembered => exact hserve.2 ▸ h
  | remember m =>
    obtain ⟨-, rfl⟩ := hserve
    rcases hcall with ⟨stage, -, -, -, hstaged, rfl⟩ | ⟨result, hstage, hvalid, rfl⟩
    · refine h.remember (fun stage' hstage' => ?_) (h.results i)
      rw [Dict.get?_set, if_pos rfl] at hstage'
      exact Option.some.inj hstage' ▸ hstaged
    · refine h.remember (h.stages i) fun result' hresult' => ?_
      rw [Dict.get?_set, if_pos rfl] at hresult'
      exact Option.some.inj hresult' ▸ ⟨hvalid, h.stages i _ hstage⟩
  | utcNow => exact (show w' = w from hserve) ▸ h

end Steps

theorem Publishers.Serves.grows [DecidableEq ι] {request : PublicationRequest} {i : ι}
    {w w' : Publishers ι} {c : GitHubCall} {reply : Result c.Reply}
    (h : w.Serves request i c reply w') : w.github.pullRequests <+: w'.github.pullRequests := by
  cases c with
  | findPullRequest => exact h.1 ▸ List.prefix_rfl
  | createPullRequest =>
    rcases h with ⟨rfl, -⟩ | ⟨url, rfl, -⟩
    · exact List.prefix_rfl
    · exact List.prefix_append _ _
  | createCommitStatus =>
    rcases h with ⟨rfl, -⟩ | rfl
    · exact List.prefix_rfl
    · exact List.prefix_rfl
  | getCommitStatus => exact h.1 ▸ List.prefix_rfl
  | remembered => exact h.2 ▸ List.prefix_rfl
  | remember => exact h.2 ▸ List.prefix_rfl
  | utcNow => exact (show w' = w from h) ▸ List.prefix_rfl

/-- The pull request that GitHub shows for some branches stays the same. -/
theorem Staged.grows {coordination : String} {request : PublicationRequest} {g g' : GitHub}
    {stage : PublicationStage} (h : Staged py request coordination g stage)
    (hgrows : g.pullRequests <+: g'.pullRequests) : Staged py request coordination g' stage := by
  obtain ⟨pr, hpr, href⟩ := h.pullRequest
  obtain ⟨more, hmore⟩ := hgrows
  refine ⟨h.valid, h.ofRepository, pr, ?_, href⟩
  rw [GitHub.pullRequest?] at hpr ⊢
  rw [← hmore, List.find?_append, hpr]
  rfl

theorem once_of_publications [DecidableEq ι] {coordination : String} {producer : ι → String}
    {request : PublicationRequest} {g₀ : GitHub} {w : Publishers ι}
    {history : List (PublishAttempt ι × Result PublicationResult)}
    (h : Publications py (fun i => ⟨coordination, producer i⟩) (.fresh g₀) history w)
    (hrequest : ∀ e ∈ history, e.1.request = request) :
    Once py coordination request g₀ w ∧
    ∀ a result, (a, .ok result) ∈ history → Proper py coordination request w.github result := by
  induction h with
  | start => exact ⟨.fresh, by simp⟩
  | @attempt history w w' log r _ a hrun ih =>
    obtain ⟨hw, hresults⟩ := ih fun e he => hrequest e (by simp [he])
    obtain rfl : a.request = request := hrequest (a, r) (by simp)
    have hw' : Once py coordination a.request g₀ w' :=
      attempt_guarded.invariant (fun _ _ _ _ h hcall hserve => h.step hcall hserve) hrun hw
    have hgrows : w.github.pullRequests <+: w'.github.pullRequests :=
      attempt_guarded.invariant (I := fun w₁ => w.github.pullRequests <+: w₁.github.pullRequests)
        (fun _ _ _ _ h _ hserve => h.trans hserve.grows) hrun List.prefix_rfl
    refine ⟨hw', fun b result hb => ?_⟩
    rcases List.mem_append.mp hb with hb | hb
    · obtain ⟨hvalid, hstaged⟩ := hresults b result hb
      exact ⟨hvalid, hstaged.grows hgrows⟩
    · obtain ⟨rfl, rfl⟩ := Prod.mk.inj (List.mem_singleton.mp hb)
      exact hw'.results _ _ (attempt_guarded.of_run hrun result rfl).2.kept

/-- Attempts to publish a request, on any number of instances and with calls that fail
before or after they take effect, create at most one pull request and one success status;
their results validate and carry the same pull request, and the status is created only
after a pull request of the coordination repository was staged. -/
theorem publishes_once [DecidableEq ι] (py : Python) (coordination : String) (producer : ι → String)
    (request : PublicationRequest) (g₀ : GitHub) (w : Publishers ι)
    (history : List (PublishAttempt ι × Result PublicationResult))
    (h : Publications py (fun i => ⟨coordination, producer i⟩) (.fresh g₀) history w)
    (hrequest : ∀ e ∈ history, e.1.request = request) :
    (∃ created, w.github.pullRequests = g₀.pullRequests ++ created ∧ created.length ≤ 1) ∧
    (∃ created, w.github.statuses = created ++ g₀.statuses ∧ created.length ≤ 1) ∧
    (∃ reference, ∀ a result, (a, .ok result) ∈ history →
      result.validate request = .ok () ∧ result.coordinatedPrReceipt.reference = reference) ∧
    ∀ (a : PublishAttempt ι) (repository sha state context description targetUrl : String)
      (w' : Publishers ι), a.request = request →
      (a.program py ⟨coordination, producer a.publisher⟩).MakesCall
        (Publishers.Serves request a.publisher) w
        (.createCommitStatus repository sha state context description targetUrl) w' →
      ∃ stage, HasStage request a.publisher w' stage ∧ stage.validate request = .ok () ∧
        targetUrl = stage.coordinatedPrReceipt.reference ∧ IsPullRequestOf py coordination targetUrl ∧
        ∃ pr ∈ w'.github.pullRequests, pr.repository = coordination ∧ pr.htmlUrl = targetUrl := by
  obtain ⟨hw, hresults⟩ := once_of_publications h hrequest
  refine ⟨?_, ?_, ?_, ?_⟩
  · rcases hw.pullRequests with hp | ⟨pr, hp, -⟩
    · exact ⟨[], by simp [hp], by simp⟩
    · exact ⟨[pr], hp, by simp⟩
  · rcases hw.statuses with hs | ⟨st, hs, -⟩
    · exact ⟨[], by simp [hs], by simp⟩
    · exact ⟨[st], by simp [hs], by simp⟩
  · cases hfound : w.github.pullRequest? coordination request.coordinatedHeadBranch
        request.coordinatedBaseBranch with
    | none =>
      refine ⟨"", fun a result ha => ?_⟩
      obtain ⟨pr, hpr, -⟩ := (hresults a result ha).2.pullRequest
      rw [hfound] at hpr
      cases hpr
    | some pr =>
      refine ⟨pr.htmlUrl, fun a result ha => ?_⟩
      obtain ⟨hvalid, hstaged⟩ := hresults a result ha
      obtain ⟨pr', hpr', href⟩ := hstaged.pullRequest
      rw [hfound] at hpr'
      cases hpr'
      exact ⟨hvalid, href⟩
  · intro a repository sha state context description targetUrl w' ha hcall
    subst ha
    have hw' : Once py coordination a.request g₀ w' :=
      attempt_guarded.invariant_makesCall (fun _ _ _ _ h hcall hserve => h.step hcall hserve) hcall hw
    obtain ⟨-, -, -, -, -, stage, hready, rfl⟩ := attempt_guarded.of_makesCall hcall
    have hstaged := hw'.stages _ stage hready.hasStage
    obtain ⟨pr, hpr, href⟩ := hstaged.pullRequest
    refine ⟨stage, hready.hasStage, hstaged.valid, rfl, hstaged.ofRepository, pr,
      List.mem_of_find?_eq_some hpr, ?_, href.symm⟩
    have hfor := List.find?_some hpr
    simp only [PullRequest.isFor, Bool.and_eq_true, decide_eq_true_eq] at hfor
    exact hfor.1.1

section Samples

def sampleCandidate (name sha : String) : CandidateCommit where
  participantId := name
  repository := "data/" ++ name
  branch := "lineagetx/" ++ name
  commitSha := sha
  changedFiles := ["model.sql"]

def sampleRequest (sha : String) : PublicationRequest where
  intent := .sample
  candidates := ["p1", "p2", "p3"].map (sampleCandidate · sha)
  title := "LineageTX"
  body := "Candidate changes remain unmerged."
  coordinatedHeadBranch := "lineagetx/coordination"

def samplePublisher : FixedGitHubPublisher := ⟨"data/coordination", ChangeIntent.sample.producerRepository⟩

def samplePullRequest : String := "https://github.com/data/coordination/pull/1"

def sampleAttempt (i : Bool) : PublishAttempt Bool :=
  ⟨i, sampleRequest "1111111111111111111111111111111111111111", none⟩

/-- One attempt of one of two instances; the response to a status may be lost. -/
def samplePublish (lost : Bool) (i : Bool) (w : Publishers Bool) : Result PublicationResult × Publishers Bool :=
  ((sampleAttempt i).program samplePython samplePublisher).exec
    (Publishers.answer samplePullRequest ChangeIntent.sample.createdAt lost (sampleAttempt i).request i) w

theorem samplePublish_publications {history : List (PublishAttempt Bool × Result PublicationResult)}
    {w₀ w : Publishers Bool}
    (h : Publications samplePython (fun _ : Bool => samplePublisher) w₀ history w) (lost i : Bool) :
    Publications samplePython (fun _ : Bool => samplePublisher) w₀
      (history ++ [(sampleAttempt i, (samplePublish lost i w).1)]) (samplePublish lost i w).2 :=
  h.exec (sampleAttempt i) (Prod.eta (samplePublish lost i w)).symm

/-- The response to the status is lost in one instance; another one recovers it. -/
theorem publishes_once_recovered : ∃ history w,
    Publications samplePython (fun _ : Bool => samplePublisher) (.fresh {}) history w ∧
    (∃ a result, (a, .ok result) ∈ history) ∧
    (∃ created, w.github.pullRequests = [] ++ created ∧ created.length ≤ 1) ∧
    ∃ created, w.github.statuses = created ++ [] ∧ created.length ≤ 1 := by
  have hok : (samplePublish false true (samplePublish true false (.fresh {})).2).1.isOk = true := by
    decide +kernel
  obtain ⟨result, hresult⟩ := exists_of_isOk hok
  have hstart : Publications samplePython (fun _ : Bool => samplePublisher) (.fresh {}) [] (.fresh {}) :=
    .start
  have hfirst := samplePublish_publications hstart true false
  have hruns := samplePublish_publications hfirst false true
  have honce := publishes_once samplePython samplePublisher.coordinationRepository
    (fun _ => samplePublisher.producerRepository) (sampleAttempt false).request {} _ _ hruns (by simp [sampleAttempt])
  exact ⟨_, _, hruns, ⟨sampleAttempt true, result, by simp [hresult]⟩, honce.1, honce.2.1⟩

end Samples
end LineageTX
