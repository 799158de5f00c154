import LineageTX.Publication
import Mathlib.Logic.Function.Basic

/-! Any number of publisher instances before one GitHub, whose calls may fail before or
after they take effect: attempts for one request publish it at most once. -/
namespace LineageTX
open Library
variable {ι : Type}

/-- A pull request as GitHub keeps it, and the request in whose attempt it was made. -/
structure PullRequest where
  repository : String
  head : String
  base : String
  htmlUrl : String
  createdFor : Option PublicationRequest := none

def PullRequest.isFor (pr : PullRequest) (repository head base : String) : Bool :=
  pr.repository = repository && pr.head = head && pr.base = base

structure CommitStatus where
  repository : String
  sha : String
  context : String
  state : String
  targetUrl : String
  createdFor : Option PublicationRequest := none

def CommitStatus.isFor (st : CommitStatus) (repository sha context : String) : Bool :=
  st.repository = repository && st.sha = sha && st.context = context

/-- Pull requests with the oldest, statuses with the latest first. -/
structure GitHub where
  pullRequests : List PullRequest := []
  statuses : List CommitStatus := []

def GitHub.pullRequest? (g : GitHub) (repository head base : String) : Option PullRequest :=
  g.pullRequests.find? (·.isFor repository head base)

def GitHub.status? (g : GitHub) (repository sha context : String) : Option CommitStatus :=
  g.statuses.find? (·.isFor repository sha context)

structure Publishers (ι : Type) where
  github : GitHub
  memory : ι → PublisherMemory

namespace Publishers

def addPullRequest (w : Publishers ι) (pr : PullRequest) : Publishers ι :=
  { w with github.pullRequests := w.github.pullRequests ++ [pr] }

def addStatus (w : Publishers ι) (st : CommitStatus) : Publishers ι :=
  { w with github.statuses := st :: w.github.statuses }

def remember [DecidableEq ι] (w : Publishers ι) (i : ι) (m : PublisherMemory) : Publishers ι :=
  { w with memory := Function.update w.memory i m }

@[simp] theorem addPullRequest_memory (w : Publishers ι) (pr : PullRequest) :
    (w.addPullRequest pr).memory = w.memory := rfl

@[simp] theorem addPullRequest_statuses (w : Publishers ι) (pr : PullRequest) :
    (w.addPullRequest pr).github.statuses = w.github.statuses := rfl

theorem addPullRequest_found {w : Publishers ι} {pr : PullRequest} {repository head base : String}
    (hnone : w.github.pullRequest? repository head base = none)
    (hpr : pr.isFor repository head base = true) :
    (w.addPullRequest pr).github.pullRequest? repository head base = some pr := by
  rw [GitHub.pullRequest?] at hnone ⊢
  rw [addPullRequest, List.find?_append, hnone]
  simp [hpr]

@[simp] theorem addStatus_memory (w : Publishers ι) (st : CommitStatus) :
    (w.addStatus st).memory = w.memory := rfl

@[simp] theorem addStatus_pullRequest? (w : Publishers ι) (st : CommitStatus) :
    (w.addStatus st).github.pullRequest? = w.github.pullRequest? := rfl

@[simp] theorem remember_github [DecidableEq ι] (w : Publishers ι) (i : ι) (m : PublisherMemory) :
    (w.remember i m).github = w.github := rfl

@[simp] theorem remember_self [DecidableEq ι] (w : Publishers ι) (i : ι) (m : PublisherMemory) :
    (w.remember i m).memory i = m := Function.update_self ..

theorem remember_of_ne [DecidableEq ι] (w : Publishers ι) {i j : ι} (h : j ≠ i) (m : PublisherMemory) :
    (w.remember i m).memory j = w.memory j := Function.update_of_ne h ..

end Publishers

/-- What `find_pull_request` returns of what was applied. -/
def ShowsPullRequest (reply : Json) : Option PullRequest → Prop
  | none => reply = .null
  | some pr => reply.get? "html_url" = some (.str pr.htmlUrl)

/-- What `get_commit_status` returns of what was applied. -/
def ShowsStatus (reply : Json) : Option CommitStatus → Prop
  | none => reply = .null
  | some st => reply.get? "state" = some (.str st.state) ∧
      reply.get? "target_url" = some (.str st.targetUrl)

/-- The calls of an instance in an attempt for a request. Every call of the API may
fail, and a call that creates may have been applied all the same. -/
def Publishers.Serves [DecidableEq ι] (request : PublicationRequest) (i : ι) (w : Publishers ι) :
    (c : GitHubCall) → Result c.Reply → Publishers ι → Prop
  | .findPullRequest repository head base, reply, w' => w' = w ∧ ∀ pr, reply = .ok pr →
      ShowsPullRequest pr (w.github.pullRequest? repository head base)
  | .createPullRequest repository _ _ head base _, reply, w' =>
    (w' = w ∧ ∃ e, reply = .error e) ∨ ∃ url,
      w' = w.addPullRequest ⟨repository, head, base, url, some request⟩ ∧
      ∀ pr, reply = .ok pr → pr.get? "html_url" = some (.str url)
  | .createCommitStatus repository sha state context _ targetUrl, reply, w' =>
    (w' = w ∧ ∃ e, reply = .error e) ∨
      w' = w.addStatus ⟨repository, sha, context, state, targetUrl, some request⟩
  | .getCommitStatus repository sha context, reply, w' => w' = w ∧ ∀ st, reply = .ok st →
      ShowsStatus st (w.github.status? repository sha context)
  | .remembered, reply, w' => reply = .ok (w.memory i) ∧ w' = w
  | .remember m, reply, w' => reply = .ok () ∧ w' = w.remember i m
  | .utcNow, _, w' => w' = w

/-- A GitHub that answers every call, with one URL and time for what it creates; only the
response to a new status may be lost. -/
def Publishers.answer [DecidableEq ι] (url now : String) (lost : Bool) (request : PublicationRequest)
    (i : ι) (w : Publishers ι) : (c : GitHubCall) → Result c.Reply × Publishers ι
  | .findPullRequest repository head base =>
    (.ok (match w.github.pullRequest? repository head base with
      | none => .null
      | some pr => .obj [("html_url", .str pr.htmlUrl)]), w)
  | .createPullRequest repository _ _ head base _ => (.ok (.obj [("html_url", .str url)]),
      w.addPullRequest ⟨repository, head, base, url, some request⟩)
  | .createCommitStatus repository sha state context _ targetUrl =>
    (if lost then raise .publicationError "GitHub publication request failed"
      else .ok (.obj [("state", .str state)]),
      w.addStatus ⟨repository, sha, context, state, targetUrl, some request⟩)
  | .getCommitStatus repository sha context =>
    (.ok (match w.github.status? repository sha context with
      | none => .null
      | some st => .obj [("state", .str st.state), ("target_url", .str st.targetUrl)]), w)
  | .remembered => (.ok (w.memory i), w)
  | .remember m => (.ok (), w.remember i m)
  | .utcNow => (.ok now, w)

theorem Publishers.serves_of_answer [DecidableEq ι] {url now : String} {lost : Bool}
    {request : PublicationRequest} {i : ι} {w w' : Publishers ι} {c : GitHubCall}
    {reply : Result c.Reply} (h : w.answer url now lost request i c = (reply, w')) :
    w.Serves request i c reply w' := by
  cases c with
  | findPullRequest repository head base =>
    cases h
    refine ⟨rfl, fun pr hpr => ?_⟩
    cases hpr
    cases w.github.pullRequest? repository head base <;> rfl
  | createPullRequest =>
    cases h
    refine .inr ⟨url, rfl, fun pr hpr => ?_⟩
    cases hpr
    rfl
  | createCommitStatus =>
    cases h
    exact .inr rfl
  | getCommitStatus repository sha context =>
    cases h
    refine ⟨rfl, fun st hst => ?_⟩
    cases hst
    cases w.github.status? repository sha context with
    | none => rfl
    | some st => exact ⟨rfl, rfl⟩
  | remembered => cases h; exact ⟨rfl, rfl⟩
  | remember => cases h; exact ⟨rfl, rfl⟩
  | utcNow => cases h; rfl

/-- One use of an instance: `publish`, or the calls of a commit. -/
structure PublishAttempt (ι : Type) where
  publisher : ι
  request : PublicationRequest
  commit : Option (Result Unit)

def PublishAttempt.program (py : Python) (a : PublishAttempt ι) (p : FixedGitHubPublisher) :
    GitHubProg PublicationResult :=
  match a.commit with
  | none => p.publish py a.request
  | some between => p.commitSequence py a.request between

/-- Attempts one after another, with what each of them ended in. -/
inductive Publications [DecidableEq ι] (py : Python) (publisher : ι → FixedGitHubPublisher) (w₀ : Publishers ι) :
    List (PublishAttempt ι × Result PublicationResult) → Publishers ι → Prop
  | start : Publications py publisher w₀ [] w₀
  | attempt {history : List (PublishAttempt ι × Result PublicationResult)} {w w' : Publishers ι}
      {log : List (Σ c : GitHubCall, Result c.Reply)} {r : Result PublicationResult}
      (h : Publications py publisher w₀ history w) (a : PublishAttempt ι)
      (hrun : (a.program py (publisher a.publisher)).Runs (Publishers.Serves a.request a.publisher) w log r w') :
      Publications py publisher w₀ (history ++ [(a, r)]) w'

/-- An attempt against a GitHub that computes its answers. -/
theorem Publications.exec [DecidableEq ι] {py : Python} {publisher : ι → FixedGitHubPublisher}
    {w₀ w w' : Publishers ι} {history : List (PublishAttempt ι × Result PublicationResult)}
    {r : Result PublicationResult} (h : Publications py publisher w₀ history w) (a : PublishAttempt ι)
    {url now : String} {lost : Bool}
    (hexec : (a.program py (publisher a.publisher)).exec
      (Publishers.answer url now lost a.request a.publisher) w = (r, w')) :
    Publications py publisher w₀ (history ++ [(a, r)]) w' := by
  obtain ⟨log, hrun⟩ := Prog.exec_runs (Publishers.answer url now lost a.request a.publisher)
    (a.program py (publisher a.publisher)) w
  rw [hexec] at hrun
  exact h.attempt a (hrun.mono fun _ _ _ _ hanswer => Publishers.serves_of_answer hanswer)

/-- Instances that have not been used. -/
def Publishers.fresh (g : GitHub) : Publishers ι := ⟨g, fun _ => {}⟩

end LineageTX
