import LineageTX.AbortStore
import LineageTX.CandidateCleanup
import LineageTX.CoordinatorRuns

/-! One attempt to abort a migration, at the store and the repositories: whose candidates
it touches, what it writes, and that an attempt without a failure succeeds. -/
namespace LineageTX
open Library Store
variable {py : Python}

/-- A coordinator at its store, with the repositories that it works on. -/
structure Site (py : Python) where
  own : CoordinatorState py
  host : GitHost

/-- The answer of the store at some time of day. -/
def StoreCall.Answered (py : Python) (c : StoreCall) (s : Store) (reply : Result c.Returned)
    (s' : Store) : Prop :=
  ∃ now, match c.answer py now s with
    | .ok (r, t) => reply = .ok r ∧ s' = t
    | .error e => reply = .error e ∧ s' = s

theorem StoreCall.Answered.of_ok {c : StoreCall} {s s' : Store} {r : c.Returned}
    (h : c.Answered py s (.ok r) s') : ∃ now, c.answer py now s = .ok (r, s') := by
  obtain ⟨now, h⟩ := h
  refine ⟨now, ?_⟩
  split at h
  · next r' t hanswer =>
    obtain ⟨hr, rfl⟩ := h
    cases hr
    exact hanswer
  · cases h.1

theorem StoreCall.Answered.of_error {c : StoreCall} {s s' : Store} {e : Exn}
    (h : c.Answered py s (.error e) s') : s' = s ∧ ∃ now, c.answer py now s = .error e := by
  obtain ⟨now, h⟩ := h
  split at h
  · cases h.1
  · next e' hanswer =>
    obtain ⟨he, rfl⟩ := h
    cases he
    exact ⟨rfl, now, hanswer⟩

/-- The calls of an abort; the worktree manager works on the repositories, and the store
and the evidence fail only where faults are possible. -/
def Site.Serves (co : Coordinator py) (faults : Prop) (w : Site py) :
    (c : CoordinatorCall py) → Result c.Reply → Site py → Prop
  | .store c, reply, w' => w'.host = w.host ∧ w'.own.memory = w.own.memory ∧
      (c.Answered py w.own.store reply w'.own.store ∨
        faults ∧ (∃ e, reply = .error e) ∧ w'.own.store = w.own.store)
  | .read r, reply, w' => w' = w ∧ (reply = r.answer py w.own.store ∨ faults ∧ ∃ e, reply = .error e)
  | .recalled, reply, w' => w' = w ∧ reply = .ok w.own.memory
  | .remember u, reply, w' => reply = .ok () ∧
      w' = { w with own := { w.own with memory := u.apply w.own.memory } }
  | .worktrees c, reply, w' => w'.own = w.own ∧ ∃ log,
      (c.program py ⟨co.worktreesRoot⟩).Runs (GitHost.Serves faults) w.host log reply w'.host
  | .evidence _, reply, w' => w' = w ∧ Told faults (fun _ => True) reply
  | .utcNow, reply, w' => w' = w ∧
      Told False (fun now => requireUtcTimestamp py now "recorded_at" = .ok ()) reply
  | _, _, w' => w' = w

/-- What a candidate's entry in a cleanup receipt must be. -/
def IsPortable (worktree : String) : Prop :=
  (!isAbsolutePath worktree && !(pathParts worktree).contains ".." && pathParts worktree ≠ []) = true

/-- The candidates of a migration: what an abort can clean up, none of them merged. -/
structure Coordinator.Candidates (co : Coordinator py) (mid : String) (w : Site py) : Prop where
  cleanable : ∀ t ∈ sessionsOf w.own.memory mid, w.host.Cleanable ⟨co.worktreesRoot⟩ t
  unmerged : ∀ t ∈ sessionsOf w.own.memory mid, ¬w.host.Merged t
  portable : ∀ t ∈ sessionsOf w.own.memory mid, ∃ rel,
    relativeTo t.worktree co.worktreesRoot = .ok rel ∧ IsPortable rel
  distinct : ∀ t ∈ sessionsOf w.own.memory mid, ∀ u ∈ sessionsOf w.own.memory mid,
    t.branch = u.branch → t.worktree = u.worktree

/-- The calls that an abort of the migration makes. -/
def AbortCalls (mid : String) (w : Site py) : CoordinatorCall py → Prop
  | .worktrees (.abort session) => session ∈ Coordinator.sessionsOf w.own.memory mid
  | .store (.reserveAbortCleanup m _ _) | .store (.abortMigration m _ _ _) => m = mid
  | .worktrees _ | .store _ | .remember _ => False
  | _ => True

/-- An abort at a site that nobody else changes. -/
abbrev AtSite (co : Coordinator py) (faults : Prop) (mid : String) :
    Contract (Site py) Exn (@CoordinatorCall.Reply py) :=
  .alone (Site.Serves co faults) (AbortCalls mid)

namespace Coordinator
variable {co : Coordinator py} {faults : Prop} {mid : String} {w w' : Site py}

theorem Candidates.abort (hc : co.Candidates mid w) {session : RepositorySession}
    (hmem : session ∈ sessionsOf w.own.memory mid) (hown : w'.own = w.own)
    (he : w.host.Erases session w'.host) : co.Candidates mid w' := by
  refine ⟨?_, ?_, ?_, ?_⟩
  · rw [hown]
    exact fun t ht => (hc.cleanable t ht).erases he fun hb => hc.distinct t ht session hmem hb
  · rw [hown]
    exact fun t ht hm => hc.unmerged t ht (hm.of_shrinks he.shrinks)
  · rw [hown]
    exact hc.portable
  · rw [hown]
    exact hc.distinct

/-- The cleanup of one candidate. -/
theorem cleanUp_guarded {session : RepositorySession}
    (hmem : session ∈ sessionsOf w.own.memory mid) :
    (co.cleanUp session).Guarded (AtSite co faults mid) (fun r w' => w'.own = w.own ∧
      w.host.Erases session w'.host ∧ Told (co.Candidates mid w → faults)
        (fun entry => co.Candidates mid w → w'.host.Gone session ∧ IsPortable entry.1 ∧
          startsWith entry.2 "lineagetx/" = true) r) w := by
  refine Prog.Guarded.bind (Prog.Guarded.perform_alone hmem fun r w' hr => ?_)
  obtain ⟨hown, log, hrun⟩ := hr
  obtain ⟨herases, hends⟩ := (WorktreeManager.abort_guarded _).of_run hrun
  cases r with
  | error e => exact ⟨hown, herases, fun hc =>
      hends (hc.cleanable session hmem) (hc.unmerged session hmem)⟩
  | ok _ =>
    refine Prog.Guarded.lift_bind (fun e he => ⟨hown, herases, fun hc => ?_⟩) fun rel hrel =>
      ⟨hown, herases, fun hc => ⟨hends (hc.cleanable session hmem), ?_,
        (hc.cleanable session hmem).named⟩⟩
    · obtain ⟨rel, hrel, -⟩ := hc.portable session hmem
      rw [he] at hrel
      cases hrel
    · obtain ⟨rel', hrel', hportable⟩ := hc.portable session hmem
      cases hrel.symm.trans hrel'
      exact hportable

theorem Candidates.congr (hc : co.Candidates mid w) (hown : w'.own.memory = w.own.memory)
    (hhost : w'.host = w.host) : co.Candidates mid w' := by
  obtain ⟨hcleanable, hunmerged, hportable, hdistinct⟩ := hc
  rw [← hown] at hcleanable hunmerged hportable hdistinct
  rw [← hhost] at hcleanable hunmerged
  exact ⟨hcleanable, hunmerged, hportable, hdistinct⟩

/-- What the cleanups came to, if they found candidates that can be cleaned up and no
fault came in between. -/
structure Cleaned (w : Site py) (sessions : List RepositorySession) (removed : List (String × String))
    (errors : List String) : Prop where
  noError : errors = []
  gone : ∀ t ∈ sessions, w.host.Gone t
  portable : ∀ entry ∈ removed, IsPortable entry.1
  named : ∀ entry ∈ removed, startsWith entry.2 "lineagetx/" = true

/-- The cleanups one after the other; a failing one does not stop the others. -/
theorem cleanUpAll_guarded {sessions : List RepositorySession}
    (hmem : ∀ t ∈ sessions, t ∈ sessionsOf w.own.memory mid) :
    (co.cleanUpAll sessions).Guarded (AtSite co faults mid) (fun r w' => w'.own = w.own ∧
      w.host.Shrinks w'.host ∧ (co.Candidates mid w → co.Candidates mid w') ∧
      ∃ removed errors, r = .ok (removed, errors) ∧
        (co.Candidates mid w → faults ∨ Cleaned w' sessions removed errors)) w := by
  induction sessions generalizing w with
  | nil =>
    exact ⟨rfl, .refl _, id, [], [], rfl, fun _ => .inr ⟨rfl, by simp, by simp, by simp⟩⟩
  | cons session rest ih =>
    have hsession := hmem session (by simp)
    refine Prog.Guarded.bind (Prog.Guarded.attempt ((cleanUp_guarded hsession).mono fun r w₁ hr => ?_))
    obtain ⟨hown, herases, hr⟩ := hr
    have hkeep : co.Candidates mid w → co.Candidates mid w₁ := fun hc => hc.abort hsession hown herases
    refine Prog.Guarded.bind ((ih fun t ht => by
      rw [hown]; exact hmem t (List.mem_cons_of_mem _ ht)).mono fun r₂ w₂ hr₂ => ?_)
    obtain ⟨hown₂, hshrinks, hkeep₂, removed, errors, rfl, hcleaned⟩ := hr₂
    have hboth : w₂.own = w.own ∧ w.host.Shrinks w₂.host ∧
        (co.Candidates mid w → co.Candidates mid w₂) :=
      ⟨hown₂.trans hown, herases.shrinks.trans hshrinks, fun hc => hkeep₂ (hkeep hc)⟩
    cases r with
    | error e =>
      exact ⟨hboth.1, hboth.2.1, hboth.2.2, removed, _, rfl, fun hc => .inl (hr hc)⟩
    | ok entry =>
      refine ⟨hboth.1, hboth.2.1, hboth.2.2, entry :: removed, errors, rfl, fun hc => ?_⟩
      obtain ⟨hgone, hportable, hnamed⟩ := hr hc
      refine (hcleaned (hkeep hc)).imp id fun hrest => ⟨hrest.noError, ?_, ?_, ?_⟩
      · exact List.forall_mem_cons.mpr ⟨hgone.shrinks hshrinks, hrest.gone⟩
      · exact List.forall_mem_cons.mpr ⟨hportable, hrest.portable⟩
      · exact List.forall_mem_cons.mpr ⟨hnamed, hrest.named⟩

/-- A cleanup receipt that holds what it may hold. -/
theorem postInit_receipt {r : AbortCleanupReceipt}
    (hnow : requireUtcTimestamp py r.recordedAt "recorded_at" = .ok ())
    (hportable : ∀ value ∈ r.worktreesRemoved, IsPortable value)
    (hnamed : ∀ value ∈ r.candidateBranchesDeleted, startsWith value "lineagetx/" = true)
    (hrolled : r.deployedSystemsRolledBack = false) : r.postInit py = .ok r := by
  simp only [AbortCleanupReceipt.postInit, bind_eq_ok, require_eq_ok]
  exact ⟨(), hnow, (), List.all_eq_true.mpr hportable, (), List.all_eq_true.mpr hnamed, (),
    by rw [hrolled]; rfl, rfl⟩

/-- The cleanup of a reserved abort; its receipt is free of errors if no fault came in
between. -/
theorem cleanupReceipt_guarded : (co.cleanupReceipt mid).Guarded (AtSite co faults mid)
    (fun r w' => w'.own = w.own ∧ (co.Candidates mid w → co.Candidates mid w') ∧
      Told (co.Candidates mid w → faults) (fun receipt => co.Candidates mid w → faults ∨
        receipt.migrationId = mid ∧ receipt.cleanupErrors = [] ∧
          ∀ t ∈ sessionsOf w.own.memory mid, w'.host.Gone t) r) w := by
  refine Prog.Guarded.perform_bind trivial (fun e w' hr => ?_) fun memory w' hr => ?_
  · cases hr.2
  obtain ⟨rfl, hmemory⟩ := hr
  cases hmemory
  refine Prog.Guarded.bind ((cleanUpAll_guarded fun t ht => ht).mono fun r w₁ hr => ?_)
  obtain ⟨hown, -, hkeep, removed, errors, rfl, hcleaned⟩ := hr
  refine Prog.Guarded.perform_bind trivial (fun e w₂ hr => hr.2.elim) fun now w₂ hr => ?_
  obtain ⟨rfl, hnow⟩ := hr
  change requireUtcTimestamp py now "recorded_at" = .ok () at hnow
  refine Prog.Guarded.lift ⟨hown, hkeep, ?_⟩
  cases hreceipt : AbortCleanupReceipt.postInit py {
      migrationId := mid, worktreesRemoved := sortBy id (removed.map Prod.fst)
      candidateBranchesDeleted := sortBy id (removed.map Prod.snd)
      cleanupErrors := sortBy id errors, recordedAt := now } with
  | error e =>
    intro hc
    refine (hcleaned hc).elim id fun h => ?_
    rw [postInit_receipt hnow ?_ ?_ rfl] at hreceipt
    · cases hreceipt
    · intro value hvalue
      obtain ⟨entry, hentry, rfl⟩ := List.mem_map.mp ((mem_sortBy _ _ _).mp hvalue)
      exact h.portable entry hentry
    · intro value hvalue
      obtain ⟨entry, hentry, rfl⟩ := List.mem_map.mp ((mem_sortBy _ _ _).mp hvalue)
      exact h.named entry hentry
  | ok receipt =>
    intro hc
    refine (hcleaned hc).imp id fun h => ?_
    simp only [AbortCleanupReceipt.postInit, bind_eq_ok] at hreceipt
    obtain ⟨_, -, _, -, _, -, _, -, hreceipt⟩ := hreceipt
    cases hreceipt
    refine ⟨rfl, ?_, h.gone⟩
    rw [h.noError]
    rfl

theorem record_told (calls : List EvidenceCall) : (co.record calls).Guarded (AtSite co faults mid)
    (fun r w' => w' = w ∧ Told faults (fun _ => True) r) w := by
  unfold record Prog.onlyWhen
  split
  · induction calls with
    | nil => exact ⟨rfl, trivial⟩
    | cons c calls ih =>
      refine Prog.Guarded.bind_told (Prog.Guarded.perform_alone trivial fun _ _ hr => hr)
        (fun hf e => ⟨rfl, hf⟩) fun _ _ => ih
  · exact ⟨rfl, trivial⟩

/-- What an attempt leaves of the store, unless it recorded ABORTED. -/
def Reserving (mid : String) (s s' : Store) : Prop :=
  s' = s ∨ ∃ now e v, s.reserveAbortCleanup now mid e v = .ok s'

/-- What an attempt leaves, and what one without a failure achieves. -/
structure Attempted (co : Coordinator py) (faults : Prop) (mid : String) (w w' : Site py) : Prop where
  memory : w'.own.memory = w.own.memory
  candidates : co.Candidates mid w → co.Candidates mid w'
  store : w'.own.store.status? mid = some .aborted ∨ Reserving mid w.own.store w'.own.store
  settled : ∀ migration, co.Candidates mid w → w.own.store.Abortable py mid migration → faults ∨
    w'.own.store.status? mid = some .aborted ∧ ∀ t ∈ sessionsOf w.own.memory mid, w'.host.Gone t

theorem attempted_of_same (hown : w'.own.memory = w.own.memory) (hhost : w'.host = w.host)
    (hstore : Reserving mid w.own.store w'.own.store)
    (hf : ∀ migration, w.own.store.Abortable py mid migration → faults) :
    Attempted co faults mid w w' :=
  ⟨hown, fun hc => hc.congr hown hhost, .inr hstore, fun m _ hm => .inl (hf m hm)⟩

theorem serves_quiet {op : CoordinatorCall py} {reply : Result op.Reply} (hop : op.Quiet)
    (h : w.Serves co faults op reply w') : w' = w := by
  cases op with
  | read | recalled | evidence | utcNow => exact h.1
  | store | remember | worktrees | runAdapter | stage | reconcile | releaseGate => exact hop.elim
  | readSession | propose | assertImpactUnchanged | writeAssets | verify => exact h

/-- What follows the recorded ABORTED changes nothing more. -/
theorem quiet_guarded {α : Type} {p : CoordinatorProg py α} {φ : Site py → Prop}
    (hp : p.Calls CoordinatorCall.Quiet) (hw : φ w) :
    p.Guarded (AtSite co faults mid) (fun _ w' => φ w') w := by
  refine hp.guarded hw (fun op w w' hr hφ => ?_) (fun op r w w' hop _ hφ hcan => ?_)
    fun op w hop _ _ => ?_
  · cases hr
    exact hφ
  · cases serves_quiet hop hcan
    exact hφ
  · cases op with
    | store | remember | worktrees | runAdapter | stage | reconcile | releaseGate => exact hop.elim
    | read | recalled | evidence | utcNow | readSession | propose | assertImpactUnchanged
    | writeAssets | verify => exact trivial

theorem abort_guarded : (co.abort mid).Guarded (AtSite co faults mid)
    (fun _ w' => Attempted co faults mid w w') w := by
  refine Prog.Guarded.perform_bind trivial (fun e w₁ hr => ?_) fun migration w₁ hr => ?_
  · obtain ⟨rfl, hr⟩ := hr
    refine attempted_of_same rfl rfl (.inl rfl) fun m hm => hr.elim (fun he => ?_) And.left
    cases he.trans hm.found
  obtain ⟨rfl, hr⟩ := hr
  have hread : faults ∨ w₁.own.store.getMigration py mid = .ok migration :=
    hr.elim (fun h => .inr h.symm) fun h => .inl h.1
  refine require_guarded (fun hclosed e => ?_) fun _ => ?_
  · refine attempted_of_same rfl rfl (.inl rfl) fun m hm => hread.elim id fun hfound => ?_
    cases hm.found.symm.trans hfound
    rw [hm.open] at hclosed
    cases hclosed
  refine Prog.Guarded.perform_bind rfl (fun e w₂ hr => ?_) fun _ w₂ hr => ?_
  · obtain ⟨hhost, hmemory, hr⟩ := hr
    have hstore : w₂.own.store = w₁.own.store := hr.elim (fun h => h.of_error.1) fun h => h.2.2
    refine attempted_of_same hmemory hhost (.inl hstore) fun m hm => ?_
    refine hread.elim id fun hfound => hr.elim (fun h => ?_) And.left
    cases hm.found.symm.trans hfound
    obtain ⟨now, hanswer⟩ := h.of_error.2
    obtain ⟨t, ht, -⟩ := @reserveAbortCleanup_ok _ now _ _ _ hm
    simp only [StoreCall.answer, ht] at hanswer
    cases hanswer
  obtain ⟨hhost, hmemory, hr⟩ := hr
  have hreserve : ∃ now, w₁.own.store.reserveAbortCleanup now mid migration.status
      migration.version = .ok w₂.own.store := by
    rcases hr with h | ⟨-, ⟨e, he⟩, -⟩
    · obtain ⟨now, hanswer⟩ := h.of_ok
      simp only [StoreCall.answer, bind_eq_ok] at hanswer
      obtain ⟨t, ht, hanswer⟩ := hanswer
      cases hanswer
      exact ⟨now, ht⟩
    · cases he
  obtain ⟨now, hreserve⟩ := hreserve
  have hopen : ∀ m, w₁.own.store.Abortable py mid m →
      faults ∨ w₂.own.store.Abortable py mid migration := by
    intro m hm
    refine hread.imp id fun hfound => ?_
    cases hm.found.symm.trans hfound
    obtain ⟨t, ht, hopen⟩ := reserveAbortCleanup_ok hm
    cases hreserve.symm.trans ht
    exact hopen
  have hcandidates : co.Candidates mid w₁ → co.Candidates mid w₂ := fun hc => hc.congr hmemory hhost
  refine Prog.Guarded.bind (cleanupReceipt_guarded.mono fun r w₃ hr => ?_)
  obtain ⟨hown, hkeep, hr⟩ := hr
  have hleft : w₃.own.memory = w₁.own.memory ∧ (co.Candidates mid w₁ → co.Candidates mid w₃) ∧
      Reserving mid w₁.own.store w₃.own.store := by
    rw [hown]
    exact ⟨hmemory, fun hc => hkeep (hcandidates hc), .inr ⟨now, _, _, hreserve⟩⟩
  cases r with
  | error e => exact ⟨hleft.1, hleft.2.1, .inr hleft.2.2, fun m hc _ => .inl (hr (hcandidates hc))⟩
  | ok receipt =>
    have hreceipt : co.Candidates mid w₁ → faults ∨ receipt.migrationId = mid ∧
        receipt.cleanupErrors = [] ∧ ∀ t ∈ sessionsOf w₁.own.memory mid, w₃.host.Gone t := by
      intro hc
      have hclean := hr (hcandidates hc)
      rwa [hmemory] at hclean
    refine Prog.Guarded.bind_told (record_told _) (fun hf e => ?_) fun _ _ => ?_
    · exact ⟨hleft.1, hleft.2.1, .inr hleft.2.2, fun _ _ _ => .inl hf⟩
    refine Prog.Guarded.perform_bind rfl (fun e w₄ hr₄ => ?_) fun aborted w₄ hr₄ => ?_
    · obtain ⟨hhost₄, hmemory₄, hr₄⟩ := hr₄
      have hstore₄ : w₄.own.store = w₃.own.store := hr₄.elim (fun h => h.of_error.1) fun h => h.2.2
      refine ⟨hmemory₄.trans hleft.1, fun hc => (hleft.2.1 hc).congr hmemory₄ hhost₄,
        .inr (hstore₄ ▸ hleft.2.2), fun m hc hm => ?_⟩
      refine (hopen m hm).elim .inl fun hm₂ => (hreceipt hc).elim .inl fun hclean => ?_
      refine hr₄.elim (fun h => ?_) fun h => .inl h.1
      obtain ⟨now', hanswer⟩ := h.of_error.2
      rw [hown] at hanswer
      obtain ⟨r, hr, -⟩ := @abortMigration_ok _ now' _ _ _ _ hm₂ hclean.1 hclean.2.1
      simp only [StoreCall.answer, hr] at hanswer
      cases hanswer
    · obtain ⟨hhost₄, hmemory₄, hr₄⟩ := hr₄
      have haborted : w₄.own.store.status? mid = some .aborted := by
        rcases hr₄ with h | ⟨-, ⟨e, he⟩, -⟩
        · obtain ⟨now', hanswer⟩ := h.of_ok
          have hmoves := StoreCall.moves (StoreCall.run_of_answer hanswer) mid
          simp only [StoreCall.Moves, if_true] at hmoves
          exact congrArg Race.status hmoves.2.2.2.2
        · cases he
      have hdone : Attempted co faults mid w₁ w₄ := by
        refine ⟨hmemory₄.trans hleft.1, fun hc => (hleft.2.1 hc).congr hmemory₄ hhost₄, .inl haborted,
          fun m hc hm => (hreceipt hc).imp id fun hclean => ⟨haborted, ?_⟩⟩
        rw [hhost₄]
        exact hclean.2.2
      refine quiet_guarded ?_ hdone
      refine .bind (.tryCatch (writeback_quiet _ _ _) fun e => ?_) fun _ => ?_
      · exact .bind (record_quiet _) fun _ => trivial
      · exact .bind (record_quiet _) fun _ => trivial

end Coordinator
end LineageTX
