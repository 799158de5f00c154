import LineageTX.AbortAttempt
import LineageTX.DisciplinedCalls
import LineageTX.HostAnswers
import LineageTX.ReceiptRecovery

/-! Attempts of one coordinator to abort a migration, each of which may fail anywhere: what
one leaves behind, what a reservation withholds from every commit, and the attempt without
a failure that ends them. -/
namespace LineageTX
open Library Store
variable {py : Python} {mid : String}

/-- Attempts one after the other, none of which recorded ABORTED. -/
inductive Attempts (co : Coordinator py) (mid : String) : Site py → Site py → Prop
  | start (w : Site py) : Attempts co mid w w
  | again {w w₁ w₂ : Site py} {log : List (Σ op : CoordinatorCall py, Result op.Reply)}
      {r : Result Coordinator.AbortOutcome} (earlier : Attempts co mid w w₁)
      (hrun : (co.abort mid).Runs (Site.Serves co True) w₁ log r w₂)
      (hopen : w₂.own.store.status? mid ≠ some .aborted) : Attempts co mid w w₂

section Store
variable {now : String} {s s' : Store}

/-- The cleanup is reserved, and the gate is not armed. -/
structure Store.Withheld (s : Store) (mid : String) : Prop where
  reserved : s.hasMigrationEvent mid abortReservedEvent = true
  unarmed : s.hasMigrationEvent mid gateArmedEvent = false

/-- A gate that is withheld stays so. -/
theorem Store.Withheld.step (h : s.Withheld mid) {c : StoreCall} (hc : c.Plain)
    (hrun : c.run py now s = .ok s') : s'.Withheld mid := by
  have hmoves := StoreCall.moves hrun mid
  have hsame : s'.race mid = s.race mid → s'.Withheld mid := fun he =>
    ⟨(congrArg Race.reserved he).trans h.reserved, (congrArg Race.armed he).trans h.unarmed⟩
  have hsides : (s'.race mid).armed = (s.race mid).armed →
      (s'.race mid).reserved = (s.race mid).reserved → s'.Withheld mid := fun harmed hreserved =>
    ⟨hreserved.trans h.reserved, harmed.trans h.unarmed⟩
  cases c with
  | createMigration i ps =>
    simp only [StoreCall.Moves] at hmoves
    split at hmoves
    · exact hsides (by rw [hmoves.2]) (by rw [hmoves.2])
    · exact hsame hmoves
  | armPublicationGate m v =>
    simp only [StoreCall.Moves] at hmoves
    split at hmoves
    · have hreserved : (s.race mid).reserved = true := h.reserved
      rw [hmoves.2.1] at hreserved
      cases hreserved
    · exact hsame hmoves
  | reserveAbortCleanup m e v =>
    simp only [StoreCall.Moves] at hmoves
    split at hmoves
    · have hside : (s'.race mid).reserved = true := by rw [hmoves.2.2]
      exact ⟨hside, (congrArg Race.armed hmoves.2.2).trans h.unarmed⟩
    · exact hsame hmoves
  | transitionMigration m target e v ev payload receipts =>
    simp only [StoreCall.Moves] at hmoves
    split at hmoves
    · have hrace := hmoves.2.2.2.2 hc
      exact hsides (by rw [hrace]) (by rw [hrace])
    · exact hsame hmoves
  | abortMigration m receipt e v =>
    simp only [StoreCall.Moves] at hmoves
    split at hmoves
    · exact hsides (by rw [hmoves.2.2.2.2]) (by rw [hmoves.2.2.2.2])
    · exact hsame hmoves
  | transitionParticipant => exact hsame (hmoves.2 hc)
  | recordApproval => exact hsame hmoves

theorem Store.Withheld.run (h : s.Withheld mid) {calls : List (String × StoreCall)}
    (hcalls : ∀ c ∈ calls, c.2.Plain) : (calls.foldl (storeStep py) s).Withheld mid := by
  have hrun : StatesMeet (storeStep py) (fun s => s.Withheld mid) s calls := by
    refine StatesMeet.of_step h fun s c hc hs => ?_
    rcases c.2.after_cases py c.1 s with hsame | hrun
    · rw [storeStep, hsame]
      exact hs
    · exact hs.step (hcalls c hc) hrun
  exact hrun.last

/-- What an attempt that did not record ABORTED leaves of the store. -/
theorem Coordinator.Reserving.kept (h : Coordinator.Reserving mid s s') :
    s'.migrations = s.migrations ∧ s'.participants = s.participants ∧
      s'.hasMigrationEvent mid gateArmedEvent = s.hasMigrationEvent mid gateArmedEvent := by
  rcases h with rfl | ⟨now, e, v, h⟩
  · exact ⟨rfl, rfl, rfl⟩
  · obtain ⟨row, -, -, -, -, ⟨-, rfl⟩ | rfl⟩ := reserveAbortCleanup_cases h
    · exact ⟨rfl, rfl, rfl⟩
    · exact ⟨rfl, rfl, by simp [reserved_ne_armed]⟩

theorem Store.Abortable.reserving {migration : MigrationRecord} (h : s.Abortable py mid migration)
    (hkept : Coordinator.Reserving mid s s') : s'.Abortable py mid migration := by
  obtain ⟨hmigrations, hparticipants, harmed⟩ := hkept.kept
  have hrow : s'.migrationRow? mid = s.migrationRow? mid := by
    rw [migrationRow?, migrationRow?, hmigrations]
  refine ⟨?_, h.open, harmed.trans h.unarmed, ?_, ?_⟩
  · rw [← h.found]
    simp only [getMigration, selectMigration, hrow]
  · rw [hmigrations]
    exact h.keys.migrations
  · rw [hparticipants]
    exact h.keys.participants

end Store

section Withholding
variable {services : (c : CoordinatorCall py) → Result c.Reply → Prop}

/-- The answers to a coordinator while other coordinators use the store before each call. -/
def AmongOthers (services : (c : CoordinatorCall py) → Result c.Reply → Prop)
    (w : CoordinatorState py) (op : CoordinatorCall py) (reply : Result op.Reply)
    (w' : CoordinatorState py) : Prop :=
  ∃ (calls : List (String × StoreCall)) (memory : CoordinatorMemory py), (∀ c ∈ calls, c.2.Plain) ∧
    Serves services ⟨calls.foldl (storeStep py) w.store, memory⟩ op reply w'

theorem AmongOthers.shared {w w' : CoordinatorState py} {op : CoordinatorCall py}
    {reply : Result op.Reply} (h : AmongOthers services w op reply w') :
    SharedServes services w op reply w' := by
  obtain ⟨calls, memory, -, h⟩ := h
  exact ⟨calls, memory, h⟩

theorem amongOthers_answers : Answers (@CoordinatorState.store py) (Returned services)
    (AmongOthers services) where
  notes h := sharedServes_answers.notes h.shared
  armed h := sharedServes_answers.armed h.shared
  reserved h := sharedServes_answers.reserved h.shared
  reconciled h := sharedServes_answers.reconciled h.shared
  released h := sharedServes_answers.released h.shared

/-- The calls of a careful coordinator are plain. -/
theorem plain_of_careful {returned : PublicationResult → Prop} {c : StoreCall} {s : Store}
    (h : (@CoordinatorCall.store py c).Careful returned mid s) : c.Plain := by
  cases c with
  | transitionMigration => exact h.1
  | transitionParticipant => exact h
  | _ => trivial

/-- A commit of a migration whose gate is withheld does not release the gate. -/
theorem no_release (co : Coordinator py) {w w' : CoordinatorState py}
    {log : List (Σ op : CoordinatorCall py, Result op.Reply)} {r : Result CommitOutcome}
    (hw : w.store.Withheld mid) (hrun : (co.commit mid).Runs (AmongOthers services) w log r w')
    (request : PublicationRequest) (stage : PublicationStage) (reply : Result PublicationResult) :
    ⟨.releaseGate request stage, reply⟩ ∉ log := by
  have halone := careful_alone (@Coordinator.commit_careful py mid _ _ _ w _ co
    (@amongOthers_answers py services))
  intro hmem
  have hfound := halone.found (I := fun w => w.store.Withheld mid)
    (fun w₁ op reply w₂ hw₁ hpre hserve => ?_) hrun hw hmem
  · obtain ⟨w₁, hwithheld, harmed⟩ := hfound
    exact absurd (hwithheld.unarmed.symm.trans harmed) (by decide)
  · obtain ⟨calls, memory, hplain, hserve⟩ := hserve
    have hothers := @Store.Withheld.run py _ _ hw₁ _ hplain
    rcases serves_store hserve with hsame | ⟨now, c, rfl, hstep⟩
    · rw [hsame]
      exact hothers
    · exact hothers.step (plain_of_careful hpre) hstep

end Withholding

section Attempt
variable {co : Coordinator py} {faults : Prop} {w w' : Site py}
  {log : List (Σ op : CoordinatorCall py, Result op.Reply)} {r : Result Coordinator.AbortOutcome}

theorem notes_of_serves {op : CoordinatorCall py} {reply : Result op.Reply}
    (h : w.Serves co faults op reply w') : w.own.store.Notes w'.own.store := by
  cases op with
  | store c =>
    obtain ⟨-, -, ⟨now, h⟩ | ⟨-, -, hsame⟩⟩ := h
    · split at h
      · next r t hanswer =>
        obtain ⟨-, rfl⟩ := h
        exact notes_of_events (StoreCall.events_append (StoreCall.run_of_answer hanswer))
      · rw [h.2]
        exact .refl _
    · rw [hsame]
      exact .refl _
  | remember u =>
    rw [h.2]
    exact .refl _
  | worktrees c =>
    rw [h.1]
    exact .refl _
  | read | recalled | evidence | utcNow =>
    rw [h.1]
    exact .refl _
  | _ =>
    rw [show w' = w from h]
    exact .refl _

/-- A reservation is there after the attempt that made it and after every later one. -/
theorem reserved_of_attempt (hrun : (co.abort mid).Runs (Site.Serves co faults) w log r w')
    (h : w.own.store.hasMigrationEvent mid abortReservedEvent = true ∨
      ∃ e v, ⟨.store (.reserveAbortCleanup mid e v), .ok ()⟩ ∈ log) :
    w'.own.store.hasMigrationEvent mid abortReservedEvent = true := by
  rcases h with hreserved | ⟨e, v, hmem⟩
  · exact hrun.invariant (I := fun w => w.own.store.hasMigrationEvent mid abortReservedEvent = true)
      (fun _ _ _ _ hserve hs => notes_of_serves hserve _ _ hs) hreserved
  · refine Coordinator.abort_guarded.established (I := fun _ => True)
      (J := fun w => w.own.store.hasMigrationEvent mid abortReservedEvent = true)
      (fun _ _ _ _ _ _ _ => trivial) (fun _ _ _ _ _ _ hserve hs => notes_of_serves hserve _ _ hs)
      (fun w₁ w₂ hserve _ _ => ?_) hrun trivial hmem
    obtain ⟨-, -, hanswer | ⟨-, ⟨_, he⟩, -⟩⟩ := hserve
    · obtain ⟨now, hanswer⟩ := hanswer.of_ok
      exact reserved_of_run (StoreCall.run_of_answer hanswer)
    · cases he

theorem reserving_of_attempt (hrun : (co.abort mid).Runs (Site.Serves co faults) w log r w')
    (hopen : w'.own.store.status? mid ≠ some .aborted) :
    Coordinator.Reserving mid w.own.store w'.own.store :=
  (Coordinator.abort_guarded.of_run hrun).store.resolve_left hopen

/-- What all attempts leave as the next one needs it. -/
theorem Attempts.kept {migration : MigrationRecord} (h : Attempts co mid w w')
    (hm : w.own.store.Abortable py mid migration) : w'.own.store.Abortable py mid migration ∧
      w'.own.memory = w.own.memory ∧ (co.Candidates mid w → co.Candidates mid w') := by
  induction h with
  | start => exact ⟨hm, rfl, id⟩
  | again _ hrun hopen ih =>
    obtain ⟨hm₁, hmemory, hkeep⟩ := ih
    have hattempt := Coordinator.abort_guarded.of_run hrun
    exact ⟨hm₁.reserving (reserving_of_attempt hrun hopen), hattempt.memory.trans hmemory,
      fun hc => hattempt.candidates (hkeep hc)⟩

/-- The rows of the migrations stay as they were. -/
theorem Attempts.migrations (h : Attempts co mid w w') :
    w'.own.store.migrations = w.own.store.migrations := by
  induction h with
  | start => rfl
  | again _ hrun hopen ih => exact (reserving_of_attempt hrun hopen).kept.1.trans ih

end Attempt

section Sample

/-- A base repository at some HEAD, with the candidate of one session of `readyMemory`. -/
def sampleHost (head : String) : GitHost where
  repo path :=
    if path = "/base" then {
      refs := fun ref => if ref = "refs/heads/lineagetx/m/a" then some "base" else none
      head, status := "", worktrees := [⟨"/worktrees/m/a", some "refs/heads/lineagetx/m/a"⟩] }
    else { refs := fun _ => none, head := "", status := "", worktrees := [] }
  reaches := (· = ·)
  resolve := id
  isPresent path := path = "/worktrees/m/a"

/-- The sample migration before its commit, at that host. -/
def sampleSite (head : String) : Site samplePython where
  own := { readyState with memory := { readyMemory with sessions := readyMemory.sessions.take 1 } }
  host := sampleHost head

/-- The answers of that site. -/
def siteAnswer (w : Site samplePython) :
    (c : CoordinatorCall samplePython) → Result c.Reply × Site samplePython
  | .worktrees c =>
    let done := (c.program samplePython ⟨testCoordinator.worktreesRoot⟩).exec GitHost.answer w.host
    (done.1, { w with host := done.2 })
  | c => ((sampleAnswer w.own c).1, { w with own := (sampleAnswer w.own c).2 })

/-- Where they are right. -/
def siteFits (w : Site samplePython) : CoordinatorCall samplePython → Bool
  | .worktrees c =>
    (c.program samplePython ⟨testCoordinator.worktreesRoot⟩).allFit GitHost.answer GitHost.fits w.host
  | .evidence _ => false
  | _ => true

theorem siteAnswer_serves {faults : Prop} (w : Site samplePython) (c : CoordinatorCall samplePython)
    (hc : siteFits w c = true) :
    Site.Serves testCoordinator faults w c (siteAnswer w c).1 (siteAnswer w c).2 := by
  cases c with
  | worktrees c => exact ⟨rfl, _, Prog.runs_of_allFit (GitHost.answer_serves faults) hc⟩
  | store c =>
    cases hanswer : c.answer samplePython noon w.own.store with
    | ok r =>
      simp only [siteAnswer, sampleAnswer, hanswer]
      exact ⟨rfl, rfl, .inl ⟨noon, by simp [hanswer]⟩⟩
    | error e =>
      simp only [siteAnswer, sampleAnswer, hanswer]
      exact ⟨rfl, rfl, .inl ⟨noon, by simp [hanswer]⟩⟩
  | read r => exact ⟨rfl, .inl rfl⟩
  | recalled => exact ⟨rfl, rfl⟩
  | remember u => exact ⟨rfl, rfl⟩
  | evidence c => cases hc
  | utcNow => exact ⟨rfl, show requireUtcTimestamp samplePython noon "recorded_at" = .ok () by decide +kernel⟩
  | _ => rfl

/-- The same answers, but for the reservation, which the store fails to write. -/
def unreservedAnswer (w : Site samplePython) :
    (c : CoordinatorCall samplePython) → Result c.Reply × Site samplePython
  | .store (.reserveAbortCleanup ..) => (raise (.other "OperationalError") "disk I/O error", w)
  | c => siteAnswer w c

theorem unreservedAnswer_serves (w : Site samplePython) (c : CoordinatorCall samplePython)
    (hc : siteFits w c = true) :
    Site.Serves testCoordinator True w c (unreservedAnswer w c).1 (unreservedAnswer w c).2 := by
  cases c with
  | store c =>
    cases c with
    | reserveAbortCleanup => exact ⟨rfl, rfl, .inr ⟨trivial, ⟨_, rfl⟩, rfl⟩⟩
    | _ => exact siteAnswer_serves w (.store _) hc
  | _ => exact siteAnswer_serves w _ hc

theorem amongOthers_sampleAnswer {w w' : CoordinatorState samplePython}
    {op : CoordinatorCall samplePython} {reply : Result op.Reply} (h : sampleAnswer w op = (reply, w')) :
    AmongOthers sampleServices w op reply w' :=
  ⟨[], w.memory, by simp, serves_of_sampleAnswer h⟩

/-- The call releases the gate. -/
def releasesGate : (Σ op : CoordinatorCall samplePython, Result op.Reply) → Bool
  | ⟨.releaseGate .., _⟩ => true
  | _ => false

theorem readyState_found : ∃ migration,
    readyState.store.getMigration samplePython ChangeIntent.sample.migrationId = .ok migration ∧
      migration.status.isTerminal = false := by
  have hopen : (readyState.store.getMigration samplePython
      ChangeIntent.sample.migrationId).toOption.any (fun m => !m.status.isTerminal) = true := by
    decide +kernel
  cases hfound : readyState.store.getMigration samplePython ChangeIntent.sample.migrationId with
  | error e =>
    rw [hfound] at hopen
    cases hopen
  | ok migration =>
    rw [hfound] at hopen
    exact ⟨migration, rfl, by simpa [Except.toOption] using hopen⟩

theorem readyState_store :
    readyState.store = (atNoon readyCalls).foldl (storeStep samplePython) {} := by
  simp only [readyState]

theorem sampleSite_store (head : String) : (sampleSite head).own.store = readyState.store := by
  simp only [sampleSite]

theorem readyState_abortable : ∃ migration,
    readyState.store.Abortable samplePython ChangeIntent.sample.migrationId migration := by
  obtain ⟨migration, hfound, hopen⟩ := readyState_found
  refine ⟨migration, hfound, hopen, by decide +kernel, ?_⟩
  rw [readyState_store]
  exact primaryKeys_run samplePython (atNoon readyCalls)

theorem sampleSite_unmerged (head : String) :
    ∀ t ∈ Coordinator.sessionsOf (sampleSite head).own.memory ChangeIntent.sample.migrationId,
      ¬(sampleSite head).host.Merged t := by
  have hsessions : Coordinator.sessionsOf (sampleSite head).own.memory
      ChangeIntent.sample.migrationId = (readyMemory.sessions.take 1).map Prod.snd := rfl
  rw [hsessions]
  rintro t ht ⟨tip, htip, hne, -⟩
  obtain rfl := List.mem_singleton.mp ht
  have hbase : ((sampleSite head).host.repo "/base").refs "refs/heads/lineagetx/m/a" = some "base" := rfl
  exact hne (Option.some.inj (htip.symm.trans hbase))

/-- The candidate of the sample is as `prepare` left it, its base where it was pinned. -/
theorem sampleSite_candidates :
    testCoordinator.Candidates ChangeIntent.sample.migrationId (sampleSite "base") := by
  have hsessions : Coordinator.sessionsOf (sampleSite "base").own.memory
      ChangeIntent.sample.migrationId = (readyMemory.sessions.take 1).map Prod.snd := rfl
  refine ⟨fun t ht => ?_, sampleSite_unmerged "base", fun t ht => ?_, fun t ht u hu _ => ?_⟩
  · rw [hsessions] at ht
    obtain rfl := List.mem_singleton.mp ht
    refine ⟨by decide +kernel, by decide +kernel, by decide +kernel, by decide +kernel, ?_, rfl, rfl, ?_⟩
    · intro w hw _ ref href
      obtain rfl := List.mem_singleton.mp hw
      exact (Option.mem_some.mp href).symm
    · exact fun hnone => absurd hnone (by decide +kernel)
  · rw [hsessions] at ht
    obtain rfl := List.mem_singleton.mp ht
    exact ⟨"m/a", rfl, show (_ && _ && _) = true by decide +kernel⟩
  · rw [hsessions] at ht hu
    rw [List.mem_singleton.mp ht, List.mem_singleton.mp hu]

/-- The reservation is not written, and a commit goes on to release the gate. -/
theorem unreserved_releases :
    ∃ log r w', (testCoordinator.abort ChangeIntent.sample.migrationId).Runs
        (Site.Serves testCoordinator True) ⟨readyState, sampleHost "base"⟩ log r w' ∧
      w'.own.store.status? ChangeIntent.sample.migrationId ≠ some .aborted ∧
      ∃ log' r' end' request stage reply, (testCoordinator.commit ChangeIntent.sample.migrationId).Runs
        (AmongOthers sampleServices) w'.own log' r' end' ∧ ⟨.releaseGate request stage, reply⟩ ∈ log' := by
  have hfits : (testCoordinator.abort ChangeIntent.sample.migrationId).allFit unreservedAnswer siteFits
      ⟨readyState, sampleHost "base"⟩ = true := by
    decide +kernel
  have hopen : ((testCoordinator.abort ChangeIntent.sample.migrationId).exec unreservedAnswer
      ⟨readyState, sampleHost "base"⟩).2.own.store.status? ChangeIntent.sample.migrationId ≠
        some .aborted := by
    decide +kernel
  have hreleases : ((testCoordinator.commit ChangeIntent.sample.migrationId).trace sampleAnswer
      ((testCoordinator.abort ChangeIntent.sample.migrationId).exec unreservedAnswer
        ⟨readyState, sampleHost "base"⟩).2.own).any releasesGate = true := by
    decide +kernel
  refine ⟨_, _, _, Prog.runs_of_allFit unreservedAnswer_serves hfits, hopen, ?_⟩
  have hcommit := (Prog.runs_exec sampleAnswer (testCoordinator.commit ChangeIntent.sample.migrationId)
    ((testCoordinator.abort ChangeIntent.sample.migrationId).exec unreservedAnswer
      ⟨readyState, sampleHost "base"⟩).2.own).mono fun _ _ _ _ h => amongOthers_sampleAnswer h
  obtain ⟨⟨op, reply⟩, hmem, hrelease⟩ := List.any_eq_true.mp hreleases
  cases op with
  | releaseGate request stage => exact ⟨_, _, _, request, stage, reply, hcommit, hmem⟩
  | _ => cases hrelease

/-- The base has moved, and an attempt without a failure does not record ABORTED. -/
theorem moved_stays_open :
    ∃ log r w', (testCoordinator.abort ChangeIntent.sample.migrationId).Runs
        (Site.Serves testCoordinator False) (sampleSite "later") log r w' ∧
      w'.own.store.status? ChangeIntent.sample.migrationId ≠ some .aborted := by
  have hfits : (testCoordinator.abort ChangeIntent.sample.migrationId).allFit siteAnswer siteFits
      (sampleSite "later") = true := by
    decide +kernel
  have hopen : ((testCoordinator.abort ChangeIntent.sample.migrationId).exec siteAnswer
      (sampleSite "later")).2.own.store.status? ChangeIntent.sample.migrationId ≠ some .aborted := by
    decide +kernel
  exact ⟨_, _, _, Prog.runs_of_allFit siteAnswer_serves hfits, hopen⟩

end Sample
end LineageTX
