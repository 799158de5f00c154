import LineageTX.RecordText

/-! The JSON columns as the text that the database file holds, and the reads of a caller:
a row is read through the text of its column, with the other columns laid over it. -/
namespace LineageTX
open Library
variable (py : Python)

/-- The text of a JSON column, read. -/
def readColumn (document : Json) : Result Json :=
  py.jsonLoads (.other "JSONDecodeError") "" (canonicalJson document)

/-- A text among the keyword arguments of a constructor. The records hold no other values
under these keywords. -/
def keywordText (m : List (String × Json)) (key : String) (default : Option String) :
    Result String :=
  match m.lookup key, default with
  | some (.str text), _ => .ok text
  | some _, _ => raise .typeError s!"argument '{key}' is not a text"
  | none, some text => .ok text
  | none, none => raise .typeError s!"missing a required argument: '{key}'"

def keywordMapping (m : List (String × Json)) (key : String) : Result (List (String × Json)) :=
  match m.lookup key with
  | some (.obj mapping) => .ok mapping
  | some _ => raise .typeError s!"argument '{key}' is not a mapping"
  | none => .ok []

def approvalKeywords : List String := [
  "migration_id", "participant_id", "owner_urn", "approved_mapping", "approved_at",
  "evidence_url", "verification"]

/-- `ApprovalReceipt(**value)` -/
def ApprovalReceipt.fromKeywords (value : Json) : Result ApprovalReceipt :=
  match value with
  | .obj m => do
    require (m.all fun e => approvalKeywords.contains e.1) .typeError
      "__init__() got an unexpected keyword argument"
    let receipt : ApprovalReceipt := {
      migrationId := ← keywordText m "migration_id" none
      participantId := ← keywordText m "participant_id" none
      ownerUrn := ← keywordText m "owner_urn" none
      approvedMapping := ← keywordText m "approved_mapping" none
      approvedAt := ← keywordText m "approved_at" none
      evidenceUrl := ← keywordText m "evidence_url" (some "")
      verification := ← keywordMapping m "verification" }
    receipt.postInit py
  | _ => raise .typeError "argument after ** must be a mapping"

namespace Store

/-- `get_migration` -/
def readMigration (s : Store) (migrationId : String) : Result MigrationRecord := do
  let row ← s.selectMigration migrationId
  migrationFromRow py { row with intentJson := ← readColumn py row.intentJson }

/-- `get_participant` -/
def readParticipant (s : Store) (participantId : String) : Result Participant := do
  let row ← s.selectParticipant participantId
  participantFromRow py { row with participantJson := ← readColumn py row.participantJson }

/-- `... WHERE migration_id = ? ORDER BY approved_at, participant_id, owner_urn` -/
def approvalRows (s : Store) (migrationId : String) : List ApprovalRow :=
  sortBy (fun a => toLex (a.approvedAt, toLex (a.participantId, a.ownerUrn)))
    (s.approvals.filter fun a => a.migrationId == migrationId)

def listApprovals (s : Store) (migrationId : String) : Result (List ApprovalReceipt) := do
  let _ ← s.readMigration py migrationId
  (s.approvalRows migrationId).mapM fun row => do
    ApprovalReceipt.fromKeywords py (← readColumn py row.receiptJson)

end Store

/-- What `str` shows of a list or of a mapping is neither an HTTPS URL nor a digest. -/
structure Python.ShowsContainers : Prop where
  url : ∀ j fieldName, requireHttpsUrl py (py.reprContainer j) fieldName ≠ .ok ()
  digest : ∀ j, isSha256Hex (py.reprContainer j) = false

/-- A receipt that the constructor has made, whose evidence is a JSON document. -/
structure ApprovalReceipt.Valid (r : ApprovalReceipt) : Prop where
  constructed : r.postInit py = .ok r
  evidence : py.Loaded (.obj r.verification)

/-- Two receipts are equal in Python: their evidence up to the order of its keys. -/
structure ApprovalReceipt.Same (r r' : ApprovalReceipt) : Prop where
  fields : { r with verification := [] } = { r' with verification := [] }
  verification : SameDocument (.obj r.verification) (.obj r'.verification)

/-- The receipt with its evidence in the order of the text. -/
def ApprovalReceipt.ordered (r : ApprovalReceipt) : ApprovalReceipt :=
  { r with verification := (sortBy Prod.fst r.verification).map fun e => (e.1, Json.sortKeys e.2) }

section Reads
variable {py}

theorem readColumn_eq {document : Json} (h : py.Loaded document) :
    readColumn py document = .ok (Json.sortKeys document) :=
  jsonLoads_canonicalJson h

theorem ApprovalReceipt.ordered_same (r : ApprovalReceipt) : r.ordered.Same r := by
  refine ⟨rfl, ?_⟩
  rw [SameDocument, ordered, ← Json.sortKeys_obj]
  exact Json.sortKeys_sortKeys _

theorem ApprovalReceipt.fromKeywords_toDict (r : ApprovalReceipt) :
    ApprovalReceipt.fromKeywords py r.toDict = r.postInit py := rfl

theorem ApprovalReceipt.sortKeys_toDict (r : ApprovalReceipt) :
    Json.sortKeys r.toDict = r.ordered.toDict := by
  rw [toDict, Json.sortKeys_obj, sortBy_of_pairwise (by simp)]
  simp only [List.map_cons, List.map_nil, Json.sortKeys_obj]
  rfl

theorem ApprovalReceipt.Valid.toDict_loaded {r : ApprovalReceipt} (h : r.Valid py) :
    py.Loaded r.toDict := by
  refine loaded_obj.mpr ⟨by simp, ?_⟩
  simp [loaded_str, h.evidence]

/-- A value whose text passes a check that no container passes is a value that is not
reordered. -/
theorem sortKeys_of_text {P : String → Prop} (hP : ∀ j, ¬P (py.reprContainer j))
    {value : Json} (h : P (py.str value)) : Json.sortKeys value = value := by
  cases value with
  | arr xs => exact absurd h (hP _)
  | obj m => exact absurd h (hP _)
  | _ => rfl

/-- Evidence that passed its check passes it again in the order of its text. -/
theorem checkVerification_ordered (hshown : py.ShowsContainers) {r : ApprovalReceipt}
    (hkeys : (r.verification.map Prod.fst).Nodup) (h : checkVerification py r.verification = .ok ()) :
    checkVerification py r.ordered.verification = .ok () := by
  have hitem : ∀ key value, getItem (.obj r.verification) key = .ok value →
      Json.sortKeys value = value → getItem (.obj r.ordered.verification) key = .ok value := by
    intro key value hfound hvalue
    rw [getItem_eq_ok] at hfound ⊢
    have hsorted := Json.get?_sortKeys hkeys key
    rw [Json.sortKeys_obj] at hsorted
    rw [ApprovalReceipt.ordered, hsorted]
    rw [Json.get?_obj] at hfound
    rw [hfound, Option.map_some, hvalue]
  have hperm : (r.ordered.verification.map Prod.fst).Perm (r.verification.map Prod.fst) := by
    rw [ApprovalReceipt.ordered, List.map_map]
    exact (sortBy_perm Prod.fst r.verification).map Prod.fst
  simp only [checkVerification, bind_eq_ok, require_eq_ok] at h ⊢
  obtain ⟨_, hnames, url, hurl, _, hhttps, provider, hprovider, _, hgithub, digest, hdigest, hhex⟩ := h
  have hurl' := hitem _ _ hurl (sortKeys_of_text
    (P := fun text => requireHttpsUrl py text "approval verification source_api_url" = .ok ())
    (fun j => hshown.url j _) hhttps)
  have hprovider' : Json.sortKeys provider = provider := by
    rw [beq_iff_eq.mp hgithub]
    rfl
  have hdigest' := hitem _ _ hdigest
    (sortKeys_of_text (P := fun text => isSha256Hex text = true) (by simp [hshown.digest]) hhex)
  refine ⟨(), ?_, url, hurl', (), hhttps, provider, hitem _ _ hprovider hprovider', (), hgithub,
    digest, hdigest', hhex⟩
  simp only [Bool.and_eq_true, List.all_eq_true, List.contains_iff_mem] at hnames ⊢
  exact ⟨fun key hkey => hnames.1 key (hperm.mem_iff.mp hkey),
    fun key hkey => hperm.mem_iff.mpr (hnames.2 key hkey)⟩

/-- What is read of the document of a receipt is that receipt. -/
theorem ApprovalReceipt.Valid.read_eq (hshown : py.ShowsContainers) {r : ApprovalReceipt}
    (h : r.Valid py) : (do ApprovalReceipt.fromKeywords py (← readColumn py r.toDict)) =
      .ok r.ordered := by
  have hkeys : (r.verification.map Prod.fst).Nodup := (loaded_obj.mp h.evidence).1
  have hconstructed := h.constructed
  rw [readColumn_eq h.toDict_loaded, ok_bind, r.sortKeys_toDict, fromKeywords_toDict]
  simp only [postInit, bind_eq_ok, require_eq_ok, onlyIf_eq_ok] at hconstructed ⊢
  obtain ⟨_, h₁, _, h₂, _, h₃, _, h₄, _, h₅, _, h₆, -⟩ := hconstructed
  refine ⟨(), h₁, (), h₂, (), h₃, (), h₄, (), h₅, (), fun hsome => ?_, rfl⟩
  refine checkVerification_ordered hshown hkeys (h₆ fun hnone => hsome ?_)
  rw [ordered, hnone]
  rfl

end Reads

end LineageTX
