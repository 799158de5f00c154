import LineageTX.Writeback

/-! The two checks of a refreshed context. The coordinator compares fingerprints,
which forget the order of the consumers; the writer compares the ordered tuple of
assets. They agree exactly if both contexts list the hops in one order. -/
namespace LineageTX
open Library
variable {py : Python}

theorem validateRefreshedContext_eq_ok {w : Writer py} {c : ContextObject py} :
    w.validateRefreshedContext (some c) = .ok () ↔ c.ident ≠ w.context.ident ∧
      c.data.discoveryComplete = true ∧ c.data.assetUrns = w.context.data.assetUrns ∧
      c.data.impactFingerprint = w.context.data.impactFingerprint ∧
      c.data.transport = w.context.data.transport := by
  simp only [Writer.validateRefreshedContext, Writer.entityUrns, bind_eq_ok, require_eq_ok,
    decide_eq_true_iff, exists_const]
  exact and_congr .rfl (and_congr .rfl (and_congr decide_eq_true_iff .rfl))

theorem checkComplete_degrees {d : ContextData} (h : d.checkComplete = .ok ())
    (hlen : d.consumers.length = 3) : d.degrees.Nodup := by
  simp only [ContextData.checkComplete, bind_eq_ok, require_eq_ok] at h
  obtain ⟨_, hdeg, -⟩ := h
  simp only [Bool.and_eq_true, decide_eq_true_eq] at hdeg
  exact Reader.nodup_of_dedup_length (hdeg.1.trans (by simp [ContextData.degrees, hlen]))

/-- The hops of a complete context are told apart by their degrees. -/
theorem degrees_nodup {c : ContextObject py} (hc : c.data.discoveryComplete = true) :
    c.data.degrees.Nodup := by
  obtain ⟨-, hlen, -, -, hcomplete⟩ := Reader.postInit_eq_ok c.valid
  exact checkComplete_degrees (hcomplete hc) (by simpa [ContextData.assetUrns] using hlen)

/-- A refreshed read that the coordinator accepts passes the writer's check exactly
if it lists the consumers in the hop order of the frozen context. -/
theorem refresh_accepted_iff_same_hops (py : Python) (hinj : Function.Injective py.sha256)
    (w : Writer py) (r : Reader) (s t : ReadState) (c : ContextObject py)
    (hload : r.load py w.context.data.sourceUrn w.context.data.sourceColumn
      w.context.data.replacementColumn s = .ok (c.data, t))
    (haccept : acceptsRefresh w.context c = true)
    (htransport : c.data.transport = w.context.data.transport) :
    w.validateRefreshedContext (some c) = .ok () ↔ c.data.degrees = w.context.data.degrees := by
  obtain ⟨lineage, -, -, -, hl⟩ := Reader.load_loaded hload
  obtain ⟨entity, hb⟩ := hl.built
  simp only [acceptsRefresh, Bool.and_eq_true, decide_eq_true_eq] at haccept
  obtain ⟨⟨hnew, hcomplete⟩, hfp⟩ := haccept
  have hperm := consumers_perm_of_fingerprint hinj hl.sourceUrn hl.sourceColumn
    hl.replacementColumn (by rw [← hl.fingerprint, hfp, w.fingerprint])
  have hurns : c.data.assetUrns = w.context.data.assetUrns ↔
      c.data.consumers.map (·.urn) = w.context.data.consumers.map (·.urn) := by
    simp [ContextData.assetUrns, hl.sourceUrn]
  rw [validateRefreshedContext_eq_ok, hurns]
  have hpairs : ∀ d : ContextData,
      (d.consumers.map fun k => (k.urn, k.degree)).map Prod.fst = d.consumers.map (·.urn) ∧
      (d.consumers.map fun k => (k.urn, k.degree)).map Prod.snd = d.degrees := by
    simp [ContextData.degrees, Function.comp_def]
  constructor
  · rintro ⟨-, -, hsame, -, -⟩
    have heq := Json.eq_of_perm_of_keys hperm (by rw [(hpairs _).1, (hpairs _).1, hsame])
      (by rw [(hpairs _).1]; exact hb.consumers)
    rw [← (hpairs _).2, ← (hpairs _).2, heq]
  · intro hsame
    refine ⟨hnew, hcomplete, ?_, hfp, htransport⟩
    have hswap : ∀ d : ContextData,
        (d.consumers.map fun k => (k.urn, k.degree)).map Prod.swap =
          d.consumers.map fun k => (k.degree, k.urn) := by
      simp [Function.comp_def]
    have hperm' := hperm.map Prod.swap
    rw [hswap, hswap] at hperm'
    have hdeg : ∀ d : ContextData,
        (d.consumers.map fun k => (k.degree, k.urn)).map Prod.fst = d.degrees := by
      simp [ContextData.degrees, Function.comp_def]
    have heq := Json.eq_of_perm_of_keys hperm' (by rw [hdeg, hdeg, hsame])
      (by rw [hdeg]; exact degrees_nodup hcomplete)
    have := congrArg (List.map Prod.snd) heq
    simpa [Function.comp_def] using this

/-- The writer for a context that was read by column lineage, and the objects of
that read repeated and of a read by dataset lineage. -/
theorem sampleRefresh : ∃ (w : Writer (.sample id)) (same other : ContextObject (.sample id))
    (t t' : ReadState), w.context.data.sourceUrn = "s" ∧ w.context.data.sourceColumn = "old" ∧
    w.context.data.replacementColumn = "new" ∧ Reader.sampleColumns {} = .ok (same.data, t) ∧
    Reader.sampleDatasets {} = .ok (other.data, t') ∧ same.data = w.context.data ∧
    acceptsRefresh w.context same = true ∧ acceptsRefresh w.context other = true ∧
    other.data.transport = w.context.data.transport ∧
    other.data.assetUrns ≠ w.context.data.assetUrns := by
  obtain ⟨c, c', t, t', h, h', hurns, hurns', hpayload⟩ := Reader.sampleReads
  obtain ⟨_, -, -, -, hl⟩ := Reader.load_loaded h
  obtain ⟨_, -, -, -, hl'⟩ := Reader.load_loaded h'
  have hfp : c'.impactFingerprint = c.impactFingerprint := by
    rw [hl.fingerprint, hl'.fingerprint]
    exact (fingerprint_eq_iff_payloads Function.injective_id
      (by rw [hl.sourceUrn, hl'.sourceUrn]) (by rw [hl.sourceColumn, hl'.sourceColumn])
      (by rw [hl.replacementColumn, hl'.replacementColumn])).mpr hpayload
  refine ⟨⟨c.transport, ⟨0, c, hl.valid⟩, hl.complete, hl.fingerprint.symm, ?_, rfl⟩,
    ⟨1, c, hl.valid⟩, ⟨1, c', hl'.valid⟩, t, t', hl.sourceUrn, hl.sourceColumn,
    hl.replacementColumn, h, h', rfl, ?_, ?_, ?_, ?_⟩
  · rw [hurns]
    decide
  · simp [acceptsRefresh, hl.complete]
  · simp [acceptsRefresh, hl'.complete, hfp]
  · rw [hl.transport, hl'.transport]
    rfl
  · rw [hurns, hurns']
    decide

/-- A repeated read by column lineage passes both checks. -/
theorem sampleRefresh_accepted : ∃ (w : Writer (.sample id)) (c : ContextObject (.sample id)),
    acceptsRefresh w.context c = true ∧ w.validateRefreshedContext (some c) = .ok () := by
  obtain ⟨w, same, -, t, -, hs, ho, hn, h, -, hsame, hacc, -⟩ := sampleRefresh
  have hload : (Reader.sample (.sample id) true [("a", 1), ("b", 2), ("c", 3)]).load (.sample id)
      w.context.data.sourceUrn w.context.data.sourceColumn w.context.data.replacementColumn {} =
      .ok (same.data, t) := by
    rw [hs, ho, hn]
    exact h
  exact ⟨w, same, hacc, (refresh_accepted_iff_same_hops (.sample id) Function.injective_id w _ {} t
    same hload hacc (by rw [hsame])).mpr (by rw [hsame])⟩

/-- A read by dataset lineage in another order passes the coordinator's check and
not the writer's. -/
theorem refresh_refused_after_accepted :
    ¬∀ (w : Writer (.sample id)) (r : Reader) (s t : ReadState) (c : ContextObject (.sample id)),
      r.load (.sample id) w.context.data.sourceUrn w.context.data.sourceColumn
        w.context.data.replacementColumn s = .ok (c.data, t) →
      acceptsRefresh w.context c = true → c.data.transport = w.context.data.transport →
      w.validateRefreshedContext (some c) = .ok () := by
  intro hall
  obtain ⟨w, -, other, -, t', hs, ho, hn, -, h', -, -, hacc, htr, hne⟩ := sampleRefresh
  have hload : (Reader.sample (.sample id) false [("b", 2), ("a", 1), ("c", 3)]).load (.sample id)
      w.context.data.sourceUrn w.context.data.sourceColumn w.context.data.replacementColumn {} =
      .ok (other.data, t') := by
    rw [hs, ho, hn]
    exact h'
  have hok := hall w _ {} t' other hload hacc htr
  exact hne (validateRefreshedContext_eq_ok.mp hok).2.2.1

end LineageTX
