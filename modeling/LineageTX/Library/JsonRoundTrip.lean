import LineageTX.Library.JsonParse

/-! What a reader gives can be printed and read again, with the fuel that its text provides. -/
namespace Library
namespace Json
variable (st : Style)

theorem one_le_length_render (d : Nat) (j : Json) : 1 ≤ (render st d j).length := by
  obtain ⟨c, cs, hrender, -⟩ := render_head st d j
  simp [hrender]

mutual
/-- The fuel that a printed document takes is at most twice its length. -/
theorem cost_lt_render : ∀ (j : Json) (d : Nat), cost j < 2 * (render st d j).length
  | .null, d => by simp [cost, render]
  | .bool true, d => by simp [cost, render]
  | .bool false, d => by simp [cost, render]
  | .int n, d => by
    have hpos := one_le_length_render st d (.int n)
    simp only [cost]
    omega
  | .float r, d => by
    have hpos := one_le_length_render st d (.float r)
    simp only [cost]
    omega
  | .str s, d => by
    have hpos := one_le_length_render st d (.str s)
    simp only [cost]
    omega
  | .arr [], d => by simp [cost, costItems, render]
  | .arr (x :: xs), d => by
    have hx := cost_lt_render x (d + 1)
    have hxs := costItems_le_render xs (d + 1)
    simp only [cost, costItems, render, List.length_append, List.length_cons, List.length_nil]
    omega
  | .obj [], d => by simp [cost, costMembers, render]
  | .obj ((k, v) :: m), d => by
    have hv := cost_lt_render v (d + 1)
    have hm := costMembers_le_render m (d + 1)
    simp only [cost, costMembers, render, quote, Style.keySep, List.length_append, List.length_cons,
      List.length_nil]
    omega
theorem costItems_le_render : ∀ (xs : List Json) (d : Nat),
    costItems xs ≤ 2 * (renderItems st d xs).length + 1
  | [], d => by simp [costItems, renderItems]
  | x :: xs, d => by
    have hx := cost_lt_render x d
    have hxs := costItems_le_render xs d
    simp only [costItems, renderItems, Style.itemSep, List.length_append, List.length_cons]
    omega
theorem costMembers_le_render : ∀ (m : List (String × Json)) (d : Nat),
    costMembers m ≤ 2 * (renderMembers st d m).length + 1
  | [], d => by simp [costMembers, renderMembers]
  | (k, v) :: m, d => by
    have hv := cost_lt_render v d
    have hm := costMembers_le_render m d
    simp only [costMembers, renderMembers, Style.itemSep, Style.keySep, quote, List.length_append,
      List.length_cons]
    omega
end

section Reader
variable {rf : String → Option FloatText}

theorem readToken_readsBack (hround : ∀ s r, rf s = some r → rf r.val = some r) {cs : List Char}
    {j : Json} (h : readToken rf cs = some j) : Every (ReadsBack rf) j := by
  unfold readToken at h
  split_ifs at h
  · cases h
    trivial
  · cases h
    trivial
  · cases h
    trivial
  · split at h
    · cases h
      trivial
    · obtain ⟨r, hr, rfl⟩ := Option.map_eq_some_iff.mp h
      exact hround _ r hr

/-- Every float that a reader gives is read back, if printing one and reading it gives it again. -/
theorem parse_readsBack (hround : ∀ s r, rf s = some r → rf r.val = some r) (n : Nat) :
    (∀ cs p, parseValue rf n cs = some p → Every (ReadsBack rf) p.1) ∧
    (∀ cs p, parseItems rf n cs = some p → ∀ x ∈ p.1, Every (ReadsBack rf) x) ∧
    (∀ cs p, parseMember rf n cs = some p → Every (ReadsBack rf) p.1.2) ∧
    ∀ cs p, parseMembers rf n cs = some p → ∀ e ∈ p.1, Every (ReadsBack rf) e.2 := by
  induction n with
  | zero => exact ⟨fun _ _ h => (nomatch h), fun _ _ h => (nomatch h), fun _ _ h => (nomatch h),
      fun _ _ h => (nomatch h)⟩
  | succ n ih =>
    obtain ⟨ihValue, ihItems, ihMember, ihMembers⟩ := ih
    refine ⟨fun cs p h => ?_, fun cs p h => ?_, fun cs p h => ?_, fun cs p h => ?_⟩
    · rw [parseValue] at h
      split at h
      · obtain ⟨_, -, rfl⟩ := Option.map_eq_some_iff.mp h
        trivial
      · split at h
        · cases h
          exact every_arr.mpr ⟨trivial, by simp⟩
        · simp only [Option.bind_eq_bind, Option.bind_eq_some_iff] at h
          obtain ⟨⟨x, r⟩, hx, ⟨xs, r'⟩, hxs, ⟨⟩⟩ := h
          refine every_arr.mpr ⟨trivial, List.forall_mem_cons.mpr ⟨ihValue _ _ hx, ihItems _ _ hxs⟩⟩
      · split at h
        · cases h
          exact every_obj.mpr ⟨trivial, by simp⟩
        · simp only [Option.bind_eq_bind, Option.bind_eq_some_iff] at h
          obtain ⟨⟨e, r⟩, he, ⟨es, r'⟩, hes, ⟨⟩⟩ := h
          exact every_obj.mpr ⟨trivial, List.forall_mem_cons.mpr ⟨ihMember _ _ he, ihMembers _ _ hes⟩⟩
      · obtain ⟨j, hj, rfl⟩ := Option.map_eq_some_iff.mp h
        exact readToken_readsBack hround hj
    · rw [parseItems] at h
      split at h
      · cases h
        simp
      · simp only [Option.bind_eq_bind, Option.bind_eq_some_iff] at h
        obtain ⟨⟨x, r⟩, hx, ⟨xs, r'⟩, hxs, ⟨⟩⟩ := h
        exact List.forall_mem_cons.mpr ⟨ihValue _ _ hx, ihItems _ _ hxs⟩
      · cases h
    · rw [parseMember] at h
      split at h
      · simp only [Option.bind_eq_bind, Option.bind_eq_some_iff] at h
        obtain ⟨⟨k, r⟩, -, h⟩ := h
        split at h
        · simp only [Option.bind_eq_some_iff] at h
          obtain ⟨⟨v, r'⟩, hv, ⟨⟩⟩ := h
          exact ihValue _ _ hv
        · cases h
      · cases h
    · rw [parseMembers] at h
      split at h
      · cases h
        simp
      · simp only [Option.bind_eq_bind, Option.bind_eq_some_iff] at h
        obtain ⟨⟨e, r⟩, he, ⟨es, r'⟩, hes, ⟨⟩⟩ := h
        exact List.forall_mem_cons.mpr ⟨ihMember _ _ he, ihMembers _ _ hes⟩
      · cases h

end Reader

section Returns
variable {st}

theorem escapeUnit_noReturn (n : Nat) : '\r' ∉ escapeUnit n := by
  have hdigit : ∀ n < 16, hexDigit n ≠ '\r' := by decide
  have hne := fun k => (hdigit (k % 16) (Nat.mod_lt _ (by decide))).symm
  simp [escapeUnit, hne]

theorem escapeChar_noReturn (ascii : Bool) (c : Char) : '\r' ∉ escapeChar ascii c := by
  unfold escapeChar
  split_ifs with h₁ h₂ h₃ hreturn
  any_goals decide
  · exact escapeUnit_noReturn _
  · exact escapeUnit_noReturn _
  · rw [List.mem_append, not_or]
    exact ⟨escapeUnit_noReturn _, escapeUnit_noReturn _⟩
  · simpa using Ne.symm hreturn

theorem quote_noReturn (ascii : Bool) (s : String) : '\r' ∉ quote ascii s := by
  simp only [quote, List.cons_append, List.mem_cons, List.mem_append, List.mem_flatMap,
    List.not_mem_nil, or_false, not_or, not_exists, not_and]
  exact ⟨by decide, fun c _ => escapeChar_noReturn ascii c, by decide⟩

theorem newline_noReturn (d : Nat) : '\r' ∉ newline st d := by
  unfold newline
  cases st.indent with
  | none => simp
  | some n => simp [List.mem_replicate]

theorem itemSep_noReturn : '\r' ∉ st.itemSep := by simp [Style.itemSep, List.mem_replicate]

theorem keySep_noReturn : '\r' ∉ st.keySep := by simp [Style.keySep, List.mem_replicate]

theorem token_noReturn {j : Json} {t : List Char} (h : j.token = some t) : '\r' ∉ t := by
  intro hmem
  exact absurd ((token_shape h).2 _ hmem) (by decide)

mutual
/-- A printed document has no carriage return. -/
theorem render_noReturn : ∀ (d : Nat) (j : Json), '\r' ∉ render st d j
  | d, .null => token_noReturn (j := .null) rfl
  | d, .bool true => token_noReturn (j := .bool true) rfl
  | d, .bool false => token_noReturn (j := .bool false) rfl
  | d, .int n => token_noReturn (j := .int n) rfl
  | d, .float r => token_noReturn (j := .float r) rfl
  | d, .str s => quote_noReturn st.ascii s
  | d, .arr [] => by simp [render]
  | d, .arr (x :: xs) => by
    simp [render, newline_noReturn, render_noReturn (d + 1) x, renderItems_noReturn (d + 1) xs]
  | d, .obj [] => by simp [render]
  | d, .obj ((k, v) :: m) => by
    simp [render, newline_noReturn, quote_noReturn, keySep_noReturn, render_noReturn (d + 1) v,
      renderMembers_noReturn (d + 1) m]
theorem renderItems_noReturn : ∀ (d : Nat) (xs : List Json), '\r' ∉ renderItems st d xs
  | d, [] => by simp [renderItems]
  | d, x :: xs => by
    simp [renderItems, itemSep_noReturn, newline_noReturn, render_noReturn d x,
      renderItems_noReturn d xs]
theorem renderMembers_noReturn : ∀ (d : Nat) (m : List (String × Json)), '\r' ∉ renderMembers st d m
  | d, [] => by simp [renderMembers]
  | d, (k, v) :: m => by
    simp [renderMembers, itemSep_noReturn, newline_noReturn, quote_noReturn, keySep_noReturn,
      render_noReturn d v, renderMembers_noReturn d m]
end

end Returns
end Json
end Library
