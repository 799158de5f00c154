import LineageTX.Library.JsonText
import LineageTX.Library.JsonNodes

/-! The reader of JSON texts and its round trip with the printer. -/
namespace Library
namespace Json
variable (rf : String → Option FloatText)

mutual
def parseValue : Nat → List Char → Option (Json × List Char)
  | 0, _ => none
  | n + 1, cs =>
    match skipWs cs with
    | '"' :: r => (readBody (r.length + 1) r).map fun p => (.str (String.ofList p.1), p.2)
    | '[' :: r =>
      match skipWs r with
      | ']' :: r => some (.arr [], r)
      | r => do
        let (x, r) ← parseValue n r
        let (xs, r) ← parseItems n r
        some (.arr (x :: xs), r)
    | '{' :: r =>
      match skipWs r with
      | '}' :: r => some (.obj [], r)
      | r => do
        let (e, r) ← parseMember n r
        let (es, r) ← parseMembers n r
        some (.obj (e :: es), r)
    | r => (readToken rf (r.takeWhile tokenChar)).map fun j => (j, r.dropWhile tokenChar)
def parseItems : Nat → List Char → Option (List Json × List Char)
  | 0, _ => none
  | n + 1, cs =>
    match skipWs cs with
    | ']' :: r => some ([], r)
    | ',' :: r => do
      let (x, r) ← parseValue n r
      let (xs, r) ← parseItems n r
      some (x :: xs, r)
    | _ => none
def parseMember : Nat → List Char → Option ((String × Json) × List Char)
  | 0, _ => none
  | n + 1, cs =>
    match skipWs cs with
    | '"' :: r => do
      let (k, r) ← readBody (r.length + 1) r
      match skipWs r with
      | ':' :: r => do
        let (v, r) ← parseValue n r
        some ((String.ofList k, v), r)
      | _ => none
    | _ => none
def parseMembers : Nat → List Char → Option (List (String × Json) × List Char)
  | 0, _ => none
  | n + 1, cs =>
    match skipWs cs with
    | '}' :: r => some ([], r)
    | ',' :: r => do
      let (e, r) ← parseMember n r
      let (es, r) ← parseMembers n r
      some (e :: es, r)
    | _ => none
end

mutual
/-- The fuel that reading a printed document takes. -/
def cost : Json → Nat
  | .arr xs => 1 + costItems xs
  | .obj m => 1 + costMembers m
  | _ => 1
def costItems : List Json → Nat
  | [] => 1
  | x :: xs => 1 + cost x + costItems xs
def costMembers : List (String × Json) → Nat
  | [] => 1
  | (_, v) :: m => 2 + cost v + costMembers m
end

theorem tokenChar_facts {c : Char} (h : tokenChar c = true) : isWs c = false ∧
    c ≠ '"' ∧ c ≠ '[' ∧ c ≠ '{' ∧ c ≠ ']' ∧ c ≠ '}' ∧ c ≠ ',' := by
  refine ⟨?_, ?_, ?_, ?_, ?_, ?_, ?_⟩
  · by_contra hw
    simp only [isWs, Bool.not_eq_false, Bool.or_eq_true, beq_iff_eq] at hw
    rcases hw with ((rfl | rfl) | rfl) | rfl <;> revert h <;> decide
  all_goals (rintro rfl; revert h; decide)

/-- What may follow a printed value: nothing that would prolong a token. -/
def Ends (r : List Char) : Prop := ∀ c cs, r = c :: cs → tokenChar c = false

theorem ends_cons {c : Char} {cs : List Char} (h : tokenChar c = false) : Ends (c :: cs) := by
  rintro d ds ⟨⟩
  exact h

theorem token_append {t r : List Char} (ht : ∀ c ∈ t, tokenChar c = true) (hr : Ends r) :
    (t ++ r).takeWhile tokenChar = t ∧ (t ++ r).dropWhile tokenChar = r := by
  induction t with
  | nil =>
    cases r with
    | nil => simp
    | cons c cs => simp [hr c cs rfl]
  | cons c t ih =>
    have hc := ht c (by simp)
    have h := ih fun d hd => ht d (by simp [hd])
    simp [hc, h]

theorem skipWs_cons {c : Char} (h : isWs c = false) (cs : List Char) :
    skipWs (c :: cs) = c :: cs := by simp [skipWs, h]

theorem skipWs_blanks (n : Nat) (cs : List Char) :
    skipWs (List.replicate n ' ' ++ cs) = skipWs cs := by
  induction n with
  | zero => simp
  | succ n ih => simpa [List.replicate_succ, skipWs, isWs] using ih

theorem skipWs_newline (st : Style) (d : Nat) (cs : List Char) :
    skipWs (newline st d ++ cs) = skipWs cs := by
  unfold newline
  cases st.indent with
  | none => rfl
  | some n => simpa [skipWs, isWs] using skipWs_blanks (n * d) cs

theorem quote_append (a : Bool) (s : String) (r : List Char) :
    quote a s ++ r = '"' :: (s.toList.flatMap (escapeChar a) ++ '"' :: r) := by
  simp [quote]

theorem length_flatMap_escape (a : Bool) (s : List Char) :
    s.length ≤ (s.flatMap (escapeChar a)).length := by
  induction s with
  | nil => simp
  | cons c s ih =>
    obtain ⟨d, ds, hd, -⟩ := escapeChar_head a c
    simp only [List.flatMap_cons, hd, List.length_append, List.length_cons]
    omega

theorem readBody_quote (a : Bool) (s : String) (r : List Char) :
    let body := s.toList.flatMap (escapeChar a) ++ '"' :: r
    readBody (body.length + 1) body = some (s.toList, r) := by
  apply readBody_escape
  have := length_flatMap_escape a s.toList
  simp only [List.length_append, List.length_cons]
  omega

theorem parseValue_token {t r : List Char} (hne : t ≠ []) (ht : ∀ c ∈ t, tokenChar c = true)
    (hr : Ends r) (n : Nat) :
    parseValue rf (n + 1) (t ++ r) = (readToken rf t).map fun j => (j, r) := by
  obtain ⟨h1, h2⟩ := token_append ht hr
  cases t with
  | nil => contradiction
  | cons c t =>
    obtain ⟨hw, hq, hb, hc, -⟩ := tokenChar_facts (ht c (by simp))
    have hs : skipWs (c :: t ++ r) = c :: (t ++ r) := by rw [List.cons_append, skipWs_cons hw]
    rw [List.cons_append] at h1 h2
    rw [parseValue, hs]
    split
    · next heq => exact absurd (List.cons.inj heq).1 hq
    · next heq => exact absurd (List.cons.inj heq).1 hb
    · next heq => exact absurd (List.cons.inj heq).1 hc
    · rw [h1, h2]

theorem parseValue_skip {cs cs' : List Char} (h : skipWs cs = skipWs cs') (n : Nat) :
    parseValue rf n cs = parseValue rf n cs' := by
  cases n with
  | zero => rfl
  | succ n => simp only [parseValue, h]

theorem parseMember_skip {cs cs' : List Char} (h : skipWs cs = skipWs cs') (n : Nat) :
    parseMember rf n cs = parseMember rf n cs' := by
  cases n with
  | zero => rfl
  | succ n => simp only [parseMember, h]

theorem digits_headed (n : Nat) (h : 0 < n) : (Nat.toDigits 10 n).head? ≠ some '0' := by
  have hd : ∀ m < 10, 0 < m → Nat.digitChar m ≠ '0' := by decide
  induction n using Nat.strong_induction_on with
  | _ n ih =>
    by_cases hn : n < 10
    · rw [Nat.toDigits_of_lt_base hn]
      simpa using hd n hn h
    · rw [Nat.toDigits_of_base_le (by decide) (by omega), List.head?_append]
      have hi := ih (n / 10) (by omega) (by omega)
      obtain ⟨c, cs, hc⟩ := List.exists_cons_of_ne_nil (Nat.toDigits_ne_nil (n := n / 10) (b := 10))
      simpa [hc] using hi

/-- A printed natural number is a numeral, and reading it gives the number back. -/
theorem numeral_repr (n : Nat) : isNumeral n.repr.toList = true ∧
    Nat.ofDigitChars 10 n.repr.toList 0 = n := by
  rw [Nat.toList_repr]
  refine ⟨?_, Nat.ofDigitChars_ten_toDigits⟩
  have hall : (Nat.toDigits 10 n).all Char.isDigit = true :=
    List.all_eq_true.mpr fun c hc => Nat.isDigit_of_mem_toDigits (by decide) (by decide) hc
  cases n with
  | zero => rfl
  | succ n =>
    have hh := digits_headed (n + 1) (by omega)
    simp [isNumeral, hall, hh, Nat.toDigits_ne_nil]

theorem isDigit_token {c : Char} (h : c.isDigit = true) : tokenChar c = true ∧ c ≠ '-' := by
  refine ⟨by simp [tokenChar, Char.isAlphanum, h], ?_⟩
  rintro rfl
  revert h
  decide

theorem numeral_facts {ds : List Char} (h : isNumeral ds = true) :
    ds ≠ [] ∧ ∀ c ∈ ds, c.isDigit = true := by
  simp only [isNumeral, Bool.and_eq_true, List.all_eq_true] at h
  exact ⟨by simpa using h.1.1, h.1.2⟩

theorem numeral_head {ds : List Char} (h : isNumeral ds = true) : ds.head? ≠ some '-' := by
  intro he
  exact (isDigit_token ((numeral_facts h).2 '-' (List.mem_of_mem_head? he))).2 rfl

theorem repr_negSucc (m : Nat) :
    (Int.negSucc m).repr.toList = '-' :: (m + 1).repr.toList := by
  simp [Int.repr, String.toList_append]

theorem readInt_repr (n : Int) : readInt n.repr.toList = some n := by
  cases n with
  | ofNat m =>
    obtain ⟨h1, h2⟩ := numeral_repr m
    have he : (Int.ofNat m).repr = m.repr := rfl
    rw [he, readInt, if_neg (numeral_head h1), if_pos h1, h2]
    rfl
  | negSucc m =>
    obtain ⟨h1, h2⟩ := numeral_repr (m + 1)
    rw [repr_negSucc, readInt, List.head?_cons, if_pos rfl, List.tail_cons, if_pos h1, h2]
    rfl

theorem repr_token (n : Int) : n.repr.toList ≠ [] ∧
    (∀ c ∈ n.repr.toList, c.isDigit = true ∨ c = '-') := by
  cases n with
  | ofNat m =>
    obtain ⟨h1, h2⟩ := numeral_facts (numeral_repr m).1
    exact ⟨h1, fun c hc => Or.inl (h2 c hc)⟩
  | negSucc m =>
    obtain ⟨-, h2⟩ := numeral_facts (numeral_repr (m + 1)).1
    rw [repr_negSucc]
    refine ⟨by simp, fun c hc => ?_⟩
    rcases List.mem_cons.mp hc with rfl | hc
    · exact Or.inr rfl
    · exact Or.inl (h2 c hc)

/-- The texts of literals, integers and floats. -/
def token : Json → Option (List Char)
  | .null => some ['n', 'u', 'l', 'l']
  | .bool true => some ['t', 'r', 'u', 'e']
  | .bool false => some ['f', 'a', 'l', 's', 'e']
  | .int n => some n.repr.toList
  | .float r => some r.val.toList
  | _ => none

theorem token_shape {j : Json} {t : List Char} (h : j.token = some t) :
    t ≠ [] ∧ ∀ c ∈ t, tokenChar c = true := by
  cases j with
  | null => cases h; exact ⟨by simp, List.all_eq_true.mp (by decide)⟩
  | bool b => cases b <;> cases h <;> exact ⟨by simp, List.all_eq_true.mp (by decide)⟩
  | int n =>
    cases h
    refine ⟨(repr_token n).1, fun c hc => ?_⟩
    rcases (repr_token n).2 c hc with hd | rfl
    · exact (isDigit_token hd).1
    · decide
  | float r =>
    cases h
    have hr := r.property
    simp only [isFloatText, Bool.and_eq_true, List.all_eq_true, List.any_eq_true] at hr
    obtain ⟨⟨h1, c, hc, -⟩, -⟩ := hr
    exact ⟨List.ne_nil_of_mem hc, h1⟩
  | str s => cases h
  | arr xs => cases h
  | obj m => cases h

theorem readToken_int (n : Int) : readToken rf n.repr.toList = some (.int n) := by
  have hne (w : List Char) (c : Char) (hc : c ∈ w) (hd : ¬(c.isDigit = true ∨ c = '-')) :
      n.repr.toList ≠ w := by
    rintro rfl
    exact hd ((repr_token n).2 c hc)
  simp [readToken, readInt_repr, hne ['n', 'u', 'l', 'l'] 'n' (by simp) (by decide),
    hne ['t', 'r', 'u', 'e'] 't' (by simp) (by decide),
    hne ['f', 'a', 'l', 's', 'e'] 'f' (by simp) (by decide)]

theorem readInt_float (r : FloatText) : readInt r.val.toList = none := by
  have hr := r.property
  simp only [isFloatText, Bool.and_eq_true, List.any_eq_true] at hr
  obtain ⟨⟨-, c, hc, hd⟩, -⟩ := hr
  have hd' : c.isDigit = false ∧ c ≠ '-' := by simpa using hd
  unfold readInt
  split_ifs with h1 h2 h3
  · obtain ⟨cs, hcs⟩ : ∃ cs, r.val.toList = '-' :: cs := List.head?_eq_some_iff.mp h1
    rw [hcs] at hc h2
    rcases List.mem_cons.mp hc with he | hc
    · exact absurd he hd'.2
    · exact absurd ((numeral_facts h2).2 c hc) (by simp [hd'.1])
  · rfl
  · exact absurd ((numeral_facts h3).2 c hc) (by simp [hd'.1])
  · rfl

theorem readToken_float {r : FloatText} (hrf : rf r.val = some r) :
    readToken rf r.val.toList = some (.float r) := by
  have hr := r.property
  simp only [isFloatText, Bool.and_eq_true, Bool.not_eq_true', List.contains_eq_mem] at hr
  have hh := of_decide_eq_false hr.2
  have hne (w : List Char) (hw : w.headD 'n' ∈ ['n', 't', 'f']) : r.val.toList ≠ w := by
    rintro rfl
    exact hh hw
  simp [readToken, readInt_float, hrf, hne ['n', 'u', 'l', 'l'] (by simp),
    hne ['t', 'r', 'u', 'e'] (by simp), hne ['f', 'a', 'l', 's', 'e'] (by simp)]

/-- A float that reading its text gives back. -/
def ReadsBack : Json → Prop
  | .float r => rf r.val = some r
  | _ => True

theorem readsBack_ofLeaf : OfLeaf (ReadsBack rf) := ⟨fun _ => trivial, fun _ => trivial⟩

theorem readToken_token {j : Json} (hrf : ReadsBack rf j) {t : List Char}
    (h : j.token = some t) : readToken rf t = some j := by
  cases j with
  | null => cases h; rfl
  | bool b => cases b <;> cases h <;> rfl
  | int n => cases h; exact readToken_int rf n
  | float r => cases h; exact readToken_float rf hrf
  | str s => cases h
  | arr xs => cases h
  | obj m => cases h

theorem render_of_token {j : Json} {t : List Char} (h : j.token = some t) (st : Style) (d : Nat) :
    render st d j = t := by
  cases j with
  | null => cases h; rfl
  | bool b => cases b <;> cases h <;> rfl
  | int n => cases h; rfl
  | float r => cases h; rfl
  | str s => cases h
  | arr xs => cases h
  | obj m => cases h

/-- A printed value starts with a visible character that closes nothing. -/
theorem render_head (st : Style) (d : Nat) (j : Json) : ∃ c cs, render st d j = c :: cs ∧
    isWs c = false ∧ c ≠ ']' := by
  cases ht : j.token with
  | some t =>
    obtain ⟨hne, hall⟩ := token_shape ht
    obtain ⟨c, cs, rfl⟩ := List.exists_cons_of_ne_nil hne
    obtain ⟨hw, -, -, -, hb, -⟩ := tokenChar_facts (hall c (by simp))
    exact ⟨c, cs, render_of_token ht st d, hw, hb⟩
  | none =>
    cases j with
    | null => cases ht
    | bool b => cases b <;> cases ht
    | int n => cases ht
    | float r => cases ht
    | str s => exact ⟨'"', _, rfl, by decide, by decide⟩
    | arr xs => cases xs <;> exact ⟨'[', _, rfl, by decide, by decide⟩
    | obj m => cases m <;> exact ⟨'{', _, rfl, by decide, by decide⟩

theorem skipWs_newline_cons (st : Style) (d : Nat) {c : Char} (hc : isWs c = false)
    (r : List Char) : skipWs (newline st d ++ c :: r) = c :: r := by
  rw [skipWs_newline, skipWs_cons hc]

theorem ends_newline (st : Style) (d : Nat) {c : Char} (hc : tokenChar c = false)
    (r : List Char) : Ends (newline st d ++ c :: r) := by
  unfold newline
  cases st.indent with
  | none => exact ends_cons hc
  | some n => exact ends_cons (by decide)

theorem ends_items (st : Style) (d : Nat) (xs : List Json) {r : List Char} (hr : Ends r) :
    Ends (renderItems st d xs ++ r) := by
  cases xs with
  | nil => exact hr
  | cons x xs => exact ends_cons (by decide)

theorem ends_members (st : Style) (d : Nat) (m : List (String × Json)) {r : List Char}
    (hr : Ends r) : Ends (renderMembers st d m ++ r) := by
  cases m with
  | nil => exact hr
  | cons e m => exact ends_cons (by decide)

variable (st : Style)

theorem parse_token {j : Json} (hrf : ReadsBack rf j) {t : List Char} (h : j.token = some t) (n d : Nat)
    (r : List Char) (hr : Ends r) : parseValue rf (n + 1) (render st d j ++ r) = some (j, r) := by
  obtain ⟨hne, hall⟩ := token_shape h
  rw [render_of_token h, parseValue_token rf hne hall hr, readToken_token rf hrf h]
  rfl

set_option linter.unusedSectionVars false in
mutual
/-- Reading a printed value gives the value and leaves what follows it. -/
theorem parseValue_render : ∀ (j : Json) (n d : Nat) (r : List Char), Every (ReadsBack rf) j →
    cost j ≤ n → Ends r → parseValue rf n (render st d j ++ r) = some (j, r)
  | j, 0, d, r, _, h, _ => by cases j <;> simp [cost] at h
  | .null, n + 1, d, r, hf, _, hr => parse_token rf st hf.here rfl n d r hr
  | .bool true, n + 1, d, r, hf, _, hr => parse_token rf st hf.here rfl n d r hr
  | .bool false, n + 1, d, r, hf, _, hr => parse_token rf st hf.here rfl n d r hr
  | .int i, n + 1, d, r, hf, _, hr => parse_token rf st hf.here rfl n d r hr
  | .float f, n + 1, d, r, hf, _, hr => parse_token rf st hf.here rfl n d r hr
  | .str s, n + 1, d, r, _, _, _ => by
    have hb := readBody_quote st.ascii s r
    rw [render, quote_append, parseValue, skipWs_cons (by decide)]
    simp only at hb ⊢
    rw [hb]
    simp
  | .arr [], n + 1, d, r, _, _, _ => by
    rw [render, List.cons_append, parseValue, skipWs_cons (by decide)]
    rfl
  | .arr (x :: xs), n + 1, d, r, hf, h, hr => by
    simp only [cost, costItems] at h
    have hf := (every_arr.mp hf).2
    have hc := ends_newline st d (c := ']') (by decide) r
    have hx := parseValue_render x n (d + 1)
      (renderItems st (d + 1) xs ++ (newline st d ++ ']' :: r)) (hf x (by simp)) (by omega)
      (ends_items st (d + 1) xs hc)
    have hxs := parseItems_render xs n (d + 1) d r (fun y hy => hf y (by simp [hy])) (by omega)
    obtain ⟨c, cs, he, hw, hb⟩ := render_head st (d + 1) x
    rw [render]
    simp only [List.cons_append, List.append_assoc, List.nil_append]
    rw [parseValue, skipWs_cons (by decide)]
    simp only [skipWs_newline]
    rw [he, List.cons_append] at hx ⊢
    rw [skipWs_cons hw]
    split
    · next heq => exact absurd (List.cons.inj heq).1 hb
    · simp [hx, hxs]
  | .obj [], n + 1, d, r, _, _, _ => by
    rw [render, List.cons_append, parseValue, skipWs_cons (by decide)]
    rfl
  | .obj ((k, v) :: m), n + 1, d, r, hf, h, hr => by
    simp only [cost, costMembers] at h
    have hf := (every_obj.mp hf).2
    have hc := ends_newline st d (c := '}') (by decide) r
    have hv := parseMember_render k v n (d + 1)
      (renderMembers st (d + 1) m ++ (newline st d ++ '}' :: r)) (hf (k, v) (by simp)) (by omega)
      (ends_members st (d + 1) m hc)
    have hm := parseMembers_render m n (d + 1) d r (fun e he => hf e (by simp [he])) (by omega)
    rw [render]
    simp only [List.cons_append, List.append_assoc, List.nil_append]
    rw [parseValue, skipWs_cons (by decide)]
    rw [quote_append] at hv ⊢
    simp only [skipWs_newline_cons st (d + 1) (c := '"') (by decide)]
    split
    · next heq => exact absurd (List.cons.inj heq).1 (by decide)
    · simp [hv, hm]
theorem parseItems_render : ∀ (xs : List Json) (n d e : Nat) (r : List Char),
    (∀ x ∈ xs, Every (ReadsBack rf) x) → costItems xs ≤ n →
    parseItems rf n (renderItems st d xs ++ (newline st e ++ ']' :: r)) = some (xs, r)
  | xs, 0, d, e, r, _, h => by cases xs <;> simp [costItems] at h
  | [], n + 1, d, e, r, _, _ => by
    rw [renderItems, List.nil_append, parseItems, skipWs_newline_cons st e (by decide)]
    rfl
  | x :: xs, n + 1, d, e, r, hf, h => by
    simp only [costItems] at h
    have hc := ends_newline st e (c := ']') (by decide) r
    have hx := parseValue_render x n d (renderItems st d xs ++ (newline st e ++ ']' :: r))
      (hf x (by simp)) (by omega) (ends_items st d xs hc)
    have hxs := parseItems_render xs n d e r (fun y hy => hf y (by simp [hy])) (by omega)
    rw [renderItems, Style.itemSep]
    simp only [List.cons_append, List.append_assoc]
    rw [parseItems, skipWs_cons (by decide)]
    simp only
    rw [parseValue_skip rf ((skipWs_blanks _ _).trans (skipWs_newline st d _)), hx]
    simp [hxs]
theorem parseMember_render : ∀ (k : String) (v : Json) (n d : Nat) (r : List Char),
    Every (ReadsBack rf) v → 1 + cost v ≤ n → Ends r →
    parseMember rf n (quote st.ascii k ++ (st.keySep ++ (render st d v ++ r))) =
      some ((k, v), r)
  | k, v, 0, d, r, _, h, _ => by omega
  | k, v, n + 1, d, r, hf, h, hr => by
    have hv := parseValue_render v n d r hf (by omega) hr
    have hb := readBody_quote st.ascii k (st.keySep ++ (render st d v ++ r))
    rw [quote_append, parseMember, skipWs_cons (by decide)]
    simp only at hb ⊢
    rw [hb, Style.keySep, List.cons_append]
    simp only [Option.bind_eq_bind, Option.bind_some]
    rw [skipWs_cons (by decide)]
    simp only
    rw [parseValue_skip rf (skipWs_blanks _ _), hv]
    simp
theorem parseMembers_render : ∀ (m : List (String × Json)) (n d e : Nat) (r : List Char),
    (∀ e ∈ m, Every (ReadsBack rf) e.2) → costMembers m ≤ n →
    parseMembers rf n (renderMembers st d m ++ (newline st e ++ '}' :: r)) = some (m, r)
  | m, 0, d, e, r, _, h => by cases m <;> simp [costMembers] at h
  | [], n + 1, d, e, r, _, _ => by
    rw [renderMembers, List.nil_append, parseMembers, skipWs_newline_cons st e (by decide)]
    rfl
  | (k, v) :: m, n + 1, d, e, r, hf, h => by
    simp only [costMembers] at h
    have hc := ends_newline st e (c := '}') (by decide) r
    have hv := parseMember_render k v n d (renderMembers st d m ++ (newline st e ++ '}' :: r))
      (hf (k, v) (by simp)) (by omega) (ends_members st d m hc)
    have hm := parseMembers_render m n d e r (fun e he => hf e (by simp [he])) (by omega)
    rw [renderMembers, Style.itemSep]
    simp only [List.cons_append, List.append_assoc]
    rw [parseMembers, skipWs_cons (by decide)]
    simp only
    rw [parseMember_skip rf ((skipWs_blanks _ _).trans (skipWs_newline st d _)), hv]
    simp [hm]
end

theorem render_injective (d : Nat) {j j' : Json} (h : render st d j = render st d j') : j = j' := by
  let rf : String → Option FloatText := fun s => if hs : isFloatText s = true then some ⟨s, hs⟩ else none
  have hrf : ∀ j, Every (ReadsBack rf) j := by
    refine every_of_forall fun j => ?_
    cases j with
    | float r => exact dif_pos r.property
    | _ => trivial
  have hn : Ends [] := fun c cs he => by cases he
  have hj := parseValue_render rf st j (cost j + cost j') d [] (hrf j) (by omega) hn
  have hj' := parseValue_render rf st j' (cost j + cost j') d [] (hrf j') (by omega) hn
  rw [h, hj'] at hj
  exact (Prod.mk.inj (Option.some.inj hj)).1.symm

/-- Printing with the members of every object in key order. -/
def dumps (st : Style) (j : Json) : String := String.ofList (render st 0 (sortKeys j))

/-- Equal texts are printed exactly for documents equal up to member order. -/
theorem dumps_eq_iff {j j' : Json} : dumps st j = dumps st j' ↔ sortKeys j = sortKeys j' := by
  constructor
  · intro h
    exact render_injective st 0 (String.ofList_injective h)
  · intro h
    rw [dumps, dumps, h]

end Json
end Library
