import LineageTX.Library.Json
import Mathlib.Data.List.TakeWhile
import Mathlib.Tactic.Linarith

/-! Printing JSON and reading it back. One printer covers the compact and the
indented layouts; reading what it printed gives the document again, so that
equal texts come from equal documents. -/
namespace Library
namespace Json

/-- A layout: escape everything outside printable ASCII or only what JSON must,
the indentation of one level, and the blanks after a comma and after a colon. -/
structure Style where
  ascii : Bool
  indent : Option Nat
  itemPad : Nat
  keyPad : Nat

def Style.itemSep (st : Style) : List Char := ',' :: List.replicate st.itemPad ' '
def Style.keySep (st : Style) : List Char := ':' :: List.replicate st.keyPad ' '

def hexDigit (n : Nat) : Char := Nat.digitChar n

def hexValue (c : Char) : Option Nat :=
  if c.isDigit then some (c.toNat - 48)
  else if 'a' ≤ c ∧ c ≤ 'f' then some (c.toNat - 87)
  else if 'A' ≤ c ∧ c ≤ 'F' then some (c.toNat - 55)
  else none

def escapeUnit (n : Nat) : List Char :=
  ['\\', 'u', hexDigit (n / 4096 % 16), hexDigit (n / 256 % 16),
    hexDigit (n / 16 % 16), hexDigit (n % 16)]

def isLow (n : Nat) : Bool := decide (0xdc00 ≤ n ∧ n < 0xe000)
def isHigh (n : Nat) : Bool := decide (0xd800 ≤ n ∧ n < 0xdc00)

def escapeChar (ascii : Bool) (c : Char) : List Char :=
  if c = '"' then ['\\', '"']
  else if c = '\\' then ['\\', '\\']
  else if c = '\n' then ['\\', 'n']
  else if c = '\r' then ['\\', 'r']
  else if c = '\t' then ['\\', 't']
  else if c = '\x08' then ['\\', 'b']
  else if c = '\x0c' then ['\\', 'f']
  else if c.toNat < 32 then escapeUnit c.toNat
  else if ascii = true ∧ 126 < c.toNat then
    if c.toNat < 0x10000 then escapeUnit c.toNat
    else escapeUnit (0xd800 + (c.toNat - 0x10000) / 1024) ++
      escapeUnit (0xdc00 + (c.toNat - 0x10000) % 1024)
  else [c]

def quote (ascii : Bool) (s : String) : List Char :=
  '"' :: s.toList.flatMap (escapeChar ascii) ++ ['"']

def newline (st : Style) (depth : Nat) : List Char :=
  match st.indent with
  | none => []
  | some n => '\n' :: List.replicate (n * depth) ' '

mutual
def render (st : Style) (depth : Nat) : Json → List Char
  | .null => ['n', 'u', 'l', 'l']
  | .bool true => ['t', 'r', 'u', 'e']
  | .bool false => ['f', 'a', 'l', 's', 'e']
  | .int n => n.repr.toList
  | .float r => r.val.toList
  | .str s => quote st.ascii s
  | .arr [] => ['[', ']']
  | .arr (x :: xs) => '[' :: newline st (depth + 1) ++ render st (depth + 1) x ++
      renderItems st (depth + 1) xs ++ newline st depth ++ [']']
  | .obj [] => ['{', '}']
  | .obj ((k, v) :: m) => '{' :: newline st (depth + 1) ++ quote st.ascii k ++ st.keySep ++
      render st (depth + 1) v ++ renderMembers st (depth + 1) m ++ newline st depth ++ ['}']
def renderItems (st : Style) (depth : Nat) : List Json → List Char
  | [] => []
  | x :: xs => st.itemSep ++ newline st depth ++ render st depth x ++ renderItems st depth xs
def renderMembers (st : Style) (depth : Nat) : List (String × Json) → List Char
  | [] => []
  | (k, v) :: m => st.itemSep ++ newline st depth ++ quote st.ascii k ++ st.keySep ++
      render st depth v ++ renderMembers st depth m
end

def isWs (c : Char) : Bool := c == ' ' || c == '\n' || c == '\t' || c == '\r'

def skipWs (cs : List Char) : List Char := cs.dropWhile isWs

def readUnit : List Char → Option (Nat × List Char)
  | a :: b :: c :: d :: rest => do
    let a ← hexValue a
    let b ← hexValue b
    let c ← hexValue c
    let d ← hexValue d
    some (4096 * a + 256 * b + 16 * c + d, rest)
  | _ => none

/-- One character of a string's body. A lone surrogate is no character. -/
def readChar : List Char → Option (Char × List Char)
  | '\\' :: '"' :: rest => some ('"', rest)
  | '\\' :: '\\' :: rest => some ('\\', rest)
  | '\\' :: '/' :: rest => some ('/', rest)
  | '\\' :: 'n' :: rest => some ('\n', rest)
  | '\\' :: 'r' :: rest => some ('\r', rest)
  | '\\' :: 't' :: rest => some ('\t', rest)
  | '\\' :: 'b' :: rest => some ('\x08', rest)
  | '\\' :: 'f' :: rest => some ('\x0c', rest)
  | '\\' :: 'u' :: rest => do
    let (n, rest) ← readUnit rest
    if isHigh n then
      match rest with
      | '\\' :: 'u' :: rest => do
        let (m, rest) ← readUnit rest
        if isLow m then some (Char.ofNat (0x10000 + 1024 * (n - 0xd800) + (m - 0xdc00)), rest)
        else none
      | _ => none
    else if isLow n then none
    else some (Char.ofNat n, rest)
  | '\\' :: _ => none
  | c :: rest => if c.toNat < 32 then none else some (c, rest)
  | [] => none

/-- The body of a string up to its closing quote. -/
def readBody : Nat → List Char → Option (List Char × List Char)
  | 0, _ => none
  | _ + 1, '"' :: rest => some ([], rest)
  | n + 1, cs => do
    let (c, rest) ← readChar cs
    let (s, rest) ← readBody n rest
    some (c :: s, rest)

/-- Decimal digits without a leading zero. -/
def isNumeral (ds : List Char) : Bool :=
  !ds.isEmpty && ds.all Char.isDigit && (ds.head? != some '0' || ds.length == 1)

def readInt (cs : List Char) : Option Int :=
  if cs.head? = some '-' then
    if isNumeral cs.tail then some (-(Nat.ofDigitChars 10 cs.tail 0 : Int)) else none
  else if isNumeral cs then some (Nat.ofDigitChars 10 cs 0)
  else none

/-- Literals, integers, and what the float reader makes of other tokens. -/
def readToken (readFloat : String → Option FloatText) (cs : List Char) : Option Json :=
  if cs = ['n', 'u', 'l', 'l'] then some .null
  else if cs = ['t', 'r', 'u', 'e'] then some (.bool true)
  else if cs = ['f', 'a', 'l', 's', 'e'] then some (.bool false)
  else match readInt cs with
    | some n => some (.int n)
    | none => (readFloat (String.ofList cs)).map .float

theorem hexValue_hexDigit : ∀ n < 16, hexValue (hexDigit n) = some n := by decide

theorem readUnit_escapeUnit (n : Nat) (h : n < 65536) (rest : List Char) :
    readUnit ((escapeUnit n).drop 2 ++ rest) = some (n, rest) := by
  have hd (m : Nat) : hexValue (hexDigit (m % 16)) = some (m % 16) :=
    hexValue_hexDigit _ (Nat.mod_lt _ (by decide))
  simp only [escapeUnit, List.drop_succ_cons, List.drop_zero, List.cons_append, List.nil_append,
    readUnit, hd, Option.bind_eq_bind, Option.bind_some, Option.some.injEq, Prod.mk.injEq, and_true]
  omega

theorem readChar_escapeUnit (n : Nat) (h : n < 65536) (hs : isHigh n = false ∧ isLow n = false)
    (rest : List Char) : readChar (escapeUnit n ++ rest) = some (Char.ofNat n, rest) := by
  have hu := readUnit_escapeUnit n h rest
  simp only [escapeUnit, List.drop_succ_cons, List.drop_zero, List.cons_append,
    List.nil_append] at hu ⊢
  simp [readChar, hu, hs]

/-- The two units of a surrogate pair are read back as one character. -/
theorem readChar_pair (n : Nat) (h : n < 0x100000) (rest : List Char) :
    readChar (escapeUnit (0xd800 + n / 1024) ++ (escapeUnit (0xdc00 + n % 1024) ++ rest)) =
      some (Char.ofNat (0x10000 + n), rest) := by
  have hm : n % 1024 < 1024 := Nat.mod_lt _ (by decide)
  have hu := readUnit_escapeUnit (0xd800 + n / 1024) (by omega)
    (escapeUnit (0xdc00 + n % 1024) ++ rest)
  have hv := readUnit_escapeUnit (0xdc00 + n % 1024) (by omega) rest
  have hh : isHigh (0xd800 + n / 1024) = true := by simp [isHigh]; omega
  have hl : isLow (0xdc00 + n % 1024) = true := by simp [isLow]; omega
  have he : 0x10000 + 1024 * (0xd800 + n / 1024 - 0xd800) + (0xdc00 + n % 1024 - 0xdc00) =
      0x10000 + n := by omega
  simp only [escapeUnit, List.drop_succ_cons, List.drop_zero, List.cons_append,
    List.nil_append] at hu hv ⊢
  simp only [readChar, hu, hv, hh, hl, he, Option.bind_eq_bind, Option.bind_some, if_true]

theorem toNat_not_surrogate (c : Char) (h : c.toNat < 0x10000) :
    isHigh c.toNat = false ∧ isLow c.toNat = false := by
  have hv : c.toNat < 0xd800 ∨ 0xdfff < c.toNat := by
    rcases c.valid with h | h
    · exact Or.inl h
    · exact Or.inr h.1
  constructor <;> simp only [isHigh, isLow, decide_eq_false_iff_not] <;> omega

theorem readChar_plain (c : Char) (hq : c ≠ '\\') (hc : 32 ≤ c.toNat) (rest : List Char) :
    readChar (c :: rest) = some (c, rest) := by
  unfold readChar
  split <;> simp_all

/-- Escapes form a prefix code: a character is read back with what follows it. -/
theorem readChar_escapeChar (ascii : Bool) (c : Char) (rest : List Char) :
    readChar (escapeChar ascii c ++ rest) = some (c, rest) := by
  unfold escapeChar
  split_ifs with h1 h2 h3 h4 h5 h6 h7 h8 h9 h10
  · subst h1; rfl
  · subst h2; rfl
  · subst h3; rfl
  · subst h4; rfl
  · subst h5; rfl
  · subst h6; rfl
  · subst h7; rfl
  · rw [readChar_escapeUnit _ (by omega) (toNat_not_surrogate c (by omega)), Char.ofNat_toNat]
  · rw [readChar_escapeUnit _ h10 (toNat_not_surrogate c h10), Char.ofNat_toNat]
  · have hb : c.toNat < 0x110000 := by
      rcases c.valid with h | h
      · have : c.toNat < 0xd800 := h
        omega
      · exact h.2
    rw [List.append_assoc, readChar_pair _ (by omega)]
    have he : 0x10000 + (c.toNat - 0x10000) = c.toNat := by omega
    rw [he, Char.ofNat_toNat]
  · exact readChar_plain c h2 (by omega) rest

theorem escapeChar_head (ascii : Bool) (c : Char) :
    ∃ d ds, escapeChar ascii c = d :: ds ∧ d ≠ '"' := by
  have hb : ('\\' : Char) ≠ '"' := by decide
  unfold escapeChar
  split_ifs with h1
  all_goals first | exact ⟨_, _, rfl, hb⟩ | exact ⟨_, _, rfl, h1⟩

theorem readBody_escape (ascii : Bool) (s rest : List Char) :
    ∀ n, s.length < n →
      readBody n (s.flatMap (escapeChar ascii) ++ '"' :: rest) = some (s, rest) := by
  induction s with
  | nil =>
    intro n hn
    cases n with
    | zero => simp at hn
    | succ n => rfl
  | cons c s ih =>
    intro n hn
    cases n with
    | zero => simp at hn
    | succ n =>
      obtain ⟨d, ds, hd, hq⟩ := escapeChar_head ascii c
      have hr := readChar_escapeChar ascii c (s.flatMap (escapeChar ascii) ++ '"' :: rest)
      have hs := ih n (by simpa using hn)
      simp only [List.flatMap_cons, List.append_assoc]
      rw [hd, List.cons_append] at hr ⊢
      rw [readBody]
      · simp [hr, hs]
      · intro r he
        exact hq (List.cons.inj he).1

end Json
end Library
