import Mathlib
import LineageTX.Library.JsonParse

/-! Exceptions, and the parts of Python's standard library that the code calls
but whose inner workings no result depends on. -/
namespace LineageTX
open Library

inductive ExnClass where
  | valueError | typeError | keyError | attributeError | osError | integrityError
  | migrationNotFound | migrationAlreadyExists | participantNotFound | stateConflict
  | illegalStateTransition | preparationGuardFailed | commitGuardFailed | approvalGuardFailed
  | verificationGuardFailed | parentMigrationTerminal | abortCleanupFailed
  | publicationReconciliationRequired
  | dataHubContextReadError | impactFingerprintChanged | dataHubWritebackError
  | dataHubPartialWriteError | policyViolation | proposalError | candidateRejected
  | worktreeError | baseRepositoryChanged | mergedCandidateError
  | approvalVerificationError | publicationError | evidenceError | coordinationError
  | other (name : String)
  deriving DecidableEq

structure Exn where
  cls : ExnClass
  msg : String
  deriving DecidableEq

abbrev Result := Except Exn

def raise {α : Type} (cls : ExnClass) (msg : String) : Result α := .error ⟨cls, msg⟩

/-- Raise unless the check holds. -/
def require (check : Bool) (cls : ExnClass) (msg : String) : Result Unit :=
  if check then .ok () else raise cls msg

@[simp] theorem require_eq_ok {check : Bool} {cls : ExnClass} {msg : String} {u : Unit} :
    require check cls msg = .ok u ↔ check = true := by
  unfold require raise
  split <;> simp_all

/-- A check made in one case only. -/
def onlyIf (applies : Prop) [Decidable applies] (check : Result Unit) : Result Unit :=
  if applies then check else .ok ()

@[simp] theorem onlyIf_eq_ok {applies : Prop} [Decidable applies] {check : Result Unit} {u : Unit} :
    onlyIf applies check = .ok u ↔ (applies → check = .ok ()) := by
  unfold onlyIf
  split <;> simp_all

theorem ok_bind {α β : Type} (a : α) (f : α → Result β) : (Except.ok a : Result α) >>= f = f a :=
  rfl

/-- A successful bind is two successes. -/
theorem bind_eq_ok {α β : Type} {x : Result α} {f : α → Result β} {b : β} :
    x >>= f = .ok b ↔ ∃ a, x = .ok a ∧ f a = .ok b := by
  cases x with
  | error e => exact ⟨fun h => (nomatch h), fun ⟨_, h, _⟩ => (nomatch h)⟩
  | ok a =>
    constructor
    · exact fun h => ⟨a, rfl, h⟩
    · rintro ⟨_, ⟨⟩, hf⟩
      exact hf

theorem map_eq_ok {α β : Type} {x : Result α} {f : α → β} {b : β} :
    x.map f = .ok b ↔ ∃ a, x = .ok a ∧ f a = b := by
  cases x with
  | error e => exact ⟨fun h => (nomatch h), fun ⟨_, h, _⟩ => (nomatch h)⟩
  | ok a =>
    constructor
    · exact fun h => ⟨a, rfl, Except.ok.inj h⟩
    · rintro ⟨_, ⟨⟩, rfl⟩
      rfl

theorem exists_of_isOk {α : Type} {x : Result α} (h : x.isOk = true) : ∃ a, x = .ok a := by
  cases x with
  | error e => cases h
  | ok a => exact ⟨a, rfl⟩

/-- A successful traversal visited every element with success. -/
theorem exists_of_mapM_ok {α β : Type} {f : α → Result β} {l : List α} {bs : List β}
    (h : l.mapM f = .ok bs) {a : α} (ha : a ∈ l) : ∃ b ∈ bs, f a = .ok b := by
  induction l generalizing bs with
  | nil => cases ha
  | cons x l ih =>
    simp only [List.mapM_cons, bind_eq_ok] at h
    obtain ⟨b, hb, bs', hbs, ⟨⟩⟩ := h
    rcases List.mem_cons.mp ha with rfl | ha
    · exact ⟨b, by simp, hb⟩
    · obtain ⟨b', hmem, hb'⟩ := ih hbs ha
      exact ⟨b', by simp [hmem], hb'⟩

/-- The parts of a URL; its port is read only when it is asked for, which may fail. -/
structure SplitUrl where
  scheme : String
  netloc : String
  path : String
  query : String
  fragment : String
  username : Option String
  password : Option String
  hostname : Option String
  port : Result (Option Nat)
  deriving DecidableEq

/-- Library functions taken as they are: the digest, the values of the decimal
digits of Unicode, the URL splitter, whether a text is an ISO-8601 time and then
whether it is in UTC, the conversions `str`, `int` and `float` of values outside
their ordinary domain, the case mappings of Unicode, and what `json.loads` raises
for a text from outside that is past the limits of the interpreter. -/
structure Python where
  sha256 : String → String
  decimal : Char → Option Nat
  urlsplit : String → Result SplitUrl
  fromIsoFormat : String → Option Bool
  reprContainer : Json → String
  intOther : Json → Result Int
  toFloat : Json → Result FloatText
  jsonDecodeError : String → String
  casefold : String → String
  upper : String → String
  jsonLimits : String → Option Exn

/-- `str.isspace` of one character. -/
def isSpace (c : Char) : Bool :=
  let n := c.toNat
  (9 ≤ n && n ≤ 13) || (28 ≤ n && n ≤ 32) || n == 0x85 || n == 0xa0 || n == 0x1680 ||
    (0x2000 ≤ n && n ≤ 0x200a) || n == 0x2028 || n == 0x2029 || n == 0x202f || n == 0x205f ||
    n == 0x3000

/-- `not text.strip()`. -/
def isBlank (s : String) : Bool := s.toList.all isSpace

def startsWith (s pre : String) : Bool := pre.toList.isPrefixOf s.toList

def endsWith (s suf : String) : Bool := suf.toList.isSuffixOf s.toList

/-- `part in text`. -/
def hasSubstring (s part : String) : Bool := s.toList.tails.any part.toList.isPrefixOf

variable (py : Python)

/-- `str(value)` -/
def Python.str : Json → String
  | .null => "None"
  | .bool true => "True"
  | .bool false => "False"
  | .int n => n.repr
  | .float r => r.val
  | .str s => s
  | j => py.reprContainer j

@[simp] theorem Python.str_str (s : String) : py.str (.str s) = s := rfl

/-- `int(value)` -/
def Python.int : Json → Result Int
  | .int n => .ok n
  | .bool b => .ok (if b then 1 else 0)
  | j => py.intOther j

/-- The truth value of `value or default`. -/
def truthy : Json → Bool
  | .null => false
  | .bool b => b
  | .int n => n ≠ 0
  | .float r => r.val ≠ "0.0" && r.val ≠ "-0.0"
  | .str s => s ≠ ""
  | .arr xs => xs ≠ []
  | .obj m => m ≠ []

def Python.reprStr (s : String) : String := py.reprContainer (.str s)

/-- One digit or more, and what follows them. -/
def dropDigits : List Char → Option (List Char)
  | c :: cs => if c.isDigit then some (cs.dropWhile Char.isDigit) else none
  | [] => none

/-- A JSON number that is not an integer. -/
def isJsonFloat (cs : List Char) : Bool :=
  let body := if cs.head? = some '-' then cs.tail else cs
  let rest := body.dropWhile Char.isDigit
  let afterFraction := match rest with
    | '.' :: r => dropDigits r
    | r => some r
  let complete := match afterFraction with
    | some [] => true
    | some (e :: '+' :: r) | some (e :: '-' :: r) | some (e :: r) =>
      (e = 'e' || e = 'E') && dropDigits r = some []
    | none => false
  Json.isNumeral (body.takeWhile Char.isDigit) && rest ≠ [] && complete

/-- `float(token)` of the number tokens that `json.loads` knows. -/
def Python.readFloat (token : String) : Option FloatText :=
  if isJsonFloat token.toList || ["NaN", "Infinity", "-Infinity"].contains token then
    (py.toFloat (.str token)).toOption
  else none

/-- Whether `json.loads` gets through a text from outside at all. -/
def Python.checkLimits (text : String) : Result Unit :=
  match py.jsonLimits text with
  | some e => .error e
  | none => .ok ()

/-- Whether `int` converts so many decimal digits. -/
def checkDigits (digits : String) : Result Unit :=
  require (digits.length ≤ 4300) .valueError
    "Exceeds the limit (4300 digits) for integer string conversion"

/-- `json.loads`, with the exception class that the caller makes of an error. -/
def Python.jsonLoads (cls : ExnClass) (what text : String) : Result Json :=
  let cs := text.toList
  match Json.parseValue py.readFloat (2 * cs.length + 2) cs with
  | some (j, rest) =>
    if Json.skipWs rest = [] then .ok j.collapse
    else raise cls (what ++ py.jsonDecodeError text)
  | none => raise cls (what ++ py.jsonDecodeError text)

def isObj : Json → Bool
  | .obj _ => true
  | _ => false

def asStr? : Json → Option String
  | .str s => some s
  | _ => none

/-- What a `for` loop over the value runs through. -/
def iterate : Json → Result (List Json)
  | .arr xs => .ok xs
  | .str s => .ok (s.toList.map fun c => .str (String.singleton c))
  | .obj m => .ok (m.map fun e => .str e.1)
  | _ => raise .typeError "object is not iterable"

/-- `value[key]` -/
def getItem (j : Json) (key : String) : Result Json :=
  match j with
  | .obj m =>
    match m.lookup key with
    | some v => .ok v
    | none => raise .keyError key
  | _ => raise .typeError "object is not subscriptable"

theorem getItem_eq_ok {j v : Json} {key : String} :
    getItem j key = .ok v ↔ j.get? key = some v := by
  cases j with
  | obj m =>
    simp only [getItem, Json.get?_obj]
    split <;> rename_i h <;> simp [h, raise]
  | _ => simp [getItem, Json.get?, raise]

/-- `value.get(key, default)` of a mapping. -/
def getD (j : Json) (key : String) (default : Json) : Json := (j.get? key).getD default

/-- A library for evaluations, with the digests they need, that answers rightly for
plain `https://host/path` URLs and for times in UTC. -/
def Python.sample (sha256 : String → String) : Python where
  sha256
  decimal c := if c.isDigit then some (c.toNat - 48) else none
  urlsplit s :=
    let rest := s.toList.drop 8
    let host := String.ofList (rest.takeWhile (· ≠ '/'))
    if startsWith s "https://" then
      .ok ⟨"https", host, String.ofList (rest.dropWhile (· ≠ '/')), "", "", none, none, some host,
        .ok none⟩
    else .ok ⟨"", "", s, "", "", none, none, none, .ok none⟩
  fromIsoFormat s := if endsWith s "Z" then some true else none
  reprContainer _ := ""
  intOther _ := raise .typeError "int() argument"
  toFloat _ := raise .typeError "float() argument"
  jsonDecodeError _ := "Expecting value"
  casefold s := String.ofList (s.toList.map Char.toLower)
  upper s := String.ofList (s.toList.map Char.toUpper)
  jsonLimits _ := none

end LineageTX
