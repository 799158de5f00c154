import LineageTX.Adapters
import LineageTX.Library.Dict
import LineageTX.Library.Prog

/-! Files below a root, the calls that programs make on them, and what is left when a
program is cut off. -/
namespace LineageTX
open Library

theorem pathParts_append (a b : String) : pathParts (a ++ "/" ++ b) = pathParts a ++ pathParts b := by
  have hchars : (a ++ "/" ++ b).toList = a.toList ++ '/' :: b.toList := by simp
  rw [pathParts, hchars, List.splitOn_append_cons_self, List.map_append, List.filter_append, pathParts,
    pathParts]

/-- One component of a path. -/
structure IsPart (part : String) : Prop where
  noSlash : '/' ∉ part.toList
  kept : part ≠ "" ∧ part ≠ "."

theorem pathParts_part {part : String} (h : IsPart part) : pathParts part = [part] := by
  have hsplit : part.toList.splitOn '/' = [part.toList] := List.splitOn_eq_singleton h.noSlash
  have hkept : (decide (part ≠ "") && decide (part ≠ ".")) = true := by simp [h.kept]
  rw [pathParts, hsplit]
  simpa using hkept

/-- What a symbolic link leads to. -/
inductive LinkTarget where
  | nothing | directory | special
  | file (content : ByteArray)
  deriving DecidableEq

inductive Node where
  | directory | special
  | file (content : ByteArray)
  | link (target : LinkTarget)
  deriving DecidableEq

/-- What lies at each relative path. -/
abbrev Files := Dict Node

namespace Node

/-- `path.exists()`, which follows links. -/
def isThere : Node → Bool
  | .link .nothing => false
  | _ => true

/-- The bytes of `path.is_file()`, which follows links. -/
def content? : Node → Option ByteArray
  | .file content | .link (.file content) => some content
  | _ => none

def isLink : Node → Bool
  | .link _ => true
  | _ => false

end Node

/-- `below` lies in the directory `path`. -/
def isBelow (path below : String) : Bool := startsWith below (path ++ "/")

/-- The directories on the way to a path. -/
def directoriesTo (path : String) : List String :=
  ((pathParts path).inits.drop 1).dropLast.map ("/".intercalate ·)

namespace Files

def remove (t : Files) (path : String) : Files := t.filterKeys (· ≠ path)

/-- Everything at the path and below it. -/
def removeTree (t : Files) (path : String) : Files :=
  t.filterKeys fun p => p ≠ path && !isBelow path p

def isEmptyAt (t : Files) (path : String) : Bool := t.keys.all fun p => !isBelow path p

/-- Each directory is made where nothing is, and may be there already. -/
def makeDirectories (t : Files) : List String → Option Files
  | [] => some t
  | path :: paths =>
    match t.get? path with
    | none => makeDirectories (t.set path .directory) paths
    | some .directory | some (.link .directory) => makeDirectories t paths
    | some _ => none

theorem get?_remove (t : Files) (path p : String) :
    (t.remove path).get? p = if p = path then none else t.get? p := by
  rw [remove, Dict.get?_filterKeys]
  by_cases h : p = path <;> simp [h]

end Files

/-- A call on the file system. -/
inductive FileOp where
  | isFile (path : String)
  | isPresent (path : String)
  | isLink (path : String)
  | hasEntries (path : String)
  | readText (path : String)
  /-- `path.unlink()` -/
  | unlink (path : String)
  /-- `path.open("xb")` -/
  | create (path : String)
  /-- The bytes of an open file, flushed to disk. -/
  | write (path : String) (content : ByteArray)
  /-- `path.write_text(text, encoding="utf-8")` -/
  | writeText (path text : String)
  /-- `source.replace(target)` -/
  | rename (source target : String)
  | rmtree (path : String)
  | rmdir (path : String)
  /-- `path.mkdir(parents=True, exist_ok=...)` -/
  | mkdir (path : String) (existOk : Bool)
  deriving DecidableEq

abbrev FileOp.Reply : FileOp → Type
  | .isFile _ | .isPresent _ | .isLink _ | .hasEntries _ => Bool
  | .readText _ => String
  | _ => Unit

abbrev FileProg := Prog Exn FileOp.Reply

def FileOp.run (c : FileOp) : FileProg c.Reply := Prog.perform c

/-- `path.parent.mkdir(parents=True, exist_ok=True)`, for a path below the root. -/
def makeParent (path : String) : FileProg Unit :=
  match (directoriesTo path).getLast? with
  | some parent => (FileOp.mkdir parent true).run
  | none => pure ()

/-- The text of a file that is decoded as UTF-8. -/
def decodeText (content : ByteArray) : Result String :=
  match String.fromUTF8? content with
  | none => raise .valueError "'utf-8' codec can't decode"
  | some text => .ok (String.ofList (universalNewlines text.toList))

theorem decodeText_toUTF8 {text : String} (h : '\r' ∉ text.toList) : decodeText text.toUTF8 = .ok text := by
  have hvalid : String.fromUTF8? text.toUTF8 = some text := by
    unfold String.fromUTF8?
    rw [String.toUTF8_eq_toByteArray, dif_pos text.isValidUTF8]
    rfl
  rw [decodeText, hvalid]
  dsimp only
  rw [universalNewlines_eq_self h, String.ofList_toList]

/-- A path of one component has no directory on its way. -/
theorem directoriesTo_part {part : String} (h : IsPart part) : directoriesTo part = [] := by
  rw [directoriesTo, pathParts_part h]
  rfl

namespace Files

def osError {α : Type} (path : String) : Result α := raise .osError path

/-- The answer to a call, and the files after it. -/
def answer (t : Files) : (c : FileOp) → Result c.Reply × Files
  | .isFile path => (.ok ((t.get? path).any fun n => n.content?.isSome), t)
  | .isPresent path => (.ok ((t.get? path).any Node.isThere), t)
  | .isLink path => (.ok ((t.get? path).any Node.isLink), t)
  | .hasEntries path =>
    if t.get? path = some .directory then (.ok (!t.isEmptyAt path), t) else (osError path, t)
  | .readText path =>
    match (t.get? path).bind Node.content? with
    | some content => (decodeText content, t)
    | none => (osError path, t)
  | .unlink path =>
    match t.get? path with
    | none | some .directory => (osError path, t)
    | some _ => (.ok (), t.remove path)
  | .create path =>
    match t.get? path with
    | none => (.ok (), t.set path (.file .empty))
    | some _ => (osError path, t)
  | .write path content => (.ok (), t.set path (.file content))
  | .writeText path text =>
    match t.get? path with
    | none | some (.file _) => (.ok (), t.set path (.file text.toUTF8))
    | some _ => (osError path, t)
  | .rename source target =>
    match t.get? source, t.get? target with
    | none, _ | some .directory, _ | _, some .directory => (osError source, t)
    | some node, _ => (.ok (), (t.remove source).set target node)
  | .rmtree path =>
    if t.get? path = some .directory then (.ok (), t.removeTree path) else (osError path, t)
  | .rmdir path =>
    if t.get? path = some .directory ∧ t.isEmptyAt path = true then (.ok (), t.remove path)
    else (osError path, t)
  | .mkdir path existOk =>
    match t.get? path, t.makeDirectories (directoriesTo path) with
    | none, some t' => (.ok (), t'.set path .directory)
    | some .directory, _ => if existOk then (.ok (), t) else (osError path, t)
    | _, _ => (osError path, t)

/-- A rename of what is no directory: its target is none either. -/
theorem answer_rename {t : Files} {source target : String} {node : Node}
    (hsource : t.get? source = some node) (hnode : node ≠ .directory) :
    t.answer (.rename source target) = if t.get? target = some .directory then (osError source, t)
      else (.ok (), (t.remove source).set target node) := by
  have hanswer : t.answer (.rename source target) = match t.get? source, t.get? target with
    | none, _ | some .directory, _ | _, some .directory => (osError source, t)
    | some node, _ => (.ok (), (t.remove source).set target node) := rfl
  rw [hanswer, hsource]
  cases htarget : t.get? target with
  | none => cases node <;> first | rfl | exact absurd rfl hnode
  | some found => cases node <;> cases found <;> first | rfl | exact absurd rfl hnode

theorem answer_create {t : Files} {path : String} {reply : Result Unit} {t' : Files}
    (h : t.answer (.create path) = (reply, t')) :
    (t.get? path = none ∧ reply = .ok () ∧ t' = t.set path (.file .empty)) ∨
      (t.get? path ≠ none ∧ reply = osError path ∧ t' = t) := by
  have hanswer : t.answer (.create path) = match t.get? path with
    | none => (.ok (), t.set path (.file .empty))
    | some _ => (osError path, t) := rfl
  rw [hanswer] at h
  cases hget : t.get? path with
  | none => rw [hget] at h; cases h; exact .inl ⟨rfl, rfl, rfl⟩
  | some node => rw [hget] at h; cases h; exact .inr ⟨by simp, rfl, rfl⟩

theorem answer_writeText {t : Files} {path text : String} {u : Unit} {t' : Files}
    (h : t.answer (.writeText path text) = (.ok u, t')) : t' = t.set path (.file text.toUTF8) := by
  have hanswer : t.answer (.writeText path text) = match t.get? path with
    | none | some (.file _) => (.ok (), t.set path (.file text.toUTF8))
    | some _ => (osError path, t) := rfl
  rw [hanswer] at h
  split at h
  · exact (Prod.mk.inj h).2.symm
  · exact (Prod.mk.inj h).2.symm
  · cases h

/-- The files that a call may leave when the process dies in it: a part of what is written,
a part of the tree that is removed. -/
inductive Torn (t : Files) : FileOp → Files → Prop
  | before (c : FileOp) : Torn t c t
  | after (c : FileOp) : Torn t c (t.answer c).2
  | write {path : String} {content part : ByteArray} (hpart : part.data.toList <+: content.data.toList) :
      Torn t (.write path content) (t.set path (.file part))
  | writeText {path text : String} {part : ByteArray} (hfile : (t.answer (.writeText path text)).1.isOk)
      (hpart : part.data.toList <+: text.toUTF8.data.toList) :
      Torn t (.writeText path text) (t.set path (.file part))
  /-- Entries go in any order, a directory only after all that lies in it. -/
  | rmtree {path : String} {t' : Files} (hroot : t.get? path = some .directory)
      (hout : ∀ p, p ≠ path → isBelow path p = false → t'.get? p = t.get? p)
      (hin : ∀ p, t'.get? p = none ∨ t'.get? p = t.get? p)
      (hfull : ∀ p q, isBelow p q = true → (p = path ∨ isBelow path p = true) → t'.get? q ≠ none →
        t'.get? p = t.get? p) : Torn t (.rmtree path) t'
  | mkdir {path : String} {existOk : Bool} {made : List String} {t' : Files}
      (hmade : made <+: directoriesTo path) (ht' : t.makeDirectories made = some t') :
      Torn t (.mkdir path existOk) t'

/-- The server that computes its answers. -/
def Serves (t : Files) (c : FileOp) (reply : Result c.Reply) (t' : Files) : Prop :=
  t.answer c = (reply, t')

theorem get?_removeTree (t : Files) (path p : String) :
    (t.removeTree path).get? p = if p = path ∨ isBelow path p = true then none else t.get? p := by
  rw [removeTree, Dict.get?_filterKeys]
  by_cases h : p = path <;> by_cases hb : isBelow path p = true <;> simp [h, hb]

theorem isEmptyAt_iff {t : Files} {path : String} :
    t.isEmptyAt path = true ↔ ∀ p, isBelow path p = true → t.get? p = none := by
  rw [isEmptyAt, List.all_eq_true]
  constructor
  · intro h p hp
    cases hget : t.get? p with
    | none => rfl
    | some node =>
      have hkey := h p ((Dict.mem_keys t p).mpr ⟨node, hget⟩)
      rw [hp] at hkey
      cases hkey
  · intro h p hp
    obtain ⟨node, hget⟩ := (Dict.mem_keys t p).mp hp
    refine Bool.not_eq_true' _ |>.mpr (Bool.eq_false_iff.mpr fun hbelow => ?_)
    rw [h p hbelow] at hget
    cases hget

end Files

/-- A call that changes nothing. -/
def FileOp.Asks : FileOp → Prop
  | .isFile _ | .isPresent _ | .isLink _ | .hasEntries _ | .readText _ => True
  | _ => False

theorem Files.answer_asks {t : Files} {c : FileOp} (h : c.Asks) : (t.answer c).2 = t := by
  cases c with
  | isFile | isPresent | isLink => rfl
  | hasEntries path =>
    unfold Files.answer
    dsimp only
    split <;> rfl
  | readText path =>
    unfold Files.answer
    dsimp only
    split <;> rfl
  | _ => exact h.elim

theorem Files.torn_asks {t t' : Files} {c : FileOp} (h : c.Asks) (ht : t.Torn c t') : t' = t := by
  cases ht with
  | before => rfl
  | after => exact answer_asks h
  | _ => exact h.elim

/-- The files when a program dies in one of its calls. -/
def DiesIn {α : Type} (p : FileProg α) (t : Files) (c : FileOp) (t' : Files) : Prop :=
  ∃ t₁, p.MakesCall Files.Serves t c t₁ ∧ t₁.Torn c t'

end LineageTX
