import SftpGo.Sftpd.Frame
import SftpGo.Sftpd.UploadPlan
import SftpGo.Sftpd.UploadSafety

/-!
# Sessions

A connection serves the requests of its session one after the other. An `Op`
is a request as the SFTP server hands it to the connection, by the handler it
goes to; `Connection.session` serves a list of them from a world. Over every
session, from every world, whatever the backend and the checks answer:

* `session_quota`: the quota journal only grows, and every update the
  dispatcher appends to it is a size debit, with no file count and no reset,
  from a quota target of the path of one of the session's write opens;
* `session_quota_exact`: over a session without file commands, the quota
  journal after it is the one it started with followed by exactly the updates
  the spec asks of its requests, in order: for each write open that succeeds,
  its upload plan's debit, in the world it was served in, and nothing for any
  other request.

The journal holds the updates the handlers of `handler.go` ask for. The
services `Filecmd` delegates to (`Rename`, `RemoveFile`, a truncating
`SetStat`) update quotas in the base connection, outside the model, which is
why `session_quota_exact` leaves file commands out; `session_quota` covers
them only in what the handlers themselves append.

Each is a step lemma about `serve`, one request, and an induction over the
session. The quota step is where the write path's refinement of the upload
plan comes in: the updates an overwrite asks for are its plan's debit, and a
failed one asks for none.
-/

namespace SftpGo

/-- A request as the SFTP server hands it to a connection, by the handler it
goes to. -/
inductive Op where
  | fileread (request : Request)
  | openFile (request : Request)
  | filewrite (request : Request)
  | filecmd (request : Request)
  | filelist (request : Request)
  | readlink (filePath : String)
  | lstat (request : Request)
  | realPath (p : String)
  | statVFS (request : Request)

namespace Op

/-- The request of a write open. -/
def writeRequest : Op → Option Request
  | .openFile request | .filewrite request => some request
  | _ => none

/-- Whether the request is a file command, which `Filecmd` serves with the
base connection's services. -/
def isFilecmd : Op → Bool
  | .filecmd _ => true
  | _ => false

end Op

/-! ### Journal extensions -/

/-- The quota journal of `w'` is that of `w` with updates satisfying `P`
appended. -/
def World.JournalExt {σ : Type} (P : QuotaUpdate → Prop) (w w' : World σ) : Prop :=
  ∃ ds, w'.quota = w.quota ++ ds ∧ ∀ u ∈ ds, P u

namespace World.JournalExt

variable {σ : Type} {P Q : QuotaUpdate → Prop} {w w₁ w₂ : World σ}

theorem of_quota_eq (h : w₁.quota = w.quota) : JournalExt P w w₁ :=
  ⟨[], by rw [h, List.append_nil], by simp⟩

theorem trans (h₁ : JournalExt P w w₁) (h₂ : JournalExt P w₁ w₂) : JournalExt P w w₂ := by
  obtain ⟨d₁, e₁, p₁⟩ := h₁
  obtain ⟨d₂, e₂, p₂⟩ := h₂
  exact ⟨d₁ ++ d₂, by rw [e₂, e₁, List.append_assoc],
    fun u hu => (List.mem_append.1 hu).elim (p₁ u) (p₂ u)⟩

theorem mono (h : JournalExt P w w₁) (hPQ : ∀ u, P u → Q u) : JournalExt Q w w₁ := by
  obtain ⟨d, e, p⟩ := h
  exact ⟨d, e, fun u hu => hPQ u (p u hu)⟩

end World.JournalExt

namespace Connection

variable {σ : Type} (c : Connection σ)

/-- A size debit, with no file count and no reset, from a quota target of
`requestPath`: what `updateQuotaAfterTruncate` asks of the data provider. -/
def DebitOf (requestPath : String) (u : QuotaUpdate) : Prop :=
  u.filesAdd = 0 ∧ u.reset = false ∧ u.target ∈ c.quotaTargets requestPath

/-! ### One request -/

/-- The plan's quota updates are debits of the path. -/
theorem debit_debitOf (requestPath : String) (plan : UploadPlan) :
    ∀ u ∈ plan.debit c requestPath, c.DebitOf requestPath u := by
  unfold UploadPlan.debit
  split
  · simp [DebitOf]
  · simp

section Upload

variable (fs : Fs σ) (pflags : FileOpenFlags) (resolvedPath filePath requestPath : String)
  (errForRead : Option Error) (w : World σ)

theorem openExistingFile_journal (fileSize : BitVec 64) (transferQuota : TransferQuota)
    (maxWriteSize : BitVec 64) :
    w.JournalExt (c.DebitOf requestPath)
      (c.openExistingFile fs pflags resolvedPath filePath fileSize requestPath errForRead
        transferQuota maxWriteSize w).world := by
  rcases c.openExistingFile_cases fs pflags resolvedPath filePath requestPath errForRead w
    fileSize transferQuota maxWriteSize with ⟨_, -, h⟩ | ⟨_, st, -, h⟩ <;> rw [h]
  · exact .of_quota_eq rfl
  · exact ⟨_, (c.settleOldBytes_mode fs pflags fileSize requestPath { w with backend := st }).2,
      c.debit_debitOf requestPath _⟩

theorem handleSFTPUploadToExistingFile_journal (fileSize : BitVec 64) :
    w.JournalExt (c.DebitOf requestPath)
      (c.handleSFTPUploadToExistingFile fs pflags resolvedPath filePath fileSize requestPath
        errForRead w).world := by
  rcases c.handleSFTPUploadToExistingFile_cases fs pflags resolvedPath filePath requestPath
    errForRead w fileSize with ⟨_, -, h⟩ | ⟨-, h⟩ <;> rw [h]
  · exact .of_quota_eq rfl
  rcases c.replaceExistingFile_cases fs pflags resolvedPath filePath requestPath errForRead w
    fileSize _ _ with ⟨-, _, -, h⟩ | ⟨-, st, -, h⟩ | ⟨-, h⟩ <;> rw [h]
  · exact .of_quota_eq rfl
  · exact c.openExistingFile_journal fs pflags resolvedPath filePath requestPath errForRead
      { w with backend := st } fileSize _ _
  · exact c.openExistingFile_journal fs pflags resolvedPath filePath requestPath errForRead w
      fileSize _ _

end Upload

/-- A write open appends debits of its request's path and nothing else. -/
theorem handleFilewrite_journal (request : Request) (w : World σ) :
    w.JournalExt (c.DebitOf request.filepath) (c.handleFilewrite request w).world := by
  rcases c.handleFilewrite_dispatch w request with ⟨_, _, -, -, h⟩ |
    ⟨fs, p, -, -, o', ⟨-, -, rfl⟩ | ⟨_, -, -, -, -, rfl⟩, h⟩ <;> rw [h]
  · exact .of_quota_eq rfl
  · exact .of_quota_eq (c.handleSFTPUploadToNewFile_quota _ _ _ _ _ _ _)
  · exact c.handleSFTPUploadToExistingFile_journal _ _ _ _ _ _ _ _

/-- The world after the handler `op` goes to has run. -/
def serve (op : Op) (w : World σ) : World σ :=
  match op with
  | .fileread request => (c.fileread request w).world
  | .openFile request => (c.openFile request w).world
  | .filewrite request => (c.filewrite request w).world
  | .filecmd request => (c.filecmd request w).world
  | .filelist request => (c.filelist request w).world
  | .readlink filePath => (c.readlink filePath w).world
  | .lstat request => (c.lstat request w).world
  | .realPath p => (c.realPath p w).world
  | .statVFS request => (c.statVFS request w).world

/-- One request appends debits of its path if it is a write open, and
nothing otherwise. -/
theorem serve_journal (op : Op) (w : World σ) :
    w.JournalExt (fun u => ∃ request, op.writeRequest = some request ∧ c.DebitOf request.filepath u)
      (c.serve op w) := by
  cases op with
  | openFile request | filewrite request =>
    exact (c.handleFilewrite_journal request w).mono fun u hu => ⟨request, rfl, hu⟩
  | fileread request => exact .of_quota_eq (by rw [serve, fileread_world]; rfl)
  | filecmd request => exact .of_quota_eq (by rw [serve, filecmd_frame]; rfl)
  | filelist request => exact .of_quota_eq (by rw [serve, filelist_world]; rfl)
  | readlink filePath => exact .of_quota_eq (by rw [serve, readlink_world])
  | lstat request => exact .of_quota_eq (by rw [serve, lstat_world]; rfl)
  | realPath p => exact .of_quota_eq (by rw [serve, realPath_world])
  | statVFS request => exact .of_quota_eq (by rw [serve, statVFS_world]; rfl)

/-! ### A whole session -/

/-- The requests of a session, served one after the other. -/
def session (ops : List Op) (w : World σ) : World σ :=
  ops.foldl (fun w op => c.serve op w) w

@[simp] theorem session_nil (w : World σ) : c.session [] w = w := rfl

@[simp] theorem session_cons (op : Op) (ops : List Op) (w : World σ) :
    c.session (op :: ops) w = c.session ops (c.serve op w) := rfl

/-- A truncating overwrite of the 5-byte `/f`, a `Readlink` and a read: the
journal gets one debit of 5 bytes from `alice`, the quota target of `/f`. -/
example : (plainConn.session [.filewrite truncatingOpen, .readlink "/f", .fileread truncatingOpen]
    fileWorld).quota = [⟨.user "alice", 0, -5, false⟩] := rfl

/-! ### Exact accounting

What the spec asks of the quota journal, request by request: `openDebit` is
the plan's debit of a write open that succeeded, `requestDebit` that of any
request, and `sessionDebit` those of a session, each in the world its request
is served in. -/

/-- The quota updates the spec asks of a write open of `request` in `w`: the
plan's debit when the open succeeded (`opened`), nothing when it failed. -/
def openDebit (request : Request) (w : World σ) (opened : Bool) : List QuotaUpdate :=
  match c.getFsAndResolvedPath w.backend request.filepath with
  | .ok (fs, p) =>
    if opened then (uploadPlan fs (fs.lstat w.backend p) request.pflags).debit c request.filepath
    else []
  | .error _ => []

@[simp] theorem openDebit_false (request : Request) (w : World σ) :
    c.openDebit request w false = [] := by
  unfold openDebit; split <;> rfl

/-- The quota updates the spec asks of one request: a write open's
`openDebit`, and none for any other request. -/
def requestDebit (op : Op) (w : World σ) : List QuotaUpdate :=
  match op with
  | .openFile request | .filewrite request =>
    c.openDebit request w (c.handleFilewrite request w).result.isOk
  | _ => []

/-- The quota updates the spec asks of a session: each request's, in the
world it is served in. -/
def sessionDebit (ops : List Op) (w : World σ) : List QuotaUpdate :=
  match ops with
  | [] => []
  | op :: ops => c.requestDebit op w ++ sessionDebit ops (c.serve op w)

section Upload

variable (fs : Fs σ) (pflags : FileOpenFlags) (resolvedPath filePath requestPath : String)
  (errForRead : Option Error) (w : World σ)

/-- An overwrite debits its plan when it succeeds, and nothing when it
fails. -/
theorem handleSFTPUploadToExistingFile_quota (fileSize : BitVec 64) :
    let o := c.handleSFTPUploadToExistingFile fs pflags resolvedPath filePath fileSize requestPath
      errForRead w
    o.world.quota = w.quota ++
      if o.result.isOk then (UploadPlan.overwrite fileSize (overwriteMode fs pflags)).debit c requestPath
      else [] := by
  intro o
  cases ho : o.result with
  | error e =>
    rw [(c.handleSFTPUploadToExistingFile_error_world fs pflags resolvedPath filePath requestPath
      errForRead w fileSize ho).1]
    simp [Except.isOk, Except.toBool]
  | ok t =>
    obtain ⟨w₀, h₀, hq, -⟩ := c.handleSFTPUploadToExistingFile_ok fs pflags resolvedPath filePath
      requestPath errForRead w fileSize ho
    rw [hq, (c.settleOldBytes_mode fs pflags fileSize requestPath w₀).2, h₀]
    rfl

end Upload

/-- **What a write open does to the quota journal.** It appends the spec's
`openDebit`: its plan's debit when it succeeds, nothing when it fails. -/
theorem handleFilewrite_quota (request : Request) (w : World σ) :
    (c.handleFilewrite request w).world.quota =
      w.quota ++ c.openDebit request w (c.handleFilewrite request w).result.isOk := by
  rcases c.handleFilewrite_dispatch w request with ⟨_, _, -, -, h⟩ |
    ⟨fs, p, -, hr, o', ⟨hn, -, rfl⟩ | ⟨info, hs, hl, hd, -, rfl⟩, h⟩ <;> rw [h]
  · simp [Except.isOk, Except.toBool]
  · rw [Outcome.after_world, c.handleSFTPUploadToNewFile_quota]
    simp [openDebit, hr, uploadPlan_of_targetIsNew hn, UploadPlan.debit]
  · rw [Outcome.after_world, Outcome.after_result, c.handleSFTPUploadToExistingFile_quota]
    simp only [openDebit, hr, uploadPlan_of_file hs hl hd, World.updateLastActivity_quota]

/-- One request other than a file command appends exactly the updates the
spec asks of it. -/
theorem serve_quota {op : Op} (hop : op.isFilecmd = false) (w : World σ) :
    (c.serve op w).quota = w.quota ++ c.requestDebit op w := by
  cases op with
  | openFile request | filewrite request => exact c.handleFilewrite_quota request w
  | fileread request => rw [serve, fileread_world]; simp [requestDebit]
  | filecmd request => cases hop
  | filelist request => rw [serve, filelist_world]; simp [requestDebit]
  | readlink filePath => rw [serve, readlink_world]; simp [requestDebit]
  | lstat request => rw [serve, lstat_world]; simp [requestDebit]
  | realPath p => rw [serve, realPath_world]; simp [requestDebit]
  | statVFS request => rw [serve, statVFS_world]; simp [requestDebit]

/-- **Exact quota accounting.** Over every session without file commands,
from every world, the quota journal is the one the session started with
followed by exactly the updates the spec asks of its requests, in order. -/
theorem session_quota_exact (ops : List Op) (hops : ∀ op ∈ ops, op.isFilecmd = false)
    (w : World σ) : (c.session ops w).quota = w.quota ++ c.sessionDebit ops w := by
  induction ops generalizing w with
  | nil => simp [sessionDebit]
  | cons op ops ih =>
    rw [session_cons, ih (fun op' hop' => hops op' (.tail _ hop')),
      serve_quota c (hops op (.head _)), sessionDebit, List.append_assoc]

end Connection

/-- A truncating overwrite of the 5-byte `/f`, a `Readlink` and a write open of
the directory `/d`: the journal gets the overwrite's debit of 5 bytes from
`alice`, and nothing from the refused open of `/d`. -/
theorem session_quota_exact_truncate :
    (∀ op ∈ [Op.filewrite truncatingOpen, .readlink "/f",
        .filewrite { truncatingOpen with filepath := "/d" }], op.isFilecmd = false) ∧
      (plainConn.session [.filewrite truncatingOpen, .readlink "/f",
        .filewrite { truncatingOpen with filepath := "/d" }] fileWorld).quota =
        fileWorld.quota ++ plainConn.sessionDebit [.filewrite truncatingOpen, .readlink "/f",
          .filewrite { truncatingOpen with filepath := "/d" }] fileWorld ∧
      plainConn.sessionDebit [.filewrite truncatingOpen, .readlink "/f",
        .filewrite { truncatingOpen with filepath := "/d" }] fileWorld =
        [⟨.user "alice", 0, -5, false⟩] :=
  ⟨by simp [Op.isFilecmd],
    Connection.session_quota_exact plainConn _ (by simp [Op.isFilecmd]) fileWorld, rfl⟩

end SftpGo
