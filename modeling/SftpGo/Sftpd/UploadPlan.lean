import SftpGo.Sftpd.Upload

/-!
# The upload state machine, and the write path that implements it

The spec describes the write path as a state machine over the target's
`Lstat` answer. No entry, or a link, is a new file; a directory is refused; a
file is an overwrite, which the open flags and the backend's capabilities
split into a resume (the old bytes stay, and writes may have to start at their
end), a truncation the backend performs on open (the old size is debited from
the quota at once), and a truncation it does not (the transfer's close
accounts for the old size).

`uploadPlan` is that state machine, written from the spec; `UploadPlan.offsets`
and `UploadPlan.debit` say what each state promises: the offsets the transfer
starts with, and the quota updates made before it starts.

* `settleOldBytes_mode`: the overwrite's bookkeeping is the one its mode
  promises;
* `handleFilewrite_refines_plan`: a successful write open starts the transfer
  the plan promises, makes the plan's quota updates and no others, and marks
  the transfer new exactly when the plan is a new file.
-/

namespace SftpGo

/-! ### The abstract state machine -/

/-- The sub-states of an overwrite. -/
inductive OverwriteMode where
  /-- The old bytes stay; when `pinned`, writes may not start before their
  end. -/
  | resume (pinned : Bool)
  /-- The backend truncates on open, and the old size is debited at once. -/
  | truncateNow
  /-- The backend does not truncate on open; the transfer's close accounts
  for the old size. -/
  | truncateOnClose
  deriving DecidableEq, Repr

/-- The state the upload state machine selects for a write open. -/
inductive UploadPlan where
  /-- No entry, or a link: a new file. -/
  | createNew
  /-- A file of `size` bytes, overwritten in `mode`. -/
  | overwrite (size : BitVec 64) (mode : OverwriteMode)
  /-- A directory: refused as an unsupported operation. -/
  | directory
  /-- The `Lstat` failed otherwise: refused with its error. -/
  | statFailed (err : FsError)
  deriving DecidableEq, Repr

variable {σ : Type}

/-- The overwrite mode the spec gives the open flags on a backend: without the
truncate flag, a resume, pinned when the client appends or the backend cannot
resume by itself; with it, a truncation now or at close, as the backend can
truncate on open or not. -/
def overwriteMode (fs : Fs σ) (pflags : FileOpenFlags) : OverwriteMode :=
  if !pflags.trunc then .resume (pflags.append || !fs.isUploadResumeSupported)
  else if fs.hasTruncateSupport then .truncateNow
  else .truncateOnClose

/-- The state the spec selects from the target's `Lstat` answer. -/
def uploadPlan (fs : Fs σ) (stat : Except FsError FileInfo) (pflags : FileOpenFlags) :
    UploadPlan :=
  match stat with
  | .error err => if fs.isNotExist err then .createNew else .statFailed err
  | .ok info =>
    if info.isSymlink then .createNew
    else if info.isDir then .directory
    else .overwrite info.size (overwriteMode fs pflags)

/-- The offsets a transfer in this state starts with: the minimum write
offset, the initial size and the truncated size. The refused states start no
transfer. -/
def UploadPlan.offsets : UploadPlan → Option (BitVec 64 × BitVec 64 × BitVec 64)
  | .createNew => some (0, 0, 0)
  | .overwrite size (.resume pinned) => some (if pinned then size else 0, size, 0)
  | .overwrite _ .truncateNow => some (0, 0, 0)
  | .overwrite size .truncateOnClose => some (0, size, size)
  | .directory | .statFailed _ => none

/-- The quota updates a write open in this state makes before the transfer
starts: a debit of the old size from each quota target of the path for a
truncation now, none otherwise. -/
def UploadPlan.debit (c : Connection σ) (requestPath : String) : UploadPlan → List QuotaUpdate
  | .overwrite size .truncateNow =>
    (c.quotaTargets requestPath).map fun target => ⟨target, 0, -size, false⟩
  | _ => []

/-! ### The write path follows it -/

namespace Connection

variable (c : Connection σ)

/-- The overwrite's bookkeeping is the one its mode promises. -/
theorem settleOldBytes_mode (fs : Fs σ) (pflags : FileOpenFlags) (fileSize : BitVec 64)
    (requestPath : String) (w : World σ) :
    let r := c.settleOldBytes fs pflags fileSize requestPath w
    let plan := UploadPlan.overwrite fileSize (overwriteMode fs pflags)
    plan.offsets = some (r.1, r.2.1, r.2.2.1) ∧
      r.2.2.2.quota = w.quota ++ plan.debit c requestPath := by
  cases ht : pflags.trunc
  · rw [c.settleOldBytes_resume fs pflags fileSize requestPath w ht]
    simp [overwriteMode, UploadPlan.offsets, UploadPlan.debit, ht]
  · rw [c.settleOldBytes_truncate fs pflags fileSize requestPath w ht]
    cases hs : fs.hasTruncateSupport
    · simp [overwriteMode, UploadPlan.offsets, UploadPlan.debit, ht, hs]
    · simp [overwriteMode, UploadPlan.offsets, UploadPlan.debit, ht, hs,
        updateQuotaAfterTruncate_quota]

/-- A new-file upload leaves the quota journal as it was. -/
theorem handleSFTPUploadToNewFile_quota (fs : Fs σ) (pflags : FileOpenFlags)
    (resolvedPath filePath requestPath : String) (errForRead : Option Error) (w : World σ) :
    (c.handleSFTPUploadToNewFile fs pflags resolvedPath filePath requestPath errForRead
      w).world.quota = w.quota := by
  rcases c.handleSFTPUploadToNewFile_cases fs pflags resolvedPath filePath requestPath errForRead w
    with ⟨_, -, h⟩ | ⟨-, h⟩
  · rw [h]; rfl
  · rw [h]
    rcases c.createNewFile_cases fs pflags resolvedPath filePath requestPath errForRead w _ _
      with ⟨_, -, h'⟩ | ⟨_, _, -, h'⟩ <;> rw [h'] <;> rfl

/-- The plan of a path the `Lstat` found nothing at, or a link at. -/
theorem uploadPlan_of_targetIsNew {fs : Fs σ} {stat : Except FsError FileInfo}
    (h : targetIsNew fs stat = true) (pflags : FileOpenFlags) :
    uploadPlan fs stat pflags = .createNew := by
  cases stat <;> simp_all [targetIsNew, uploadPlan]

/-- The plan of a path the `Lstat` found a file at, not a link: an overwrite of
its size. -/
theorem uploadPlan_of_file {fs : Fs σ} {stat : Except FsError FileInfo} {info : FileInfo}
    (hs : stat = .ok info) (hl : info.isSymlink = false) (hd : info.isDir = false)
    (pflags : FileOpenFlags) :
    uploadPlan fs stat pflags = .overwrite info.size (overwriteMode fs pflags) := by
  simp [uploadPlan, hs, hl, hd]

/-- **The write path refines the upload state machine.** A successful write
open starts the transfer its plan promises, with the quota updates of the plan
and no others, and marks the transfer new exactly when the plan is a new
file. -/
theorem handleFilewrite_refines_plan (request : Request) (w : World σ) {t : Transfer}
    (ht : (c.handleFilewrite request w).result = .ok t) :
    ∃ fs p, c.getFsAndResolvedPath w.backend request.filepath = .ok (fs, p) ∧
      let plan := uploadPlan fs (fs.lstat w.backend p) request.pflags
      plan.offsets = some (t.minWriteOffset, t.initialSize, t.truncatedSize) ∧
      (c.handleFilewrite request w).world.quota = w.quota ++ plan.debit c request.filepath ∧
      t.isNewFile = decide (plan = .createNew) := by
  rcases c.handleFilewrite_dispatch w request with ⟨_, _, -, -, h⟩ |
    ⟨fs, p, -, hr, o', hbranch, h⟩
  · rw [h] at ht; cases ht
  refine ⟨fs, p, hr, ?_⟩
  rw [h, Outcome.after_result] at ht
  rw [h, Outcome.after_world]
  rcases hbranch with ⟨hn, -, rfl⟩ | ⟨info, hs, hl, hd, -, rfl⟩
  · obtain ⟨_, rfl⟩ := c.handleSFTPUploadToNewFile_ok _ _ _ _ _ _ _ ht
    simp [uploadPlan_of_targetIsNew hn, UploadPlan.offsets, UploadPlan.debit,
      handleSFTPUploadToNewFile_quota]
  · obtain ⟨w₀, h₀, hq, _, rfl⟩ := c.handleSFTPUploadToExistingFile_ok _ _ _ _ _ _ _ info.size ht
    obtain ⟨hoff, hdebit⟩ := c.settleOldBytes_mode fs request.pflags info.size request.filepath w₀
    rw [uploadPlan_of_file hs hl hd, hq, hdebit, h₀, World.updateLastActivity_quota]
    exact ⟨hoff, rfl, by simp⟩

end Connection

/-! ### A truncating overwrite -/

/-- A truncating write open of `/f`. -/
def truncatingOpen : Request :=
  Request.ofFlags "Put" "/f" ⟨false, true, false, false, true, false⟩

/-- A truncating overwrite of the 5-byte `/f` on `memFs`, which truncates on
open: the write open succeeds, as the plan says. -/
theorem handleFilewrite_refines_plan_truncate :
    ∃ t, (plainConn.handleFilewrite truncatingOpen fileWorld).result = .ok t ∧
      ∃ fs p, plainConn.getFsAndResolvedPath fileWorld.backend truncatingOpen.filepath =
          .ok (fs, p) ∧
        let plan := uploadPlan fs (fs.lstat fileWorld.backend p) truncatingOpen.pflags
        plan.offsets = some (t.minWriteOffset, t.initialSize, t.truncatedSize) ∧
        (plainConn.handleFilewrite truncatingOpen fileWorld).world.quota =
          fileWorld.quota ++ plan.debit plainConn truncatingOpen.filepath ∧
        t.isNewFile = decide (plan = .createNew) :=
  ⟨_, rfl, Connection.handleFilewrite_refines_plan _ _ _ rfl⟩

end SftpGo
