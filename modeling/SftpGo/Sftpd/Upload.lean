import SftpGo.Sftpd.Connection

/-!
# The write side: opening a file for upload

`handleFilewrite` serves both `Filewrite` and `OpenFile`. After the file
filter, it resolves the path, picks the path the bytes will land on (the
backend's staging path when atomic uploads are on and supported), works out
the deferred read error of the handle, and asks the backend for the target's
`Lstat`:

* no entry, or a link: a new file, `handleSFTPUploadToNewFile`, behind the
  upload permission;
* a directory: refused;
* a file: an overwrite, `handleSFTPUploadToExistingFile`, behind the
  overwrite permission.

Both upload paths check the disk and transfer quotas and run the pre-upload
hook before they touch the backend. An overwrite then moves the old file to
the staging path when atomic uploads are on, opens the file with the request's
flags, and settles how the old bytes count against the quota: a resume keeps
them (`initialSize`), a truncation the backend performs itself is debited at
once by `updateQuotaAfterTruncate`, and any other truncation is left to the
transfer's close (`truncatedSize`).
-/

namespace SftpGo

namespace Connection

variable {σ : Type} (c : Connection σ)

/-- `updateQuotaAfterTruncate`: debit `fileSize` bytes from the virtual
folder holding the request's parent directory, and from the user as well when
that folder counts against the user's quota; from the user alone when no
folder holds it. -/
def updateQuotaAfterTruncate (requestPath : String) (fileSize : BitVec 64) (w : World σ) :
    World σ :=
  match c.user.getVirtualFolderForPath (GoPath.dir requestPath) with
  | some vfolder =>
    let w := { w with quota := w.quota ++ [⟨.folder vfolder.name, 0, -fileSize, false⟩] }
    if vfolder.isIncludedInUserQuota then
      { w with quota := w.quota ++ [⟨.user c.user.username, 0, -fileSize, false⟩] }
    else w
  | none => { w with quota := w.quota ++ [⟨.user c.user.username, 0, -fileSize, false⟩] }

/-- Lines 409–425 of `handleSFTPUploadToNewFile`, once the checks have
passed: create the file at `filePath` and build the transfer. -/
def createNewFile (fs : Fs σ) (pflags : FileOpenFlags) (resolvedPath filePath requestPath : String)
    (errForRead : Option Error) (diskQuota : QuotaCheckResult) (transferQuota : TransferQuota)
    (w : World σ) : Outcome σ Transfer :=
  let osFlags := getOSOpenFlags pflags
  match fs.create w.backend filePath osFlags (c.getCreateChecks requestPath true false) with
  | .error err => .fail w [.create filePath osFlags] (.fsError err)
  | .ok (file, st) =>
    let w := { w with backend := fs.setPathPermissions st filePath c.user.uid c.user.gid }
    -- an error of `GetMaxWriteSize` is only possible for a resume
    let maxWriteSize := (c.getMaxWriteSize diskQuota false 0 fs.isUploadResumeSupported).1
    .ok w [.create filePath osFlags, .setPathPermissions filePath]
      { handle := file, fsPath := resolvedPath, effectiveFsPath := filePath, requestPath,
        transferType := .upload, minWriteOffset := 0, initialSize := 0, maxWriteSize,
        truncatedSize := 0, isNewFile := true, transferQuota, errForRead }

/-- `handleSFTPUploadToNewFile`: the quota checks and the pre-upload hook,
then `createNewFile`. -/
def handleSFTPUploadToNewFile (fs : Fs σ) (pflags : FileOpenFlags)
    (resolvedPath filePath requestPath : String) (errForRead : Option Error) (w : World σ) :
    Outcome σ Transfer :=
  let (diskQuota, transferQuota) := c.hasSpace true false requestPath
  if !diskQuota.hasSpace || !transferQuota.hasUploadSpace then .fail w [] .quotaExceeded else
  if (c.executePreAction .preUpload resolvedPath requestPath 0 0).isSome then
    .fail w [] .permissionDeniedError else
  c.createNewFile fs pflags resolvedPath filePath requestPath errForRead diskQuota transferQuota w

/-- Lines 474–492 of `handleSFTPUploadToExistingFile`: the minimum write
offset, initial size and truncated size of the transfer, and the world after
the quota debit of a truncation the backend performs itself. -/
def settleOldBytes (fs : Fs σ) (pflags : FileOpenFlags) (fileSize : BitVec 64)
    (requestPath : String) (w : World σ) : BitVec 64 × BitVec 64 × BitVec 64 × World σ :=
  let isTruncate := decide (getOSOpenFlags pflags &&& Os.oTrunc ≠ 0)
  let isResume := !isTruncate
  let minWriteOffset : BitVec 64 := 0
  if isResume then
    -- the minimum offset only for an append, or when the backend emulates resume
    (if pflags.append || !fs.isUploadResumeSupported then fileSize else minWriteOffset,
      fileSize, 0, w)
  else if isTruncate && fs.hasTruncateSupport then
    (minWriteOffset, 0, 0, c.updateQuotaAfterTruncate requestPath fileSize w)
  else (minWriteOffset, fileSize, fileSize, w)

/-- Lines 467–500 of `handleSFTPUploadToExistingFile`: open the file at
`filePath` with the request's flags and build the transfer. -/
def openExistingFile (fs : Fs σ) (pflags : FileOpenFlags) (resolvedPath filePath : String)
    (fileSize : BitVec 64) (requestPath : String) (errForRead : Option Error)
    (transferQuota : TransferQuota) (maxWriteSize : BitVec 64) (w : World σ) :
    Outcome σ Transfer :=
  let osFlags := getOSOpenFlags pflags
  let isResume := !decide (osFlags &&& Os.oTrunc ≠ 0)
  match fs.create w.backend filePath osFlags (c.getCreateChecks requestPath false isResume) with
  | .error err => .fail w [.create filePath osFlags] (.fsError err)
  | .ok (file, st) =>
    let (minWriteOffset, initialSize, truncatedSize, w) :=
      c.settleOldBytes fs pflags fileSize requestPath { w with backend := st }
    let w := { w with backend := fs.setPathPermissions w.backend filePath c.user.uid c.user.gid }
    .ok w [.create filePath osFlags, .setPathPermissions filePath]
      { handle := file, fsPath := resolvedPath, effectiveFsPath := filePath, requestPath,
        transferType := .upload, minWriteOffset, initialSize, maxWriteSize, truncatedSize,
        isNewFile := false, transferQuota, errForRead }

/-- Lines 458–500 of `handleSFTPUploadToExistingFile`, once every check has
passed: with atomic uploads on, the old file is first moved to the staging
path `filePath`. -/
def replaceExistingFile (fs : Fs σ) (pflags : FileOpenFlags) (resolvedPath filePath : String)
    (fileSize : BitVec 64) (requestPath : String) (errForRead : Option Error)
    (transferQuota : TransferQuota) (maxWriteSize : BitVec 64) (w : World σ) :
    Outcome σ Transfer :=
  if c.isAtomicUploadEnabled && fs.isAtomicUploadSupported then
    match fs.rename w.backend resolvedPath filePath with
    | .error err => .fail w [.rename resolvedPath filePath] (.fsError err)
    | .ok st =>
      (c.openExistingFile fs pflags resolvedPath filePath fileSize requestPath errForRead
        transferQuota maxWriteSize { w with backend := st }).after [.rename resolvedPath filePath]
  else
    c.openExistingFile fs pflags resolvedPath filePath fileSize requestPath errForRead
      transferQuota maxWriteSize w

/-- `handleSFTPUploadToExistingFile`: the quota checks, the maximum write
size and the pre-upload hook, then `replaceExistingFile`. Without `O_TRUNC`
the request is taken as a resume, whether or not it sets the append flag. -/
def handleSFTPUploadToExistingFile (fs : Fs σ) (pflags : FileOpenFlags)
    (resolvedPath filePath : String) (fileSize : BitVec 64) (requestPath : String)
    (errForRead : Option Error) (w : World σ) : Outcome σ Transfer :=
  let (diskQuota, transferQuota) := c.hasSpace false false requestPath
  if !diskQuota.hasSpace || !transferQuota.hasUploadSpace then .fail w [] .quotaExceeded else
  let osFlags := getOSOpenFlags pflags
  let isTruncate := decide (osFlags &&& Os.oTrunc ≠ 0)
  let isResume := !isTruncate
  let (maxWriteSize, err) :=
    c.getMaxWriteSize diskQuota isResume fileSize (fs.isUploadResumeSupportedFor fileSize)
  match err with
  | some err => .fail w [] (.connection err)
  | none =>
  if (c.executePreAction .preUpload resolvedPath requestPath fileSize osFlags).isSome then
    .fail w [] .permissionDeniedError else
  c.replaceExistingFile fs pflags resolvedPath filePath fileSize requestPath errForRead
    transferQuota maxWriteSize w

/-- Lines 137–140 of `handleFilewrite`: the path the bytes land on, the
backend's staging path when atomic uploads are on and supported. -/
def uploadFilePath (fs : Fs σ) (p : String) : String :=
  if c.isAtomicUploadEnabled && fs.isAtomicUploadSupported then fs.getAtomicUploadPath p else p

/-- Lines 142–152 of `handleFilewrite`: the error a read through the upload
handle will return. Only the local backend reads and writes at once, and a
user without the download permission may not read at all. -/
def errForReadOf (fs : Fs σ) (request : Request) : Option Error :=
  let errForRead : Option Error :=
    if !fs.hasOpenRWSupport && request.pflags.read then some .opUnsupported else none
  if !c.user.hasPerm .download (GoPath.dir request.filepath) then some .osErrPermission
  else errForRead

/-- The branch condition of line 155: the `Lstat` found a link, or reported
that nothing exists. -/
def targetIsNew (fs : Fs σ) (stat : Except FsError FileInfo) : Bool :=
  match stat with
  | .ok stat => stat.isSymlink
  | .error statErr => fs.isNotExist statErr

/-- `handleFilewrite`, behind both `Filewrite` and `OpenFile`. -/
def handleFilewrite (request : Request) (w : World σ) : Outcome σ Transfer :=
  let w := w.updateLastActivity
  if !(c.user.isFileAllowed request.filepath).1 then .fail w [] .permissionDeniedError else
  match c.getFsAndResolvedPath w.backend request.filepath with
  | .error err => .fail w [] (.connection err)
  | .ok (fs, p) =>
  let filePath := c.uploadFilePath fs p
  let errForRead := c.errForReadOf fs request
  let stat := fs.lstat w.backend p
  Outcome.after [.lstat p] <|
  if targetIsNew fs stat then
    if !c.user.hasPerm .upload (GoPath.dir request.filepath) then .fail w [] .permissionDenied
    else c.handleSFTPUploadToNewFile fs request.pflags p filePath request.filepath errForRead w
  else
  match stat with
  | .error statErr => .fail w [] (.fsError statErr)
  | .ok stat =>
    -- a file named like an existing directory
    if stat.isDir then .fail w [] .opUnsupported else
    if !c.user.hasPerm .overwrite (GoPath.dir request.filepath) then .fail w [] .permissionDenied
    else c.handleSFTPUploadToExistingFile fs request.pflags p filePath stat.size request.filepath
      errForRead w

/-- `OpenFile`: a write open whose handle may also read. -/
def openFile (request : Request) (w : World σ) : Outcome σ Transfer :=
  c.handleFilewrite request w

/-- `Filewrite`. -/
def filewrite (request : Request) (w : World σ) : Outcome σ Transfer :=
  c.handleFilewrite request w

/-! ### What each step can do

One lemma per step of the write path says everything the step can do; the
theorems about the write path as a whole are case analyses over them. The
quota debit of a truncation is stated against `quotaTargets`, the spec's
description of whose quota a path counts against. -/

/-- Whose quota the bytes at `requestPath` count against, as the spec says it:
the virtual folder holding the path's parent directory, with the user too when
that folder is included in the user's quota; the user alone when no folder
holds it. -/
def quotaTargets (requestPath : String) : List QuotaTarget :=
  match c.user.getVirtualFolderForPath (GoPath.dir requestPath) with
  | some vfolder =>
    .folder vfolder.name :: if vfolder.isIncludedInUserQuota then [.user c.user.username] else []
  | none => [.user c.user.username]

/-- `updateQuotaAfterTruncate` changes the quota journal only. -/
theorem updateQuotaAfterTruncate_frame (requestPath : String) (fileSize : BitVec 64)
    (w : World σ) :
    c.updateQuotaAfterTruncate requestPath fileSize w =
      { w with quota := (c.updateQuotaAfterTruncate requestPath fileSize w).quota } := by
  unfold updateQuotaAfterTruncate; split
  · split <;> rfl
  · rfl

/-- `updateQuotaAfterTruncate` debits `fileSize` once from each quota target. -/
theorem updateQuotaAfterTruncate_quota (requestPath : String) (fileSize : BitVec 64)
    (w : World σ) :
    (c.updateQuotaAfterTruncate requestPath fileSize w).quota =
      w.quota ++ (c.quotaTargets requestPath).map fun t => ⟨t, 0, -fileSize, false⟩ := by
  unfold updateQuotaAfterTruncate quotaTargets
  rcases c.user.getVirtualFolderForPath (GoPath.dir requestPath) with _ | vfolder
  · rfl
  · cases h : vfolder.isIncludedInUserQuota <;> simp [h]

section Existing

variable (fs : Fs σ) (pflags : FileOpenFlags) (fileSize : BitVec 64) (requestPath : String)
  (w : World σ)

/-- A resume keeps the old bytes: the initial size is the file's. -/
theorem settleOldBytes_resume (h : pflags.trunc = false) :
    c.settleOldBytes fs pflags fileSize requestPath w =
      (if pflags.append || !fs.isUploadResumeSupported then fileSize else 0, fileSize, 0, w) := by
  simp [settleOldBytes, h]

/-- A truncation is debited at once when the backend truncates on open, and is
otherwise left to the transfer's close. -/
theorem settleOldBytes_truncate (h : pflags.trunc = true) :
    c.settleOldBytes fs pflags fileSize requestPath w =
      if fs.hasTruncateSupport then (0, 0, 0, c.updateQuotaAfterTruncate requestPath fileSize w)
      else (0, fileSize, fileSize, w) := by
  simp [settleOldBytes, h]

/-- `settleOldBytes` changes the quota journal only. -/
theorem settleOldBytes_frame :
    (c.settleOldBytes fs pflags fileSize requestPath w).2.2.2 =
      { w with quota := (c.settleOldBytes fs pflags fileSize requestPath w).2.2.2.quota } := by
  cases h : pflags.trunc
  · simp [settleOldBytes_resume c fs pflags fileSize requestPath w h]
  · rw [settleOldBytes_truncate c fs pflags fileSize requestPath w h]
    split
    · exact c.updateQuotaAfterTruncate_frame requestPath fileSize w
    · rfl

@[simp] theorem settleOldBytes_backend :
    (c.settleOldBytes fs pflags fileSize requestPath w).2.2.2.backend = w.backend := by
  rw [settleOldBytes_frame]

end Existing

/-- The checks `handleSFTPUploadToNewFile` makes before it touches the
backend. -/
structure NewFileChecks (resolvedPath requestPath : String) : Prop where
  hasSpace : (c.hasSpace true false requestPath).1.hasSpace = true
  hasUploadSpace : (c.hasSpace true false requestPath).2.hasUploadSpace = true
  preUpload : c.executePreAction .preUpload resolvedPath requestPath 0 0 = none

/-- The checks `handleSFTPUploadToExistingFile` makes before it touches the
backend. -/
structure ExistingFileChecks (fs : Fs σ) (pflags : FileOpenFlags)
    (resolvedPath requestPath : String) (fileSize : BitVec 64) : Prop where
  hasSpace : (c.hasSpace false false requestPath).1.hasSpace = true
  hasUploadSpace : (c.hasSpace false false requestPath).2.hasUploadSpace = true
  maxWriteSize : (c.getMaxWriteSize (c.hasSpace false false requestPath).1 (!pflags.trunc) fileSize
    (fs.isUploadResumeSupportedFor fileSize)).2 = none
  preUpload :
    c.executePreAction .preUpload resolvedPath requestPath fileSize (getOSOpenFlags pflags) = none

section Steps

variable (fs : Fs σ) (pflags : FileOpenFlags) (resolvedPath filePath requestPath : String)
  (errForRead : Option Error) (w : World σ)

/-- Once its checks pass, `handleSFTPUploadToNewFile` is `createNewFile`. -/
theorem handleSFTPUploadToNewFile_of_checks (h : c.NewFileChecks resolvedPath requestPath) :
    c.handleSFTPUploadToNewFile fs pflags resolvedPath filePath requestPath errForRead w =
      c.createNewFile fs pflags resolvedPath filePath requestPath errForRead
        (c.hasSpace true false requestPath).1 (c.hasSpace true false requestPath).2 w := by
  simp only [handleSFTPUploadToNewFile, h.hasSpace, h.hasUploadSpace, h.preUpload, Bool.not_true,
    Bool.or_self, Bool.false_eq_true, if_false, Option.isSome_none]

/-- `handleSFTPUploadToNewFile` refuses with a quota or permission error and
no backend call, or has passed its checks and runs `createNewFile`. -/
theorem handleSFTPUploadToNewFile_cases :
    let o := c.handleSFTPUploadToNewFile fs pflags resolvedPath filePath requestPath errForRead w
    (∃ e, (e = .quotaExceeded ∨ e = .permissionDeniedError) ∧ o = .fail w [] e) ∨
      (c.NewFileChecks resolvedPath requestPath ∧
        o = c.createNewFile fs pflags resolvedPath filePath requestPath errForRead
          (c.hasSpace true false requestPath).1 (c.hasSpace true false requestPath).2 w) := by
  intro o
  by_cases hq : (c.hasSpace true false requestPath).1.hasSpace = true ∧
      (c.hasSpace true false requestPath).2.hasUploadSpace = true
  · cases hp : c.executePreAction .preUpload resolvedPath requestPath 0 0
    · exact .inr ⟨⟨hq.1, hq.2, hp⟩,
        c.handleSFTPUploadToNewFile_of_checks _ _ _ _ _ _ _ ⟨hq.1, hq.2, hp⟩⟩
    · refine .inl ⟨_, .inr rfl, ?_⟩
      simp only [o, handleSFTPUploadToNewFile, hq.1, hq.2, hp, Bool.not_true, Bool.or_self,
        Bool.false_eq_true, if_false, Option.isSome_some, if_true]
  · refine .inl ⟨_, .inl rfl, ?_⟩
    rw [not_and_or] at hq
    rcases hq with hq | hq <;> simp [o, handleSFTPUploadToNewFile, hq]

/-- `createNewFile`: the `Create` fails and nothing changes, or it succeeds and
the transfer starts from an empty file. -/
theorem createNewFile_cases (diskQuota : QuotaCheckResult) (transferQuota : TransferQuota) :
    let o := c.createNewFile fs pflags resolvedPath filePath requestPath errForRead diskQuota
      transferQuota w
    (∃ err, fs.create w.backend filePath (getOSOpenFlags pflags)
          (c.getCreateChecks requestPath true false) = .error err ∧
        o = .fail w [.create filePath (getOSOpenFlags pflags)] (.fsError err)) ∨
      (∃ file st, fs.create w.backend filePath (getOSOpenFlags pflags)
          (c.getCreateChecks requestPath true false) = .ok (file, st) ∧
        o = .ok { w with backend := fs.setPathPermissions st filePath c.user.uid c.user.gid }
          [.create filePath (getOSOpenFlags pflags), .setPathPermissions filePath]
          { handle := file, fsPath := resolvedPath, effectiveFsPath := filePath, requestPath,
            transferType := .upload, minWriteOffset := 0, initialSize := 0,
            maxWriteSize := (c.getMaxWriteSize diskQuota false 0 fs.isUploadResumeSupported).1,
            truncatedSize := 0, isNewFile := true, transferQuota, errForRead }) := by
  intro o
  cases hc : fs.create w.backend filePath (getOSOpenFlags pflags)
    (c.getCreateChecks requestPath true false) with
  | error err => exact .inl ⟨err, rfl, by simp only [o, createNewFile, hc]⟩
  | ok fst =>
    obtain ⟨file, st⟩ := fst
    exact .inr ⟨file, st, rfl, by simp only [o, createNewFile, hc]⟩

/-- Once its checks pass, `handleSFTPUploadToExistingFile` is
`replaceExistingFile`, resuming exactly when the request does not truncate. -/
theorem handleSFTPUploadToExistingFile_of_checks (fileSize : BitVec 64)
    (h : c.ExistingFileChecks fs pflags resolvedPath requestPath fileSize) :
    c.handleSFTPUploadToExistingFile fs pflags resolvedPath filePath fileSize requestPath
        errForRead w =
      c.replaceExistingFile fs pflags resolvedPath filePath fileSize requestPath errForRead
        (c.hasSpace false false requestPath).2
        (c.getMaxWriteSize (c.hasSpace false false requestPath).1 (!pflags.trunc) fileSize
          (fs.isUploadResumeSupportedFor fileSize)).1 w := by
  simp only [handleSFTPUploadToExistingFile, getOSOpenFlags_isResume, h.hasSpace, h.hasUploadSpace,
    h.maxWriteSize, h.preUpload, Bool.not_true, Bool.or_self, Bool.false_eq_true, if_false,
    Option.isSome_none]

/-- `handleSFTPUploadToExistingFile` refuses with a quota, permission or
base-connection error and no backend call, or has passed its checks and runs
`replaceExistingFile`. -/
theorem handleSFTPUploadToExistingFile_cases (fileSize : BitVec 64) :
    let o := c.handleSFTPUploadToExistingFile fs pflags resolvedPath filePath fileSize requestPath
      errForRead w
    (∃ e, (e = .quotaExceeded ∨ e = .permissionDeniedError ∨ ∃ ce, e = .connection ce) ∧
        o = .fail w [] e) ∨
      (c.ExistingFileChecks fs pflags resolvedPath requestPath fileSize ∧
        o = c.replaceExistingFile fs pflags resolvedPath filePath fileSize requestPath errForRead
          (c.hasSpace false false requestPath).2
          (c.getMaxWriteSize (c.hasSpace false false requestPath).1 (!pflags.trunc) fileSize
            (fs.isUploadResumeSupportedFor fileSize)).1 w) := by
  intro o
  by_cases hq : (c.hasSpace false false requestPath).1.hasSpace = true ∧
      (c.hasSpace false false requestPath).2.hasUploadSpace = true
  · obtain ⟨h1, h2⟩ := hq
    cases hm : (c.getMaxWriteSize (c.hasSpace false false requestPath).1 (!pflags.trunc) fileSize
      (fs.isUploadResumeSupportedFor fileSize)).2 with
    | none =>
      cases hp :
        c.executePreAction .preUpload resolvedPath requestPath fileSize (getOSOpenFlags pflags)
      · have hc : c.ExistingFileChecks fs pflags resolvedPath requestPath fileSize :=
          ⟨h1, h2, hm, hp⟩
        exact .inr ⟨hc, c.handleSFTPUploadToExistingFile_of_checks _ _ _ _ _ _ _ _ hc⟩
      · exact .inl ⟨_, .inr (.inl rfl), by
          simp [o, handleSFTPUploadToExistingFile, getOSOpenFlags_isResume, h1, h2, hm, hp]⟩
    | some ce => exact .inl ⟨_, .inr (.inr ⟨ce, rfl⟩), by
        simp [o, handleSFTPUploadToExistingFile, getOSOpenFlags_isResume, h1, h2, hm]⟩
  · refine .inl ⟨_, .inl rfl, ?_⟩
    rw [not_and_or] at hq
    rcases hq with hq | hq <;> simp [o, handleSFTPUploadToExistingFile, hq]

/-- `replaceExistingFile`: with atomic uploads on, the move to the staging
path fails, or `openExistingFile` runs on the world it produced; otherwise
`openExistingFile` runs on the world as it is. -/
theorem replaceExistingFile_cases (fileSize : BitVec 64) (transferQuota : TransferQuota)
    (maxWriteSize : BitVec 64) :
    let o := c.replaceExistingFile fs pflags resolvedPath filePath fileSize requestPath errForRead
      transferQuota maxWriteSize w
    ((c.isAtomicUploadEnabled && fs.isAtomicUploadSupported) = true ∧
        ∃ err, fs.rename w.backend resolvedPath filePath = .error err ∧
          o = .fail w [.rename resolvedPath filePath] (.fsError err)) ∨
      ((c.isAtomicUploadEnabled && fs.isAtomicUploadSupported) = true ∧
        ∃ st, fs.rename w.backend resolvedPath filePath = .ok st ∧
          o = (c.openExistingFile fs pflags resolvedPath filePath fileSize requestPath errForRead
            transferQuota maxWriteSize { w with backend := st }).after
            [.rename resolvedPath filePath]) ∨
      ((c.isAtomicUploadEnabled && fs.isAtomicUploadSupported) = false ∧
        o = c.openExistingFile fs pflags resolvedPath filePath fileSize requestPath errForRead
          transferQuota maxWriteSize w) := by
  intro o
  cases ha : (c.isAtomicUploadEnabled && fs.isAtomicUploadSupported)
  · exact .inr (.inr ⟨rfl, by simp only [o, replaceExistingFile, ha]; rfl⟩)
  · cases hr : fs.rename w.backend resolvedPath filePath with
    | error err => exact .inl ⟨rfl, err, rfl, by simp only [o, replaceExistingFile, ha, hr]; rfl⟩
    | ok st => exact .inr (.inl ⟨rfl, st, rfl, by simp only [o, replaceExistingFile, ha, hr]; rfl⟩)

/-- `openExistingFile`: the `Create` fails and nothing changes, or it succeeds
and the transfer carries what `settleOldBytes` settled. -/
theorem openExistingFile_cases (fileSize : BitVec 64) (transferQuota : TransferQuota)
    (maxWriteSize : BitVec 64) :
    let o := c.openExistingFile fs pflags resolvedPath filePath fileSize requestPath errForRead
      transferQuota maxWriteSize w
    (∃ err, fs.create w.backend filePath (getOSOpenFlags pflags)
          (c.getCreateChecks requestPath false (!pflags.trunc)) = .error err ∧
        o = .fail w [.create filePath (getOSOpenFlags pflags)] (.fsError err)) ∨
      (∃ file st, fs.create w.backend filePath (getOSOpenFlags pflags)
          (c.getCreateChecks requestPath false (!pflags.trunc)) = .ok (file, st) ∧
        let r := c.settleOldBytes fs pflags fileSize requestPath { w with backend := st }
        let w₁ := r.2.2.2
        o = .ok
          { w₁ with backend := fs.setPathPermissions w₁.backend filePath c.user.uid c.user.gid }
          [.create filePath (getOSOpenFlags pflags), .setPathPermissions filePath]
          { handle := file, fsPath := resolvedPath, effectiveFsPath := filePath, requestPath,
            transferType := .upload, minWriteOffset := r.1, initialSize := r.2.1,
            maxWriteSize, truncatedSize := r.2.2.1, isNewFile := false, transferQuota,
            errForRead }) := by
  intro o
  cases hc : fs.create w.backend filePath (getOSOpenFlags pflags)
    (c.getCreateChecks requestPath false (!pflags.trunc)) with
  | error err =>
    exact .inl ⟨err, rfl, by simp only [o, openExistingFile, getOSOpenFlags_isResume, hc]⟩
  | ok fst =>
    obtain ⟨file, st⟩ := fst
    exact .inr ⟨file, st, rfl, by simp only [o, openExistingFile, getOSOpenFlags_isResume, hc]⟩

/-- A failed `createNewFile` leaves the world as it found it, and its error is
the `Create`'s. -/
theorem createNewFile_error_world (diskQuota : QuotaCheckResult) (transferQuota : TransferQuota)
    {e : Error}
    (he : (c.createNewFile fs pflags resolvedPath filePath requestPath errForRead diskQuota
      transferQuota w).result = .error e) :
    (c.createNewFile fs pflags resolvedPath filePath requestPath errForRead diskQuota
        transferQuota w).world = w ∧
      ∃ err, fs.create w.backend filePath (getOSOpenFlags pflags)
        (c.getCreateChecks requestPath true false) = .error err ∧ e = .fsError err := by
  rcases c.createNewFile_cases fs pflags resolvedPath filePath requestPath errForRead w diskQuota
    transferQuota with ⟨err, hc, h⟩ | ⟨_, _, -, h⟩ <;> rw [h] at he ⊢
  · cases he
    exact ⟨rfl, err, hc, rfl⟩
  · cases he

/-- A failed `openExistingFile` leaves the world as it found it, and its
error is the `Create`'s. -/
theorem openExistingFile_error_world (fileSize : BitVec 64) (transferQuota : TransferQuota)
    (maxWriteSize : BitVec 64) {e : Error}
    (he : (c.openExistingFile fs pflags resolvedPath filePath fileSize requestPath errForRead
      transferQuota maxWriteSize w).result = .error e) :
    (c.openExistingFile fs pflags resolvedPath filePath fileSize requestPath errForRead
        transferQuota maxWriteSize w).world = w ∧
      ∃ err, fs.create w.backend filePath (getOSOpenFlags pflags)
        (c.getCreateChecks requestPath false (!pflags.trunc)) = .error err ∧ e = .fsError err := by
  rcases c.openExistingFile_cases fs pflags resolvedPath filePath requestPath errForRead w fileSize
    transferQuota maxWriteSize with ⟨err, hc, h⟩ | ⟨_, _, -, h⟩
  · rw [h] at he ⊢
    cases he
    exact ⟨rfl, err, hc, rfl⟩
  · rw [h] at he; cases he

/-- Past its checks, an overwrite fails only with the backend's error. -/
theorem replaceExistingFile_error (fileSize : BitVec 64) (transferQuota : TransferQuota)
    (maxWriteSize : BitVec 64) {e : Error}
    (he : (c.replaceExistingFile fs pflags resolvedPath filePath fileSize requestPath errForRead
      transferQuota maxWriteSize w).result = .error e) : ∃ err, e = .fsError err := by
  rcases c.replaceExistingFile_cases fs pflags resolvedPath filePath requestPath errForRead w
    fileSize transferQuota maxWriteSize with ⟨-, err, -, h⟩ | ⟨-, st, -, h⟩ | ⟨-, h⟩ <;>
    rw [h] at he
  · cases he; exact ⟨err, rfl⟩
  · obtain ⟨-, err, -, rfl⟩ := c.openExistingFile_error_world fs pflags resolvedPath filePath
      requestPath errForRead _ fileSize transferQuota maxWriteSize he
    exact ⟨err, rfl⟩
  · obtain ⟨-, err, -, rfl⟩ := c.openExistingFile_error_world fs pflags resolvedPath filePath
      requestPath errForRead w fileSize transferQuota maxWriteSize he
    exact ⟨err, rfl⟩

/-- The transfer a successful `createNewFile` returns. -/
theorem createNewFile_ok (diskQuota : QuotaCheckResult) (transferQuota : TransferQuota)
    {t : Transfer}
    (ht : (c.createNewFile fs pflags resolvedPath filePath requestPath errForRead diskQuota
      transferQuota w).result = .ok t) :
    ∃ file, t =
      { handle := file, fsPath := resolvedPath, effectiveFsPath := filePath, requestPath,
        transferType := .upload, minWriteOffset := 0, initialSize := 0,
        maxWriteSize := (c.getMaxWriteSize diskQuota false 0 fs.isUploadResumeSupported).1,
        truncatedSize := 0, isNewFile := true, transferQuota, errForRead } := by
  rcases c.createNewFile_cases fs pflags resolvedPath filePath requestPath errForRead w diskQuota
    transferQuota with ⟨_, -, h⟩ | ⟨file, _, -, h⟩
  · rw [h] at ht; cases ht
  · rw [h] at ht; cases ht; exact ⟨file, rfl⟩

/-- The transfer a successful `handleSFTPUploadToNewFile` returns. -/
theorem handleSFTPUploadToNewFile_ok {t : Transfer}
    (ht : (c.handleSFTPUploadToNewFile fs pflags resolvedPath filePath requestPath errForRead
      w).result = .ok t) :
    ∃ file, t =
      { handle := file, fsPath := resolvedPath, effectiveFsPath := filePath, requestPath,
        transferType := .upload, minWriteOffset := 0, initialSize := 0,
        maxWriteSize := (c.getMaxWriteSize (c.hasSpace true false requestPath).1 false 0
          fs.isUploadResumeSupported).1,
        truncatedSize := 0, isNewFile := true,
        transferQuota := (c.hasSpace true false requestPath).2, errForRead } := by
  rcases c.handleSFTPUploadToNewFile_cases fs pflags resolvedPath filePath requestPath errForRead w
    with ⟨_, -, h⟩ | ⟨-, h⟩
  · rw [h] at ht; cases ht
  · rw [h] at ht
    exact c.createNewFile_ok fs pflags resolvedPath filePath requestPath errForRead w _ _ ht

/-- The transfer a successful `openExistingFile` returns, and the quota
journal after it: what `settleOldBytes` settled on the world after the
`Create`, whose quota journal is the caller's. -/
theorem openExistingFile_ok (fileSize : BitVec 64) (transferQuota : TransferQuota)
    (maxWriteSize : BitVec 64) {t : Transfer}
    (ht : (c.openExistingFile fs pflags resolvedPath filePath fileSize requestPath errForRead
      transferQuota maxWriteSize w).result = .ok t) :
    ∃ w₀ : World σ, w₀.quota = w.quota ∧
      let r := c.settleOldBytes fs pflags fileSize requestPath w₀
      (c.openExistingFile fs pflags resolvedPath filePath fileSize requestPath errForRead
          transferQuota maxWriteSize w).world.quota = r.2.2.2.quota ∧
      ∃ file, t =
        { handle := file, fsPath := resolvedPath, effectiveFsPath := filePath, requestPath,
          transferType := .upload, minWriteOffset := r.1, initialSize := r.2.1, maxWriteSize,
          truncatedSize := r.2.2.1, isNewFile := false, transferQuota, errForRead } := by
  rcases c.openExistingFile_cases fs pflags resolvedPath filePath requestPath errForRead w
    fileSize transferQuota maxWriteSize with ⟨_, -, h⟩ | ⟨file, st, -, h⟩
  · rw [h] at ht; cases ht
  · rw [h] at ht ⊢
    cases ht
    exact ⟨{ w with backend := st }, rfl, rfl, file, rfl⟩

/-- The transfer a successful overwrite returns, and the quota journal after
it: what `openExistingFile` gives, on a world whose quota journal is the
caller's, since the move to the staging path changes only the backend. -/
theorem handleSFTPUploadToExistingFile_ok (fileSize : BitVec 64) {t : Transfer}
    (ht : (c.handleSFTPUploadToExistingFile fs pflags resolvedPath filePath fileSize requestPath
      errForRead w).result = .ok t) :
    ∃ w₀ : World σ, w₀.quota = w.quota ∧
      let r := c.settleOldBytes fs pflags fileSize requestPath w₀
      (c.handleSFTPUploadToExistingFile fs pflags resolvedPath filePath fileSize requestPath
          errForRead w).world.quota = r.2.2.2.quota ∧
      ∃ file, t =
        { handle := file, fsPath := resolvedPath, effectiveFsPath := filePath, requestPath,
          transferType := .upload, minWriteOffset := r.1, initialSize := r.2.1,
          maxWriteSize := (c.getMaxWriteSize (c.hasSpace false false requestPath).1 (!pflags.trunc)
            fileSize (fs.isUploadResumeSupportedFor fileSize)).1,
          truncatedSize := r.2.2.1, isNewFile := false,
          transferQuota := (c.hasSpace false false requestPath).2, errForRead } := by
  rcases c.handleSFTPUploadToExistingFile_cases fs pflags resolvedPath filePath requestPath
    errForRead w fileSize with ⟨_, -, h⟩ | ⟨-, h⟩
  · rw [h] at ht; cases ht
  rw [h] at ht ⊢
  rcases c.replaceExistingFile_cases fs pflags resolvedPath filePath requestPath errForRead w
    fileSize _ _ with ⟨-, _, -, h'⟩ | ⟨-, st, -, h'⟩ | ⟨-, h'⟩
  · rw [h'] at ht; cases ht
  · rw [h'] at ht ⊢
    exact c.openExistingFile_ok fs pflags resolvedPath filePath requestPath errForRead
      { w with backend := st } fileSize _ _ ht
  · rw [h'] at ht ⊢
    exact c.openExistingFile_ok fs pflags resolvedPath filePath requestPath errForRead w
      fileSize _ _ ht

/-- **What `handleFilewrite` can do.** It refuses a filtered name or a path
that does not resolve with no backend call; otherwise it makes one `Lstat`
and then takes one of six branches, two of which hand over to the upload
helpers. -/
theorem handleFilewrite_cases (request : Request) :
    let w' := w.updateLastActivity
    let o := c.handleFilewrite request w
    let dir := GoPath.dir request.filepath
    ((c.user.isFileAllowed request.filepath).1 = false ∧ o = .fail w' [] .permissionDeniedError) ∨
    ((c.user.isFileAllowed request.filepath).1 = true ∧
      ∃ ce, c.getFsAndResolvedPath w.backend request.filepath = .error ce ∧
        o = .fail w' [] (.connection ce)) ∨
    ∃ fs p, (c.user.isFileAllowed request.filepath).1 = true ∧
      c.getFsAndResolvedPath w.backend request.filepath = .ok (fs, p) ∧
      ∃ o' : Outcome σ Transfer,
      ((targetIsNew fs (fs.lstat w.backend p) = true ∧ c.user.hasPerm .upload dir = true ∧
          o' = c.handleSFTPUploadToNewFile fs request.pflags p (c.uploadFilePath fs p)
            request.filepath (c.errForReadOf fs request) w') ∨
        (targetIsNew fs (fs.lstat w.backend p) = true ∧ c.user.hasPerm .upload dir = false ∧
          o' = .fail w' [] .permissionDenied) ∨
        (∃ err, fs.lstat w.backend p = .error err ∧ fs.isNotExist err = false ∧
          o' = .fail w' [] (.fsError err)) ∨
        (∃ info, fs.lstat w.backend p = .ok info ∧ info.isSymlink = false ∧ info.isDir = true ∧
          o' = .fail w' [] .opUnsupported) ∨
        (∃ info, fs.lstat w.backend p = .ok info ∧ info.isSymlink = false ∧ info.isDir = false ∧
          c.user.hasPerm .overwrite dir = false ∧ o' = .fail w' [] .permissionDenied) ∨
        (∃ info, fs.lstat w.backend p = .ok info ∧ info.isSymlink = false ∧ info.isDir = false ∧
          c.user.hasPerm .overwrite dir = true ∧
          o' = c.handleSFTPUploadToExistingFile fs request.pflags p (c.uploadFilePath fs p)
            info.size request.filepath (c.errForReadOf fs request) w')) ∧
      o = o'.after [.lstat p] := by
  intro w' o dir
  cases ha : (c.user.isFileAllowed request.filepath).1
  · exact .inl ⟨rfl, by simp [o, handleFilewrite, ha]⟩
  cases hr : c.getFsAndResolvedPath w.backend request.filepath with
  | error ce => exact .inr (.inl ⟨rfl, ce, rfl, by simp [o, handleFilewrite, ha, hr]⟩)
  | ok r =>
    obtain ⟨fs, p⟩ := r
    refine .inr (.inr ⟨fs, p, rfl, rfl, ?_⟩)
    simp only [o, handleFilewrite, ha, hr, Bool.not_eq_true', Bool.not_true, Bool.false_eq_true,
      if_false, World.updateLastActivity_backend]
    cases hn : targetIsNew fs (fs.lstat w.backend p)
    · cases hs : fs.lstat w.backend p with
      | error err =>
        have : fs.isNotExist err = false := by simpa [targetIsNew, hs] using hn
        exact ⟨_, .inr (.inr (.inl ⟨err, rfl, this, rfl⟩)), rfl⟩
      | ok info =>
        have hl : info.isSymlink = false := by simpa [targetIsNew, hs] using hn
        cases hd : info.isDir
        · cases hw : c.user.hasPerm .overwrite dir
          · exact ⟨_, .inr (.inr (.inr (.inr (.inl ⟨info, rfl, hl, hd, rfl, rfl⟩)))),
              by simp [hd, hw]⟩
          · exact ⟨_, .inr (.inr (.inr (.inr (.inr ⟨info, rfl, hl, hd, rfl, rfl⟩)))),
              by simp [hd, hw]⟩
        · exact ⟨_, .inr (.inr (.inr (.inl ⟨info, rfl, hl, hd, rfl⟩))), by simp [hd]⟩
    · cases hu : c.user.hasPerm .upload dir
      · exact ⟨_, .inr (.inl ⟨rfl, rfl, rfl⟩), by simp [hu]⟩
      · exact ⟨_, .inl ⟨rfl, rfl, rfl⟩, by simp [hu]⟩

/-- `handleFilewrite` as a dispatcher: it refuses, with a protocol or
connection error, in the world where it counted the activity and after no
backend call or the `Lstat` alone; or it hands over, after the `Lstat`, to
one of the two upload helpers. -/
theorem handleFilewrite_dispatch (request : Request) :
    let w' := w.updateLastActivity
    let o := c.handleFilewrite request w
    let dir := GoPath.dir request.filepath
    (∃ calls e, (∀ be, e ≠ .backend be) ∧
      (calls = [] ∨ ∃ fs p, c.getFsAndResolvedPath w.backend request.filepath = .ok (fs, p) ∧
        calls = [.lstat p]) ∧
      o = .fail w' calls e) ∨
    ∃ fs p, (c.user.isFileAllowed request.filepath).1 = true ∧
      c.getFsAndResolvedPath w.backend request.filepath = .ok (fs, p) ∧
      ∃ o' : Outcome σ Transfer,
      ((targetIsNew fs (fs.lstat w.backend p) = true ∧ c.user.hasPerm .upload dir = true ∧
          o' = c.handleSFTPUploadToNewFile fs request.pflags p (c.uploadFilePath fs p)
            request.filepath (c.errForReadOf fs request) w') ∨
        (∃ info, fs.lstat w.backend p = .ok info ∧ info.isSymlink = false ∧ info.isDir = false ∧
          c.user.hasPerm .overwrite dir = true ∧
          o' = c.handleSFTPUploadToExistingFile fs request.pflags p (c.uploadFilePath fs p)
            info.size request.filepath (c.errForReadOf fs request) w')) ∧
      o = o'.after [.lstat p] := by
  intro w' o dir
  rcases c.handleFilewrite_cases w request with ⟨-, h⟩ | ⟨-, _, -, h⟩ |
    ⟨fs, p, ha, hr, o', hcases, h⟩
  · exact .inl ⟨_, _, by simp, .inl rfl, h⟩
  · exact .inl ⟨_, _, by simp, .inl rfl, h⟩
  rcases hcases with hnew | ⟨-, -, rfl⟩ | ⟨_, -, -, rfl⟩ | ⟨_, -, -, -, rfl⟩ |
    ⟨_, -, -, -, -, rfl⟩ | hexisting
  · exact .inr ⟨fs, p, ha, hr, o', .inl hnew, h⟩
  · exact .inl ⟨_, _, by simp, .inr ⟨fs, p, hr, rfl⟩, h⟩
  · exact .inl ⟨_, _, by simp, .inr ⟨fs, p, hr, rfl⟩, h⟩
  · exact .inl ⟨_, _, by simp, .inr ⟨fs, p, hr, rfl⟩, h⟩
  · exact .inl ⟨_, _, by simp, .inr ⟨fs, p, hr, rfl⟩, h⟩
  · exact .inr ⟨fs, p, ha, hr, o', .inr hexisting, h⟩

end Steps

end Connection

end SftpGo
