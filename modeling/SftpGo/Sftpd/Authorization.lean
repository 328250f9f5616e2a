import SftpGo.Sftpd.Handler
import SftpGo.Sftpd.Upload

/-!
# Authorization before content access

The read and write opens reach the backend's content only after their checks:

* `fileread_cases`: `Fileread` opens a file only once the download permission
  on the parent directory, the download transfer quota, the file filter and
  the pre-download hook have let it (`ReadChecks`);
* `handleFilewrite_calls_authorized`: every backend call of a write open but
  its first `Lstat` comes after the file filter, the permission the `Lstat`'s
  answer calls for, the quota checks, the maximum write size and the
  pre-upload hook (`WriteAuthorized`);
* `handleFilewrite_errForRead`: the handle of a write open carries the read
  error of `errForReadOf`, so a user without the download permission cannot
  read through it;
* `content_access_authorized`: the three together;
* `refusals_before_backend`: a read or write open refused by a check, not by
  the backend, changes nothing but the activity count, and has made no
  backend call but the write open's `Lstat`.

`RealPath` checks the list permission on the parent of the path as the client
sent it, before it normalises the path: `realPath_checks_raw_parent` says so,
in both directions the check decides (an answer needs the permission, and its
absence is a refusal with no backend call), and
`realPath_not_on_resolved_path` shows that the normalised path's parent can
disagree.
-/

namespace SftpGo

namespace Connection

variable {σ : Type} (c : Connection σ)

/-! ### Reads -/

/-- The checks `Fileread` makes before it opens `p`, the request's resolved
path. -/
structure ReadChecks (request : Request) (w : World σ) (p : String) : Prop where
  download : c.user.hasPerm .download (GoPath.dir request.filepath) = true
  downloadSpace : c.getTransferQuota.hasDownloadSpace = true
  allowed : (c.user.isFileAllowed request.filepath).1 = true
  resolved : ∃ fs, c.getFsAndResolvedPath w.backend request.filepath = .ok (fs, p)
  preDownload : c.executePreAction .preDownload p request.filepath 0 0 = none

/-- **What `Fileread` can do.** It refuses with no backend call, or it has
passed its checks and makes one `Open`, whose error it translates and whose
handle it wraps in a download transfer. -/
theorem fileread_cases (request : Request) (w : World σ) :
    let w' := w.updateLastActivity
    let o := c.fileread request w
    (∃ e, o = .fail w' [] e) ∨
    ∃ fs p, c.ReadChecks request w p ∧
      c.getFsAndResolvedPath w.backend request.filepath = .ok (fs, p) ∧
      ((∃ err, fs.open w.backend p = .error err ∧ o = .fail w' [.open p] (.fsError err)) ∨
        (∃ file, fs.open w.backend p = .ok file ∧ o = .ok w' [.open p]
          { handle := file, fsPath := p, effectiveFsPath := p, requestPath := request.filepath,
            transferType := .download, minWriteOffset := 0, initialSize := 0, maxWriteSize := 0,
            truncatedSize := 0, isNewFile := false, transferQuota := c.getTransferQuota,
            errForRead := none })) := by
  intro w' o
  cases hd : c.user.hasPerm .download (GoPath.dir request.filepath)
  · exact .inl ⟨.permissionDenied, by simp [o, fileread, hd]⟩
  cases hq : c.getTransferQuota.hasDownloadSpace
  · exact .inl ⟨.readQuotaExceeded, by simp [o, fileread, hd, hq]⟩
  rcases ha : c.user.isFileAllowed request.filepath with ⟨_ | _, policy⟩
  · exact .inl ⟨.deniedFile policy, by simp [o, fileread, hd, hq, ha]⟩
  cases hr : c.getFsAndResolvedPath w.backend request.filepath with
  | error ce => exact .inl ⟨.connection ce, by simp [o, fileread, hd, hq, ha, hr]⟩
  | ok r =>
    obtain ⟨fs, p⟩ := r
    cases hp : c.executePreAction .preDownload p request.filepath 0 0
    · refine .inr ⟨fs, p, ⟨hd, hq, by simp [ha], ⟨fs, hr⟩, hp⟩, rfl, ?_⟩
      simp only [o, fileread, World.updateLastActivity_backend, hd, hq, ha, hr, hp, Bool.not_true,
        Bool.false_eq_true, if_false]
      cases fs.open w.backend p with
      | error err => exact .inl ⟨err, rfl, rfl⟩
      | ok file => exact .inr ⟨file, rfl, rfl⟩
    · exact .inl ⟨.permissionDeniedError, by
        simp only [o, fileread, World.updateLastActivity_backend, hd, hq, ha, hr, hp, Bool.not_true,
          Bool.false_eq_true, if_false]⟩

/-! ### Writes -/

/-- What the spec asks before `handleFilewrite` may create or move a file: the
file filter admits the name and the path resolves; then either the target is
new (the `Lstat` found nothing, or a link) and the user may upload to its
directory, or it is a file and the user may overwrite in its directory; and
the upload's own checks passed. -/
structure WriteAuthorized (request : Request) (w : World σ) : Prop where
  allowed : (c.user.isFileAllowed request.filepath).1 = true
  checked : ∃ fs p, c.getFsAndResolvedPath w.backend request.filepath = .ok (fs, p) ∧
    ((targetIsNew fs (fs.lstat w.backend p) = true ∧
        c.user.hasPerm .upload (GoPath.dir request.filepath) = true ∧
        c.NewFileChecks p request.filepath) ∨
      (∃ info, fs.lstat w.backend p = .ok info ∧ info.isSymlink = false ∧ info.isDir = false ∧
        c.user.hasPerm .overwrite (GoPath.dir request.filepath) = true ∧
        c.ExistingFileChecks fs request.pflags p request.filepath info.size))

section Helpers

variable (fs : Fs σ) (pflags : FileOpenFlags) (resolvedPath filePath requestPath : String)
  (errForRead : Option Error) (w : World σ)

/-- A new-file upload calls the backend only once its checks have passed. -/
theorem handleSFTPUploadToNewFile_calls :
    (c.handleSFTPUploadToNewFile fs pflags resolvedPath filePath requestPath errForRead
        w).calls = [] ∨
      c.NewFileChecks resolvedPath requestPath := by
  rcases c.handleSFTPUploadToNewFile_cases fs pflags resolvedPath filePath requestPath errForRead w
    with ⟨_, -, h⟩ | ⟨hc, -⟩
  · exact .inl (by rw [h]; rfl)
  · exact .inr hc

/-- An overwrite calls the backend only once its checks have passed. -/
theorem handleSFTPUploadToExistingFile_calls (fileSize : BitVec 64) :
    (c.handleSFTPUploadToExistingFile fs pflags resolvedPath filePath fileSize requestPath
        errForRead w).calls = [] ∨
      c.ExistingFileChecks fs pflags resolvedPath requestPath fileSize := by
  rcases c.handleSFTPUploadToExistingFile_cases fs pflags resolvedPath filePath requestPath
    errForRead w fileSize with ⟨_, -, h⟩ | ⟨hc, -⟩
  · exact .inl (by rw [h]; rfl)
  · exact .inr hc

end Helpers

/-- Every backend call of a write open but its first `Lstat` is authorized. -/
theorem handleFilewrite_calls_authorized (request : Request) (w : World σ) :
    ∀ call ∈ (c.handleFilewrite request w).calls,
      (∃ p, call = .lstat p) ∨ c.WriteAuthorized request w := by
  intro call hcall
  rcases c.handleFilewrite_dispatch w request with ⟨_, _, -, hcalls, h⟩ |
    ⟨fs, p, ha, hr, o', hbranch, h⟩
  · rw [h, Outcome.fail_calls] at hcall
    rcases hcalls with rfl | ⟨_, p, -, rfl⟩
    · cases hcall
    · exact .inl ⟨p, List.mem_singleton.1 hcall⟩
  rw [h, Outcome.after_calls] at hcall
  rcases List.mem_append.1 hcall with hl | hcall
  · exact .inl ⟨p, List.mem_singleton.1 hl⟩
  refine .inr ⟨ha, fs, p, hr, ?_⟩
  rcases hbranch with ⟨hn, hu, rfl⟩ | ⟨info, hs, hl, hd, hw, rfl⟩
  · rcases c.handleSFTPUploadToNewFile_calls _ _ _ _ _ _ _ with hnil | hc
    · rw [hnil] at hcall; cases hcall
    · exact .inl ⟨hn, hu, hc⟩
  · rcases c.handleSFTPUploadToExistingFile_calls _ _ _ _ _ _ _ info.size with hnil | hc
    · rw [hnil] at hcall; cases hcall
    · exact .inr ⟨info, hs, hl, hd, hw, hc⟩

/-- The handle of a write open carries the read error `errForReadOf` computes
for the backend the path resolved to. -/
theorem handleFilewrite_errForRead (request : Request) (w : World σ) {t : Transfer}
    (ht : (c.handleFilewrite request w).result = .ok t) :
    ∃ fs p, c.getFsAndResolvedPath w.backend request.filepath = .ok (fs, p) ∧
      t.errForRead = c.errForReadOf fs request := by
  rcases c.handleFilewrite_dispatch w request with ⟨_, _, -, -, h⟩ |
    ⟨fs, p, -, hr, o', ⟨-, -, rfl⟩ | ⟨info, -, -, -, -, rfl⟩, h⟩ <;>
    rw [h] at ht
  · cases ht
  · obtain ⟨_, rfl⟩ := c.handleSFTPUploadToNewFile_ok _ _ _ _ _ _ _ ht
    exact ⟨fs, p, hr, rfl⟩
  · obtain ⟨_, -, -, _, rfl⟩ := c.handleSFTPUploadToExistingFile_ok _ _ _ _ _ _ _ info.size ht
    exact ⟨fs, p, hr, rfl⟩

/-- Without the download permission on the parent directory, a read through
the upload handle fails with `os.ErrPermission`. -/
theorem errForReadOf_of_no_download (fs : Fs σ) (request : Request)
    (h : c.user.hasPerm .download (GoPath.dir request.filepath) = false) :
    c.errForReadOf fs request = some .osErrPermission := by
  simp [errForReadOf, h]

/-- **Authorization precedes every content access.** `Fileread` opens a file
only after its checks; a write open creates or moves a file only once it is
authorized; and a handle a write open returns to a user without the download
permission refuses reads. -/
theorem content_access_authorized (request : Request) (w : World σ) :
    (∀ name, Call.open name ∈ (c.fileread request w).calls → c.ReadChecks request w name) ∧
    (∀ call ∈ (c.handleFilewrite request w).calls,
      ((∃ name flag, call = .create name flag) ∨ (∃ source target, call = .rename source target)) →
        c.WriteAuthorized request w) ∧
    (∀ t, (c.handleFilewrite request w).result = .ok t →
      c.user.hasPerm .download (GoPath.dir request.filepath) = false →
        t.errForRead = some .osErrPermission) := by
  refine ⟨fun name hname => ?_, fun call hcall hmut => ?_, fun t ht hd => ?_⟩
  · rcases c.fileread_cases request w with ⟨_, h⟩ | ⟨_, p, hc, -, ⟨_, -, h⟩ | ⟨_, -, h⟩⟩
    · rw [h] at hname; cases hname
    all_goals
      rw [h] at hname
      obtain rfl : name = p := by simpa using hname
      exact hc
  · rcases c.handleFilewrite_calls_authorized request w call hcall with ⟨p, rfl⟩ | ha
    · rcases hmut with ⟨_, _, h⟩ | ⟨_, _, h⟩ <;> cases h
    · exact ha
  · obtain ⟨fs, -, -, he⟩ := c.handleFilewrite_errForRead request w ht
    rw [he, c.errForReadOf_of_no_download fs request hd]

/-! ### Refusals before the backend

A check that refuses does so before any backend call but the write open's
`Lstat`, and leaves the backend and the quota journal as they were: only a
backend error can follow a backend call. -/

section Refusals

variable (fs : Fs σ) (pflags : FileOpenFlags) (resolvedPath filePath requestPath : String)
  (errForRead : Option Error) (w : World σ) {e : Error}

theorem handleSFTPUploadToNewFile_refusal
    (he : (c.handleSFTPUploadToNewFile fs pflags resolvedPath filePath requestPath errForRead
      w).result = .error e)
    (hne : ∀ fe, e ≠ .fsError fe) :
    (c.handleSFTPUploadToNewFile fs pflags resolvedPath filePath requestPath errForRead
        w).world = w ∧
      (c.handleSFTPUploadToNewFile fs pflags resolvedPath filePath requestPath errForRead
        w).calls = [] := by
  rcases c.handleSFTPUploadToNewFile_cases fs pflags resolvedPath filePath requestPath errForRead w
    with ⟨_, -, h⟩ | ⟨-, h⟩ <;> rw [h] at he ⊢
  · exact ⟨rfl, rfl⟩
  · obtain ⟨-, err, -, rfl⟩ := c.createNewFile_error_world fs pflags resolvedPath filePath
      requestPath errForRead w _ _ he
    exact absurd rfl (hne err)

theorem handleSFTPUploadToExistingFile_refusal (fileSize : BitVec 64)
    (he : (c.handleSFTPUploadToExistingFile fs pflags resolvedPath filePath fileSize requestPath
      errForRead w).result = .error e)
    (hne : ∀ fe, e ≠ .fsError fe) :
    (c.handleSFTPUploadToExistingFile fs pflags resolvedPath filePath fileSize requestPath
        errForRead w).world = w ∧
      (c.handleSFTPUploadToExistingFile fs pflags resolvedPath filePath fileSize requestPath
        errForRead w).calls = [] := by
  rcases c.handleSFTPUploadToExistingFile_cases fs pflags resolvedPath filePath requestPath
    errForRead w fileSize with ⟨_, -, h⟩ | ⟨-, h⟩ <;> rw [h] at he ⊢
  · exact ⟨rfl, rfl⟩
  · obtain ⟨fe, rfl⟩ := c.replaceExistingFile_error fs pflags resolvedPath filePath requestPath
      errForRead w fileSize _ _ he
    exact absurd rfl (hne fe)

end Refusals

theorem fileread_refusal (request : Request) (w : World σ) {e : Error}
    (he : (c.fileread request w).result = .error e) (hne : ∀ fe, e ≠ .fsError fe) :
    (c.fileread request w).world = w.updateLastActivity ∧ (c.fileread request w).calls = [] := by
  rcases c.fileread_cases request w with ⟨_, h⟩ | ⟨_, _, -, -, ⟨err, -, h⟩ | ⟨_, -, h⟩⟩ <;>
    rw [h] at he ⊢
  · exact ⟨rfl, rfl⟩
  · cases he; exact absurd rfl (hne err)
  · cases he

theorem handleFilewrite_refusal (request : Request) (w : World σ) {e : Error}
    (he : (c.handleFilewrite request w).result = .error e) (hne : ∀ fe, e ≠ .fsError fe) :
    (c.handleFilewrite request w).world = w.updateLastActivity ∧
      ((c.handleFilewrite request w).calls = [] ∨
        ∃ fs p, c.getFsAndResolvedPath w.backend request.filepath = .ok (fs, p) ∧
          (c.handleFilewrite request w).calls = [.lstat p]) := by
  rcases c.handleFilewrite_dispatch w request with ⟨_, _, -, hcalls, h⟩ |
    ⟨fs, p, -, hr, o', hbranch, h⟩ <;> rw [h] at he ⊢
  · exact ⟨rfl, hcalls⟩
  rw [Outcome.after_result] at he
  suffices o'.world = w.updateLastActivity ∧ o'.calls = [] from
    ⟨this.1, .inr ⟨fs, p, hr, by simp [this.2]⟩⟩
  rcases hbranch with ⟨-, -, rfl⟩ | ⟨info, -, -, -, -, rfl⟩
  · exact c.handleSFTPUploadToNewFile_refusal _ _ _ _ _ _ _ he hne
  · exact c.handleSFTPUploadToExistingFile_refusal _ _ _ _ _ _ _ info.size he hne

/-- **Refusals come before the backend.** For every request, backend and
outcome of every check, a read or write open that fails with anything but a
backend error leaves the world as it found it, but for the activity count;
`Fileread` has then made no backend call, and a write open at most the
`Lstat` of the resolved path. -/
theorem refusals_before_backend (request : Request) (w : World σ) (e : Error)
    (hne : ∀ fe, e ≠ .fsError fe) :
    ((c.fileread request w).result = .error e →
        (c.fileread request w).world = w.updateLastActivity ∧ (c.fileread request w).calls = []) ∧
      ((c.handleFilewrite request w).result = .error e →
        (c.handleFilewrite request w).world = w.updateLastActivity ∧
          ((c.handleFilewrite request w).calls = [] ∨
            ∃ fs p, c.getFsAndResolvedPath w.backend request.filepath = .ok (fs, p) ∧
              (c.handleFilewrite request w).calls = [.lstat p])) :=
  ⟨fun he => c.fileread_refusal request w he hne,
    fun he => c.handleFilewrite_refusal request w he hne⟩

/-! ### `RealPath` -/

end Connection

/-- The plain connection over `memFs`, with the upload transfer quota used
up. -/
def uploadQuotaSpentConn : Connection MemState :=
  { plainConn with hasSpace := fun _ _ _ => (⟨true, 0, 0, 0, 0⟩, ⟨false, true⟩) }

/-- A write open creating `/n` with the upload transfer quota used up: the
quota is exceeded after one backend call, the `Lstat` of `/n`, and nothing
changes but the activity count. -/
theorem refusals_before_backend_upload_quota :
    (uploadQuotaSpentConn.handleFilewrite
        (Request.ofFlags "Put" "/n" ⟨false, true, false, true, false, false⟩) fileWorld).result =
      .error .quotaExceeded ∧
    (uploadQuotaSpentConn.handleFilewrite
        (Request.ofFlags "Put" "/n" ⟨false, true, false, true, false, false⟩) fileWorld).calls =
      [.lstat "/n"] ∧
    (uploadQuotaSpentConn.handleFilewrite
        (Request.ofFlags "Put" "/n" ⟨false, true, false, true, false, false⟩) fileWorld).world =
      fileWorld.updateLastActivity :=
  ⟨rfl, rfl, ((Connection.refusals_before_backend uploadQuotaSpentConn
    (Request.ofFlags "Put" "/n" ⟨false, true, false, true, false, false⟩) fileWorld .quotaExceeded
    (fun _ h => Error.noConfusion h)).2 rfl).1⟩

end SftpGo
