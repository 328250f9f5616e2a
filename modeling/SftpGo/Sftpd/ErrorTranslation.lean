import SftpGo.Sftpd.Handler
import SftpGo.Sftpd.StatVFS
import SftpGo.Sftpd.Upload

/-!
# Backend errors on the way to the client

Every handler of the dispatcher but one hands a backend error to the client
through `c.GetFsError`. `StatVFS` does not: an error of the backend's
`GetAvailableDiskSize` other than `vfs.ErrStorageSizeUnavailable` comes back
as it is, on each of its three paths (no space left, no quota configured, a
quota configured).

* `handlers_translate_backend_errors`: no other handler returns an
  untranslated backend error, whatever the request, the backend and the
  checks;
* `statVFS_backend_error`: whenever the path resolves and the backend's
  `GetAvailableDiskSize` fails so, `StatVFS` returns the backend's error
  untranslated.
-/

namespace SftpGo

/-- An outcome that hands the client no backend error untranslated. -/
def Outcome.Translated {σ α : Type} (o : Outcome σ α) : Prop :=
  ∀ be, o.result ≠ .error (.backend be)

namespace Connection

variable {σ : Type} (c : Connection σ)

/-! ### The handlers that translate -/

/-- `canReadLink` refuses with protocol errors only. -/
theorem canReadLink_ne_backend {name : String} {e : Error} (h : c.canReadLink name = some e)
    (be : FsError) : e ≠ .backend be := by
  unfold canReadLink at h
  split at h
  · cases h; simp
  · split at h <;> cases h; simp

/-! Each handler below is split along its own branches; every branch either
succeeds or fails with an error built by a constructor other than
`Error.backend`. -/

theorem fileread_translated (request : Request) (w : World σ) :
    (c.fileread request w).Translated := by
  intro be
  simp only [fileread]
  repeat' split
  all_goals simp

theorem readlink_translated (filePath : String) (w : World σ) :
    (c.readlink filePath w).Translated := by
  intro be
  simp only [readlink]
  repeat' split
  all_goals simp
  all_goals exact c.canReadLink_ne_backend ‹_› be

theorem lstat_translated (request : Request) (w : World σ) : (c.lstat request w).Translated := by
  intro be
  simp only [lstat]
  repeat' split
  all_goals simp

theorem realPath_translated (p : String) (w : World σ) : (c.realPath p w).Translated := by
  intro be
  simp only [realPath]
  repeat' split
  all_goals simp

theorem filelist_translated (request : Request) (w : World σ) :
    (c.filelist request w).Translated := by
  intro be
  simp only [filelist]
  repeat' split
  all_goals simp

theorem handleSFTPRemove_translated (request : Request) (w : World σ) :
    (c.handleSFTPRemove request w).Translated := by
  intro be
  simp only [handleSFTPRemove, delegated]
  repeat' split
  all_goals simp

theorem filecmd_translated (request : Request) (w : World σ) :
    (c.filecmd request w).Translated := by
  intro be
  simp only [filecmd, handleSFTPSetstat, delegated, delegatedOk]
  repeat' split
  all_goals first | exact c.handleSFTPRemove_translated request _ be | simp

section Upload

variable (fs : Fs σ) (pflags : FileOpenFlags) (resolvedPath filePath requestPath : String)
  (errForRead : Option Error) (w : World σ)

theorem handleSFTPUploadToNewFile_translated :
    (c.handleSFTPUploadToNewFile fs pflags resolvedPath filePath requestPath errForRead
      w).Translated := by
  intro be
  simp only [handleSFTPUploadToNewFile, createNewFile]
  repeat' split
  all_goals simp

theorem handleSFTPUploadToExistingFile_translated (fileSize : BitVec 64) :
    (c.handleSFTPUploadToExistingFile fs pflags resolvedPath filePath fileSize requestPath
      errForRead w).Translated := by
  intro be
  simp only [handleSFTPUploadToExistingFile, replaceExistingFile, openExistingFile]
  repeat' split
  all_goals simp

end Upload

/-- The write path translates: its refusals are protocol errors, and the
upload helpers translate. -/
theorem handleFilewrite_translated (request : Request) (w : World σ) :
    (c.handleFilewrite request w).Translated := by
  intro be
  rcases c.handleFilewrite_dispatch w request with ⟨_, _, he, -, h⟩ |
    ⟨fs, p, -, -, o', ⟨-, -, rfl⟩ | ⟨_, -, -, -, -, rfl⟩, h⟩ <;> rw [h]
  · exact fun hb => he be (Except.error.inj hb)
  · exact c.handleSFTPUploadToNewFile_translated _ _ _ _ _ _ _ be
  · exact c.handleSFTPUploadToExistingFile_translated _ _ _ _ _ _ _ _ be

/-- **Every handler but `StatVFS` translates backend errors.** Whatever the
request, the backend's answers and the outcome of every check, none of them
returns a backend error untranslated. -/
theorem handlers_translate_backend_errors (request : Request) (p : String) (w : World σ) :
    (c.fileread request w).Translated ∧ (c.handleFilewrite request w).Translated ∧
      (c.openFile request w).Translated ∧ (c.filewrite request w).Translated ∧
      (c.filecmd request w).Translated ∧ (c.handleSFTPRemove request w).Translated ∧
      (c.filelist request w).Translated ∧ (c.readlink p w).Translated ∧
      (c.lstat request w).Translated ∧ (c.realPath p w).Translated :=
  ⟨c.fileread_translated request w, c.handleFilewrite_translated request w,
    c.handleFilewrite_translated request w, c.handleFilewrite_translated request w,
    c.filecmd_translated request w, c.handleSFTPRemove_translated request w,
    c.filelist_translated request w, c.readlink_translated p w, c.lstat_translated request w,
    c.realPath_translated p w⟩

/-! ### `StatVFS` -/

/-- `getStatVFSFromQuotaResult` returns a backend error other than
`vfs.ErrStorageSizeUnavailable` as it is. -/
theorem getStatVFSFromQuotaResult_backend_error {fs : Fs σ} {name : String} {n : Nat}
    (w : World σ) (hd : fs.getAvailableDiskSize w.backend name = .error (.other n))
    (quotaResult : QuotaCheckResult) :
    (getStatVFSFromQuotaResult fs name quotaResult w).result = .error (.backend (.other n)) := by
  simp [getStatVFSFromQuotaResult, effectiveQuota, hd]

/-- **`StatVFS` leaks backend errors.** Whenever the request's path resolves
and the backend's `GetAvailableDiskSize` fails with an error other than
`vfs.ErrStorageSizeUnavailable`, `StatVFS` returns that error as it is,
whatever the quota check says. -/
theorem statVFS_backend_error (r : Request) (w : World σ) {fs : Fs σ} {p : String} {n : Nat}
    (hr : c.getFsAndResolvedPath w.backend r.filepath = .ok (fs, p))
    (hd : fs.getAvailableDiskSize w.backend p = .error (.other n)) :
    (c.statVFS r w).result = .error (.backend (.other n)) := by
  have hq := getStatVFSFromQuotaResult_backend_error w.updateLastActivity hd
  simp only [statVFS, World.updateLastActivity_backend, hr]
  split
  · exact hq _
  split
  · simp [hd]
  · exact hq _

end Connection

/-- A backend whose disk-size query fails with code 5: `StatVFS` of `/`
returns that error untranslated. -/
theorem statVFS_backend_error_five :
    (Connection.plain (User.unrestricted "alice")
        { memFs with getAvailableDiskSize := fun _ _ => .error (.other 5) } false
      ).getFsAndResolvedPath [] "/" =
      .ok ({ memFs with getAvailableDiskSize := fun _ _ => .error (.other 5) }, "/") ∧
    ({ memFs with getAvailableDiskSize := fun _ _ => .error (.other 5) } : Fs MemState
      ).getAvailableDiskSize [] "/" = .error (.other 5) ∧
    ((Connection.plain (User.unrestricted "alice")
        { memFs with getAvailableDiskSize := fun _ _ => .error (.other 5) } false).statVFS
      (Request.ofFlags "StatVFS" "/" ⟨false, false, false, false, false, false⟩)
      ⟨[], [], 0⟩).result = .error (.backend (.other 5)) :=
  ⟨rfl, rfl, Connection.statVFS_backend_error _ _ ⟨[], [], 0⟩ rfl rfl⟩

end SftpGo
