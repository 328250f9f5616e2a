import SftpGo.Sftpd.Upload

/-!
# How an overwrite accounts for the old bytes

An overwrite of a file of `fileSize` bytes has to account for those bytes
once. A resume keeps them: the transfer starts with `initialSize = fileSize`.
A truncation the backend performs on open is debited from every quota target
of the path at once, by `updateQuotaAfterTruncate`. Any other truncation is
left to the transfer's close, through `truncatedSize = fileSize`.

* `OldBytesAccounted`: that accounting, between the quota journal before and
  after the open and the transfer's three offsets: the eager debit and the
  deferred sizes exclude each other, one of them always happens, and a
  truncating request on a backend that truncates on open gets the eager
  debit;
* `settleOldBytes_accounted`: `settleOldBytes` meets it;
* `handleSFTPUploadToExistingFile_old_bytes`: every transfer an overwrite
  returns meets the accounting, since it carries what `settleOldBytes` settled
  (`handleSFTPUploadToExistingFile_ok`), whatever the flags, the atomic-upload
  setting and the backend's answers.
-/

namespace SftpGo

namespace Connection

variable {σ : Type} (c : Connection σ) (fs : Fs σ) (pflags : FileOpenFlags)
  (fileSize : BitVec 64) (requestPath : String)

/-- Every path counts against some quota: the user's, or a folder's. -/
theorem quotaTargets_ne_nil : c.quotaTargets requestPath ≠ [] := by
  unfold quotaTargets; split <;> simp

/-- **The accounting of the old bytes** of an overwritten file of `fileSize`
bytes, between the quota journal `q₀` before the open and `q₁` after it, for a
transfer with the given offsets. Exactly one of: a truncation the backend
performs is debited from each quota target at once and the transfer starts
from nothing (`eager`); or nothing is debited and the transfer carries the old
size, as the truncated size too when the request truncates. The eager debit
is the one that happens whenever the request truncates and the backend can
truncate on open. The minimum write offset pins a resume to the end of the
old bytes when the client appends or the backend cannot resume by itself. -/
def OldBytesAccounted (q₀ q₁ : List QuotaUpdate)
    (minWriteOffset initialSize truncatedSize : BitVec 64) : Prop :=
  let truncate := getOSOpenFlags pflags &&& Os.oTrunc ≠ 0
  let eager :=
    q₁ = q₀ ++ (c.quotaTargets requestPath).map (fun target => ⟨target, 0, -fileSize, false⟩)
      ∧ initialSize = 0 ∧ truncatedSize = 0
  Xor' (truncate ∧ fs.hasTruncateSupport = true ∧ eager)
    (q₁ = q₀ ∧ initialSize = fileSize ∧
      truncatedSize = if truncate then fileSize else 0) ∧
  (truncate → fs.hasTruncateSupport = true → eager) ∧
  minWriteOffset =
    if ¬truncate ∧ (pflags.append = true ∨ fs.isUploadResumeSupported = false) then fileSize
    else 0

/-- `settleOldBytes` accounts for the old bytes once. -/
theorem settleOldBytes_accounted (w : World σ) :
    let r := c.settleOldBytes fs pflags fileSize requestPath w
    c.OldBytesAccounted fs pflags fileSize requestPath w.quota r.2.2.2.quota r.1 r.2.1 r.2.2.1 := by
  cases ht : pflags.trunc
  · rw [c.settleOldBytes_resume fs pflags fileSize requestPath w ht]
    simp [OldBytesAccounted, Xor', ht]
  · rw [c.settleOldBytes_truncate fs pflags fileSize requestPath w ht]
    cases hs : fs.hasTruncateSupport
    · simp [OldBytesAccounted, Xor', ht, hs]
    · simp [OldBytesAccounted, Xor', ht, hs, updateQuotaAfterTruncate_quota,
        c.quotaTargets_ne_nil requestPath]

variable (resolvedPath filePath : String) (errForRead : Option Error)

/-- **The old bytes are accounted for once.** Whatever the open flags, the
atomic-upload setting and the backend's answers, a transfer returned by an
overwrite meets `OldBytesAccounted` between the quota journal before the
request and after it. -/
theorem handleSFTPUploadToExistingFile_old_bytes (w : World σ) {t : Transfer}
    (ht : (c.handleSFTPUploadToExistingFile fs pflags resolvedPath filePath fileSize requestPath
      errForRead w).result = .ok t) :
    c.OldBytesAccounted fs pflags fileSize requestPath w.quota
      (c.handleSFTPUploadToExistingFile fs pflags resolvedPath filePath fileSize requestPath
        errForRead w).world.quota
      t.minWriteOffset t.initialSize t.truncatedSize := by
  obtain ⟨w₀, h₀, hq, _, rfl⟩ :=
    c.handleSFTPUploadToExistingFile_ok fs pflags resolvedPath filePath requestPath errForRead w
      fileSize ht
  rw [hq, ← h₀]
  exact c.settleOldBytes_accounted fs pflags fileSize requestPath w₀

end Connection

/-- A truncating overwrite of the 5-byte `/f` on `memFs`, which truncates on
open: the transfer exists and is accounted for by the eager debit. -/
theorem handleSFTPUploadToExistingFile_old_bytes_truncate :
    ∃ t, (plainConn.handleSFTPUploadToExistingFile memFs ⟨false, true, false, false, true, false⟩
        "/f" "/f" 5 "/f" none fileWorld).result = .ok t ∧
      plainConn.OldBytesAccounted memFs ⟨false, true, false, false, true, false⟩ 5 "/f"
        fileWorld.quota
        (plainConn.handleSFTPUploadToExistingFile memFs ⟨false, true, false, false, true, false⟩
          "/f" "/f" 5 "/f" none fileWorld).world.quota
        t.minWriteOffset t.initialSize t.truncatedSize :=
  ⟨_, rfl,
    Connection.handleSFTPUploadToExistingFile_old_bytes _ memFs _ 5 "/f" "/f" "/f" none _ rfl⟩

end SftpGo
