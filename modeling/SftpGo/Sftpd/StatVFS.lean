import SftpGo.Sftpd.Connection

/-!
# Synthesised filesystem statistics

`StatVFS` answers a `statvfs@openssh.com` request. With free space and no
quota configured it returns the backend's own statistics; otherwise
`getStatVFSFromQuotaResult` builds them from the quota check, in three steps
that are separate definitions here:

* `effectiveQuota` (the first half of the function): the backend's totals
  clamp the quota ceilings, a backend error other than
  `vfs.ErrStorageSizeUnavailable` ends the request, and a ceiling that is
  still unknown gets arbitrary headroom over the used counter (8 TiB, a
  million files);
* `shrinkBlockSize`: the loop that divides the block size by four, from 4096,
  while it exceeds the size ceiling;
* `statVFSOfQuota`: blocks and files from the ceilings, and free blocks and
  files from ceiling minus used, forced to zero when there is no space
  (`statVFSWithBlockSize`); or Go's run-time panic when the loop has brought
  the block size to zero, which `getStatVFSFromQuotaResult` ends in
  (`Error.divideByZero`).

All quantities are Go's `int64`, `int` and `uint64`, `BitVec 64` here: the
clamp compares signed, the loop compares unsigned, and the subtractions wrap.
-/

namespace SftpGo

/-- The clamp of the quota ceilings to the backend's totals. A zero ceiling
(unlimited) or one above the backend's total becomes the total; the size
comparison is on `int64`, the file count one on `int`. -/
def clampToDisk (s : StatVFS) (quotaResult : QuotaCheckResult) : QuotaCheckResult :=
  let quotaResult :=
    if quotaResult.quotaSize = 0 || s.totalSpace.slt quotaResult.quotaSize then
      { quotaResult with quotaSize := s.totalSpace }
    else quotaResult
  if quotaResult.quotaFiles = 0 || s.files.slt quotaResult.quotaFiles then
    { quotaResult with quotaFiles := s.files }
  else quotaResult

theorem clampToDisk_quotaSize (s : StatVFS) (quotaResult : QuotaCheckResult) :
    (clampToDisk s quotaResult).quotaSize =
      if quotaResult.quotaSize = 0 || s.totalSpace.slt quotaResult.quotaSize then s.totalSpace
      else quotaResult.quotaSize := by
  simp only [clampToDisk]; split <;> split <;> rfl

theorem clampToDisk_quotaFiles (s : StatVFS) (quotaResult : QuotaCheckResult) :
    (clampToDisk s quotaResult).quotaFiles =
      if quotaResult.quotaFiles = 0 || s.files.slt quotaResult.quotaFiles then s.files
      else quotaResult.quotaFiles := by
  simp only [clampToDisk]; split <;> split <;> rfl

@[simp] theorem clampToDisk_usedSize (s : StatVFS) (quotaResult : QuotaCheckResult) :
    (clampToDisk s quotaResult).usedSize = quotaResult.usedSize := by
  simp only [clampToDisk]; split <;> split <;> rfl

@[simp] theorem clampToDisk_usedFiles (s : StatVFS) (quotaResult : QuotaCheckResult) :
    (clampToDisk s quotaResult).usedFiles = quotaResult.usedFiles := by
  simp only [clampToDisk]; split <;> split <;> rfl

@[simp] theorem clampToDisk_hasSpace (s : StatVFS) (quotaResult : QuotaCheckResult) :
    (clampToDisk s quotaResult).hasSpace = quotaResult.hasSpace := by
  simp only [clampToDisk]; split <;> split <;> rfl

/-- The arbitrary headroom given to a ceiling that is still unknown: 8 TiB
over the used size, a million files over the used count. -/
def withHeadroom (quotaResult : QuotaCheckResult) : QuotaCheckResult :=
  let quotaResult :=
    if quotaResult.quotaSize = 0 then
      { quotaResult with quotaSize := quotaResult.usedSize + 8 * 1024 * 1024 * 1024 * 1024 }
    else quotaResult
  if quotaResult.quotaFiles = 0 then
    { quotaResult with quotaFiles := quotaResult.usedFiles + 1000000 }
  else quotaResult

/-- The size ceiling after the headroom: the used size plus 8 TiB in place
of an unknown ceiling. -/
theorem withHeadroom_quotaSize (quotaResult : QuotaCheckResult) :
    (withHeadroom quotaResult).quotaSize =
      if quotaResult.quotaSize = 0 then quotaResult.usedSize + 8 * 1024 * 1024 * 1024 * 1024
      else quotaResult.quotaSize := by
  simp only [withHeadroom]; split <;> split <;> rfl

/-- The file ceiling after the headroom: the used count plus a million in
place of an unknown ceiling. -/
theorem withHeadroom_quotaFiles (quotaResult : QuotaCheckResult) :
    (withHeadroom quotaResult).quotaFiles =
      if quotaResult.quotaFiles = 0 then quotaResult.usedFiles + 1000000
      else quotaResult.quotaFiles := by
  simp only [withHeadroom]; split <;> split <;> rfl

@[simp] theorem withHeadroom_hasSpace (quotaResult : QuotaCheckResult) :
    (withHeadroom quotaResult).hasSpace = quotaResult.hasSpace := by
  simp only [withHeadroom]; split <;> split <;> rfl

@[simp] theorem withHeadroom_usedSize (quotaResult : QuotaCheckResult) :
    (withHeadroom quotaResult).usedSize = quotaResult.usedSize := by
  simp only [withHeadroom]; split <;> split <;> rfl

@[simp] theorem withHeadroom_usedFiles (quotaResult : QuotaCheckResult) :
    (withHeadroom quotaResult).usedFiles = quotaResult.usedFiles := by
  simp only [withHeadroom]; split <;> split <;> rfl

/-- The quota result `getStatVFSFromQuotaResult` computes blocks from, given
the backend's answer to `GetAvailableDiskSize`, or the backend error it
returns. -/
def effectiveQuota (disk : Except FsError StatVFS) (quotaResult : QuotaCheckResult) :
    Except FsError QuotaCheckResult :=
  match disk with
  | .ok s => .ok (withHeadroom (clampToDisk s quotaResult))
  | .error .storageSizeUnavailable => .ok (withHeadroom quotaResult)
  | .error err => .error err

/-- The two ways `effectiveQuota` succeeds: the backend's totals clamp the
ceilings, or the backend cannot say and only the headroom applies. -/
theorem effectiveQuota_cases {disk : Except FsError StatVFS} {quotaResult q : QuotaCheckResult}
    (hq : effectiveQuota disk quotaResult = .ok q) :
    (∃ s, disk = .ok s ∧ q = withHeadroom (clampToDisk s quotaResult)) ∨
      (disk = .error .storageSizeUnavailable ∧ q = withHeadroom quotaResult) := by
  unfold effectiveQuota at hq
  split at hq
  · exact .inl ⟨_, rfl, (Except.ok.inj hq).symm⟩
  · exact .inr ⟨rfl, (Except.ok.inj hq).symm⟩
  · cases hq

/-- The loop `for bsize > uint64(quotaResult.QuotaSize) { bsize /= 4 }`. It
ends because `bsize` falls at each turn, and at `0` the guard fails. -/
def shrinkBlockSize (quotaSize bsize : BitVec 64) : BitVec 64 :=
  if quotaSize < bsize then shrinkBlockSize quotaSize (bsize / 4) else bsize
termination_by bsize.toNat
decreasing_by
  have h4 : (4 : BitVec 64).toNat = 4 := rfl
  rw [BitVec.lt_def] at *
  rw [BitVec.toNat_udiv, h4]
  omega

theorem shrinkBlockSize_of_lt {quotaSize bsize : BitVec 64} (h : quotaSize < bsize) :
    shrinkBlockSize quotaSize bsize = shrinkBlockSize quotaSize (bsize / 4) := by
  rw [shrinkBlockSize, if_pos h]

theorem shrinkBlockSize_of_le {quotaSize bsize : BitVec 64} (h : ¬ quotaSize < bsize) :
    shrinkBlockSize quotaSize bsize = bsize := by
  rw [shrinkBlockSize, if_neg h]

/-- The statistics `getStatVFSFromQuotaResult` builds once its loop has
settled on the block size `bsize`. -/
def statVFSWithBlockSize (quotaResult : QuotaCheckResult) (bsize : BitVec 64) : StatVFS :=
  let blocks := quotaResult.quotaSize / bsize
  let bfree := (quotaResult.quotaSize - quotaResult.usedSize) / bsize
  let files := quotaResult.quotaFiles
  let ffree := quotaResult.quotaFiles - quotaResult.usedFiles
  let (bfree, ffree) := if !quotaResult.hasSpace then (0, 0) else (bfree, ffree)
  { bsize, frsize := bsize, blocks, bfree, bavail := bfree, files, ffree, favail := ffree,
    namemax := 255 }

/-- The statistics `getStatVFSFromQuotaResult` returns for a quota result, or
`none` where Go panics: a size ceiling of `0` brings the loop to a block size
of `0`, and the first division by it, `uint64` division by zero, is a
run-time panic. -/
def statVFSOfQuota (quotaResult : QuotaCheckResult) : Option StatVFS :=
  let bsize := shrinkBlockSize quotaResult.quotaSize 4096
  if bsize = 0 then none else some (statVFSWithBlockSize quotaResult bsize)

theorem statVFSOfQuota_of_ne_zero {quotaResult : QuotaCheckResult}
    (h : shrinkBlockSize quotaResult.quotaSize 4096 ≠ 0) :
    statVFSOfQuota quotaResult =
      some (statVFSWithBlockSize quotaResult (shrinkBlockSize quotaResult.quotaSize 4096)) := by
  simp only [statVFSOfQuota, h, if_false]

theorem eq_of_statVFSOfQuota {quotaResult : QuotaCheckResult} {s : StatVFS}
    (h : statVFSOfQuota quotaResult = some s) :
    s = statVFSWithBlockSize quotaResult (shrinkBlockSize quotaResult.quotaSize 4096) := by
  by_cases h0 : shrinkBlockSize quotaResult.quotaSize 4096 = 0
  · simp only [statVFSOfQuota, h0, if_true, reduceCtorEq] at h
  · rw [statVFSOfQuota_of_ne_zero h0] at h
    exact (Option.some.inj h).symm

/-- `getStatVFSFromQuotaResult`. The request ends in a panic, with the world
as it was, when the block size is zero. -/
def getStatVFSFromQuotaResult {σ : Type} (fs : Fs σ) (name : String)
    (quotaResult : QuotaCheckResult) (w : World σ) : Outcome σ StatVFS :=
  match effectiveQuota (fs.getAvailableDiskSize w.backend name) quotaResult with
  | .error err => .fail w [.getAvailableDiskSize name] (.backend err)
  | .ok q =>
    match statVFSOfQuota q with
    | some s => .ok w [.getAvailableDiskSize name] s
    | none => .fail w [.getAvailableDiskSize name] .divideByZero

/-- Statistics `getStatVFSFromQuotaResult` returns are those of the
effective quota. -/
theorem getStatVFSFromQuotaResult_ok {σ : Type} {fs : Fs σ} {name : String}
    {quotaResult : QuotaCheckResult} {w : World σ} {s : StatVFS}
    (hs : (getStatVFSFromQuotaResult fs name quotaResult w).result = .ok s) :
    ∃ q, effectiveQuota (fs.getAvailableDiskSize w.backend name) quotaResult = .ok q ∧
      statVFSOfQuota q = some s := by
  unfold getStatVFSFromQuotaResult at hs
  split at hs
  · cases hs
  next q hq =>
    split at hs
    · next s' hs' => exact ⟨q, hq, by rw [hs', Except.ok.inj hs]⟩
    · cases hs

theorem getStatVFSFromQuotaResult_of_some {σ : Type} {fs : Fs σ} {name : String}
    {quotaResult q : QuotaCheckResult} {w : World σ} {s : StatVFS}
    (hq : effectiveQuota (fs.getAvailableDiskSize w.backend name) quotaResult = .ok q)
    (hs : statVFSOfQuota q = some s) :
    (getStatVFSFromQuotaResult fs name quotaResult w).result = .ok s := by
  simp only [getStatVFSFromQuotaResult, hq, hs, Outcome.ok_result]

/-- `StatVFS`. The quota probe path is a file inside the request's path; the
per-file upload limit plays no part. -/
def Connection.statVFS {σ : Type} (c : Connection σ) (r : Request) (w : World σ) :
    Outcome σ StatVFS :=
  let w := w.updateLastActivity
  let (quotaResult, _) := c.hasSpace true true (GoPath.join r.filepath "fakefile.txt")
  match c.getFsAndResolvedPath w.backend r.filepath with
  | .error err => .fail w [] (.connection err)
  | .ok (fs, p) =>
  if !quotaResult.hasSpace then getStatVFSFromQuotaResult fs p quotaResult w else
  if quotaResult.quotaSize = 0 && quotaResult.quotaFiles = 0 then
    -- no quota restrictions
    match fs.getAvailableDiskSize w.backend p with
    | .error .storageSizeUnavailable =>
      (getStatVFSFromQuotaResult fs p quotaResult w).after [.getAvailableDiskSize p]
    | .error err => .fail w [.getAvailableDiskSize p] (.backend err)
    | .ok statvfs => .ok w [.getAvailableDiskSize p] statvfs
  else getStatVFSFromQuotaResult fs p quotaResult w

end SftpGo
