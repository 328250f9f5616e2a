import Mathlib.Data.Nat.Defs
import SftpGo.Sftpd.StatVFS

/-!
# Block sizes and free counts of synthesised statistics

`getStatVFSFromQuotaResult` divides by the block size its loop settles on,
and panics when that is zero. When the used size is not negative the size
ceiling the loop starts from is never zero, so the loop stops at the largest
of 4096, 1024, 256, 64, 16, 4, 1 that fits the ceiling, and never at zero:

* `shrinkBlockSize_greatest`: from any of those sizes, the loop stops at the
  largest one that fits a non-zero ceiling;
* `effectiveQuota_quotaSize_ne_zero`: the ceiling is never zero;
* `block_size_largest_fit`: the two together, so `getStatVFSFromQuotaResult`
  returns statistics with that block size and does not panic.

The free counts are another matter. The clamp to the backend's total can
lower the ceiling below the used size, and the `uint64` subtraction then
wraps: `getStatVFSFromQuotaResult_bfree_wraps` runs one such case, on its own
and behind `StatVFS`. What does hold:

* `getStatVFSFromQuotaResult_free_le`: when the backend's totals, read as
  `int64`, cover the used counters, no free count exceeds its total, and with
  a configured size ceiling and a non-zero disk total the free blocks fit
  under the ceiling minus the used size.
-/

namespace SftpGo

/-! ### The block-size loop -/

/-- The block sizes the loop can stop at from 4096, largest first. -/
def blockSizes : List (BitVec 64) := [4096, 1024, 256, 64, 16, 4, 1]

theorem mem_blockSizes {b : BitVec 64} (hb : b ∈ blockSizes) :
    b = 4096 ∨ b = 1024 ∨ b = 256 ∨ b = 64 ∨ b = 16 ∨ b = 4 ∨ b = 1 := by
  simpa only [blockSizes, List.mem_cons, List.mem_singleton, List.not_mem_nil, or_false] using hb

/-! The facts below are checked size by size. -/

theorem blockSizes_div_four : ∀ b ∈ blockSizes, b ≠ 1 → b / 4 ∈ blockSizes := by
  intro b hb
  rcases mem_blockSizes hb with rfl | rfl | rfl | rfl | rfl | rfl | rfl <;> decide

theorem blockSizes_lt : ∀ b ∈ blockSizes, ∀ b' ∈ blockSizes, b' < b → b' ≤ b / 4 := by
  intro b hb b' hb'
  rcases mem_blockSizes hb with rfl | rfl | rfl | rfl | rfl | rfl | rfl <;>
    rcases mem_blockSizes hb' with rfl | rfl | rfl | rfl | rfl | rfl | rfl <;> decide

theorem blockSizes_bounds : ∀ b ∈ blockSizes, 1 ≤ b ∧ b ≤ 4096 := by
  intro b hb
  rcases mem_blockSizes hb with rfl | rfl | rfl | rfl | rfl | rfl | rfl <;> decide

/-- From a size in `blockSizes`, the loop stops at the largest size in
`blockSizes` that fits a non-zero ceiling, among those not above where it
started. -/
theorem shrinkBlockSize_greatest {quotaSize : BitVec 64} (hq : quotaSize ≠ 0) {bsize : BitVec 64}
    (hb : bsize ∈ blockSizes) :
    shrinkBlockSize quotaSize bsize ∈ blockSizes ∧ shrinkBlockSize quotaSize bsize ≤ quotaSize ∧
      ∀ b ∈ blockSizes, b ≤ bsize → b ≤ quotaSize → b ≤ shrinkBlockSize quotaSize bsize := by
  induction bsize using shrinkBlockSize.induct quotaSize with
  | case1 bsize hlt ih =>
    have h1 : bsize ≠ 1 := by rintro rfl; exact hq (by bv_omega)
    obtain ⟨hm, hle, hmax⟩ := ih (blockSizes_div_four bsize hb h1)
    rw [shrinkBlockSize_of_lt hlt]
    exact ⟨hm, hle, fun b hb' hbb hbq =>
      hmax b hb' (blockSizes_lt bsize hb b hb' (by bv_omega)) hbq⟩
  | case2 bsize hle =>
    rw [shrinkBlockSize_of_le hle]
    exact ⟨hb, by bv_omega, fun b _ hbb _ => hbb⟩

/-! ### The ceiling before the loop -/

/-- The headroom leaves no ceiling at zero when the used size is not
negative: 8 TiB over a used size below `2^63` does not wrap. -/
theorem withHeadroom_quotaSize_ne_zero {quotaResult : QuotaCheckResult}
    (hused : 0 ≤ quotaResult.usedSize.toInt) : (withHeadroom quotaResult).quotaSize ≠ 0 := by
  rw [withHeadroom_quotaSize]
  split
  · rw [BitVec.toInt_eq_toNat_cond] at hused
    split at hused
    · bv_omega
    · omega
  · assumption

/-- The ceiling `getStatVFSFromQuotaResult` starts its loop from is never
zero when the used size is not negative, whatever the backend answers. -/
theorem effectiveQuota_quotaSize_ne_zero {disk : Except FsError StatVFS}
    {quotaResult q : QuotaCheckResult} (hused : 0 ≤ quotaResult.usedSize.toInt)
    (hq : effectiveQuota disk quotaResult = .ok q) : q.quotaSize ≠ 0 := by
  rcases effectiveQuota_cases hq with ⟨s, -, h⟩ | ⟨-, h⟩ <;> rw [h]
  · exact withHeadroom_quotaSize_ne_zero (by rwa [clampToDisk_usedSize])
  · exact withHeadroom_quotaSize_ne_zero hused

/-- **The block-size loop never yields zero.** When the used size is not
negative, whatever the backend answers, the ceiling is not zero and the block
size is the largest of 4096, 1024, 256, 64, 16, 4, 1 that fits it, so at
least 1: no division by it panics, and `getStatVFSFromQuotaResult` returns
the statistics with that block size on every backend that answers so. -/
theorem block_size_largest_fit (disk : Except FsError StatVFS) (quotaResult : QuotaCheckResult)
    (hused : 0 ≤ quotaResult.usedSize.toInt) {q : QuotaCheckResult}
    (hq : effectiveQuota disk quotaResult = .ok q) :
    q.quotaSize ≠ 0 ∧ ∃ s, statVFSOfQuota q = some s ∧
      s.bsize ∈ blockSizes ∧ s.bsize ≤ q.quotaSize ∧
      (∀ b ∈ blockSizes, b ≤ q.quotaSize → b ≤ s.bsize) ∧ 1 ≤ s.bsize ∧
      ∀ {σ : Type} (fs : Fs σ) (name : String) (w : World σ),
        fs.getAvailableDiskSize w.backend name = disk →
          (getStatVFSFromQuotaResult fs name quotaResult w).result = .ok s := by
  have hne := effectiveQuota_quotaSize_ne_zero hused hq
  obtain ⟨hm, hle, hmax⟩ :=
    shrinkBlockSize_greatest hne (show (4096 : BitVec 64) ∈ blockSizes by decide)
  have hone := (blockSizes_bounds _ hm).1
  have hs := statVFSOfQuota_of_ne_zero (fun h0 => by rw [h0] at hone; exact absurd hone (by decide))
  exact ⟨hne, _, hs, hm, hle, fun b hb hbq => hmax b hb (blockSizes_bounds b hb).2 hbq, hone,
    fun _ _ _ hd => getStatVFSFromQuotaResult_of_some (hd ▸ hq) hs⟩

/-- No ceiling and 100 bytes used, on a backend that cannot say how big it is:
the ceiling becomes 8 TiB over the used size, and the block size 4096. -/
theorem block_size_largest_fit_headroom :
    0 ≤ (⟨true, 100, 0, 0, 0⟩ : QuotaCheckResult).usedSize.toInt ∧
    effectiveQuota (.error .storageSizeUnavailable) ⟨true, 100, 0, 0, 0⟩ =
      .ok ⟨true, 100, 0, 8796093022308, 1000000⟩ ∧
    ((⟨true, 100, 0, 8796093022308, 1000000⟩ : QuotaCheckResult).quotaSize ≠ 0 ∧
      ∃ s, statVFSOfQuota ⟨true, 100, 0, 8796093022308, 1000000⟩ = some s ∧
        s.bsize ∈ blockSizes ∧ s.bsize ≤ 8796093022308 ∧
        (∀ b ∈ blockSizes, b ≤ 8796093022308 → b ≤ s.bsize) ∧ 1 ≤ s.bsize ∧
        ∀ {σ : Type} (fs : Fs σ) (name : String) (w : World σ),
          fs.getAvailableDiskSize w.backend name = .error .storageSizeUnavailable →
            (getStatVFSFromQuotaResult fs name ⟨true, 100, 0, 0, 0⟩ w).result = .ok s) :=
  ⟨by decide, rfl, block_size_largest_fit (.error .storageSizeUnavailable) ⟨true, 100, 0, 0, 0⟩
    (by decide) rfl⟩

/-! ### Free counts -/

/-- A backend whose disk holds 50 bytes and 10 files. -/
def smallDiskFs : Fs MemState :=
  { memFs with getAvailableDiskSize := fun _ _ => .ok ⟨1, 1, 50, 50, 50, 10, 10, 10, 255⟩ }

/-- A connection to `smallDiskFs` whose quota check finds space, 100 bytes
used, no size ceiling and a ceiling of 10 files. -/
def smallDiskConn : Connection MemState :=
  { Connection.plain (User.unrestricted "alice") smallDiskFs false with
    hasSpace := fun _ _ _ => (⟨true, 100, 0, 0, 10⟩, ⟨true, true⟩) }

/-- A `statvfs` request for `/`. -/
def statRoot : Request :=
  Request.ofFlags "StatVFS" "/" ⟨false, false, false, false, false, false⟩

/-- No size ceiling and 100 bytes used, on a backend whose disk holds 50
bytes: the clamp lowers the ceiling to 50, below the used size, so the block
size is 16, there are 3 blocks, and `uint64(50 - 100) / 16` free ones. The
same statistics come out of `StatVFS` for a user with a ceiling of 10 files,
which sends the request to `getStatVFSFromQuotaResult` with one answer of the
backend. -/
theorem getStatVFSFromQuotaResult_bfree_wraps :
    (getStatVFSFromQuotaResult smallDiskFs "/" ⟨true, 100, 0, 0, 0⟩ ⟨[], [], 0⟩).result =
      .ok ⟨16, 16, 3, 1152921504606846972, 1152921504606846972, 10, 10, 10, 255⟩ ∧
    (smallDiskConn.statVFS statRoot ⟨[], [], 0⟩).result =
      .ok ⟨16, 16, 3, 1152921504606846972, 1152921504606846972, 10, 10, 10, 255⟩ := by
  have hb : shrinkBlockSize 50 4096 = 16 := by
    rw [shrinkBlockSize_of_lt (by decide), shrinkBlockSize_of_lt (by decide),
      shrinkBlockSize_of_lt (by decide), shrinkBlockSize_of_lt (by decide),
      shrinkBlockSize_of_le (by decide)]
    decide
  have hs : statVFSOfQuota ⟨true, 100, 0, 50, 10⟩ =
      some ⟨16, 16, 3, 1152921504606846972, 1152921504606846972, 10, 10, 10, 255⟩ := by
    rw [statVFSOfQuota_of_ne_zero (by rw [hb]; decide), hb]
    exact congrArg some (by decide)
  have hconn : smallDiskConn.statVFS statRoot ⟨[], [], 0⟩ =
      getStatVFSFromQuotaResult smallDiskFs "/" ⟨true, 100, 0, 0, 10⟩ ⟨[], [], 1⟩ := by
    simp only [Connection.statVFS, smallDiskConn, Connection.plain, Bool.not_true,
      Bool.false_eq_true, if_false, decide_True, Bool.true_and, decide_eq_true_eq]
    rw [if_neg (by decide)]
    rfl
  rw [hconn]
  exact ⟨getStatVFSFromQuotaResult_of_some rfl hs, getStatVFSFromQuotaResult_of_some rfl hs⟩

/-- The clamp and the headroom keep the quota check's verdict. -/
theorem effectiveQuota_hasSpace {disk : Except FsError StatVFS} {quotaResult q : QuotaCheckResult}
    (hq : effectiveQuota disk quotaResult = .ok q) : q.hasSpace = quotaResult.hasSpace := by
  rcases effectiveQuota_cases hq with ⟨s, -, h⟩ | ⟨-, h⟩ <;> rw [h] <;> simp

/-- With no space, the free counts are forced to zero. -/
theorem statVFSWithBlockSize_no_space {q : QuotaCheckResult} (h : q.hasSpace = false)
    (bsize : BitVec 64) :
    (statVFSWithBlockSize q bsize).bfree = 0 ∧ (statVFSWithBlockSize q bsize).bavail = 0 ∧
      (statVFSWithBlockSize q bsize).ffree = 0 ∧ (statVFSWithBlockSize q bsize).favail = 0 := by
  simp [statVFSWithBlockSize, h]

/-! ### When the backend's totals cover the used counters

The clamp is harmless when the backend's totals, read as `int64` as the clamp
reads them, are at least the used counters: every ceiling then covers its
used counter, and nothing wraps. -/

/-- An `int64` comparison of a non-negative value is the `uint64` one. -/
theorem le_of_toInt_le {x y : BitVec 64} (hx : 0 ≤ x.toInt) (h : x.toInt ≤ y.toInt) : x ≤ y := by
  rw [BitVec.le_def]
  rw [BitVec.toInt_eq_toNat_cond, BitVec.toInt_eq_toNat_cond] at *
  split at h <;> split at h <;> omega

/-- Non-negative `int64` headroom over a non-negative `int64` does not wrap. -/
theorem le_add_of_toInt_nonneg {x k : BitVec 64} (hx : 0 ≤ x.toInt) (hk : 0 ≤ k.toInt) :
    x ≤ x + k := by
  rw [BitVec.toInt_eq_toNat_cond] at hx hk
  rw [BitVec.le_def, BitVec.toNat_add]
  split at hx <;> split at hk <;> omega

/-- Each ceiling of a quota result that finds space is unset or covers its
used counter. -/
def QuotaCheckResult.CoversUsed (q : QuotaCheckResult) : Prop :=
  q.hasSpace = true → (q.quotaSize = 0 ∨ q.usedSize ≤ q.quotaSize) ∧
    (q.quotaFiles = 0 ∨ q.usedFiles ≤ q.quotaFiles)

/-- The clamp of one ceiling to a backend total that covers the used counter
covers it, when the ceiling did or was unset. -/
theorem covers_clamp {used ceiling total : BitVec 64} (hu : 0 ≤ used.toInt)
    (ht : used.toInt ≤ total.toInt) (hc : ceiling = 0 ∨ used ≤ ceiling) :
    used ≤ if ceiling = 0 || total.slt ceiling then total else ceiling := by
  split
  · exact le_of_toInt_le hu ht
  · simp_all

/-- The headroom over an unset ceiling covers the used counter. -/
theorem covers_headroom {used ceiling k : BitVec 64} (hu : 0 ≤ used.toInt)
    (hk : 0 ≤ k.toInt) (hc : ceiling = 0 ∨ used ≤ ceiling) :
    used ≤ if ceiling = 0 then used + k else ceiling := by
  split
  · exact le_add_of_toInt_nonneg hu hk
  · simp_all

theorem clampToDisk_covers {s : StatVFS} {q : QuotaCheckResult} (hU : 0 ≤ q.usedSize.toInt)
    (hUF : 0 ≤ q.usedFiles.toInt) (hT : q.usedSize.toInt ≤ s.totalSpace.toInt)
    (hF : q.usedFiles.toInt ≤ s.files.toInt) (hcov : q.CoversUsed) :
    (clampToDisk s q).CoversUsed := by
  intro hs
  rw [clampToDisk_hasSpace] at hs
  rw [clampToDisk_usedSize, clampToDisk_usedFiles, clampToDisk_quotaSize, clampToDisk_quotaFiles]
  exact ⟨.inr (covers_clamp hU hT (hcov hs).1), .inr (covers_clamp hUF hF (hcov hs).2)⟩

/-- After the headroom no ceiling is unset. -/
theorem withHeadroom_covers {q : QuotaCheckResult} (hU : 0 ≤ q.usedSize.toInt)
    (hUF : 0 ≤ q.usedFiles.toInt) (hcov : q.CoversUsed) :
    (withHeadroom q).hasSpace = true →
      (withHeadroom q).usedSize ≤ (withHeadroom q).quotaSize ∧
        (withHeadroom q).usedFiles ≤ (withHeadroom q).quotaFiles := by
  rw [withHeadroom_hasSpace, withHeadroom_usedSize, withHeadroom_usedFiles,
    withHeadroom_quotaSize, withHeadroom_quotaFiles]
  intro hs
  exact ⟨covers_headroom hU (by decide) (hcov hs).1, covers_headroom hUF (by decide) (hcov hs).2⟩

theorem effectiveQuota_usedSize {disk : Except FsError StatVFS} {quotaResult q : QuotaCheckResult}
    (hq : effectiveQuota disk quotaResult = .ok q) : q.usedSize = quotaResult.usedSize := by
  rcases effectiveQuota_cases hq with ⟨s, -, h⟩ | ⟨-, h⟩ <;> rw [h] <;> simp

/-- When the backend's totals cover the used counters, the ceilings the
divisions start from cover them too. -/
theorem effectiveQuota_covers {disk : Except FsError StatVFS} {quotaResult q : QuotaCheckResult}
    (hU : 0 ≤ quotaResult.usedSize.toInt) (hUF : 0 ≤ quotaResult.usedFiles.toInt)
    (hcov : quotaResult.CoversUsed)
    (hdisk : ∀ d, disk = .ok d → quotaResult.usedSize.toInt ≤ d.totalSpace.toInt ∧
      quotaResult.usedFiles.toInt ≤ d.files.toInt)
    (hq : effectiveQuota disk quotaResult = .ok q) :
    q.hasSpace = true → q.usedSize ≤ q.quotaSize ∧ q.usedFiles ≤ q.quotaFiles := by
  rcases effectiveQuota_cases hq with ⟨s, hs, h⟩ | ⟨-, h⟩ <;> rw [h]
  · obtain ⟨hT, hF⟩ := hdisk s hs
    exact withHeadroom_covers (by rwa [clampToDisk_usedSize]) (by rwa [clampToDisk_usedFiles])
      (clampToDisk_covers hU hUF hT hF hcov)
  · exact withHeadroom_covers hU hUF hcov

/-- A configured size ceiling is not raised when the backend reports a
non-zero total that covers the used size. -/
theorem effectiveQuota_quotaSize_le {disk : Except FsError StatVFS}
    {quotaResult q : QuotaCheckResult} (hU : 0 ≤ quotaResult.usedSize.toInt)
    (hQ : quotaResult.quotaSize ≠ 0)
    (hdisk : ∀ d, disk = .ok d → quotaResult.usedSize.toInt ≤ d.totalSpace.toInt ∧
      d.totalSpace ≠ 0)
    (hq : effectiveQuota disk quotaResult = .ok q) : q.quotaSize ≤ quotaResult.quotaSize := by
  rcases effectiveQuota_cases hq with ⟨s, hs, h⟩ | ⟨-, h⟩ <;> rw [h]
  · obtain ⟨hT, hT0⟩ := hdisk s hs
    rw [withHeadroom_quotaSize, clampToDisk_quotaSize]
    by_cases hlt : s.totalSpace.slt quotaResult.quotaSize
    · simp only [hlt, Bool.or_true, if_true, hT0, if_false]
      exact le_of_toInt_le (Int.le_trans hU hT) (Int.le_of_lt (by simpa [BitVec.slt] using hlt))
    · simp only [hlt, hQ, decide_False, Bool.or_false, Bool.false_eq_true, if_false]
      exact BitVec.le_refl _
  · rw [withHeadroom_quotaSize, if_neg hQ]
    exact BitVec.le_refl _

/-- Free counts never exceed totals when the ceilings cover the used
counters, and free blocks fit in the room under the size ceiling. -/
theorem statVFSWithBlockSize_free_le {q : QuotaCheckResult} (bsize : BitVec 64)
    (hcov : q.hasSpace = true → q.usedSize ≤ q.quotaSize ∧ q.usedFiles ≤ q.quotaFiles) :
    let s := statVFSWithBlockSize q bsize
    s.bavail = s.bfree ∧ s.bfree ≤ s.blocks ∧ s.bfree * s.bsize ≤ q.quotaSize - q.usedSize ∧
      s.favail = s.ffree ∧ s.ffree ≤ s.files := by
  intro s
  cases hs : q.hasSpace
  · refine ⟨rfl, ?_, ?_, rfl, ?_⟩ <;> simp [s, statVFSWithBlockSize, hs, BitVec.le_def]
  obtain ⟨hu, hf⟩ := hcov hs
  refine ⟨rfl, ?_, ?_, rfl, ?_⟩ <;>
    simp only [s, statVFSWithBlockSize, hs, Bool.not_true, Bool.false_eq_true, if_false,
      BitVec.le_def, BitVec.toNat_udiv, BitVec.toNat_mul]
  · exact Nat.div_le_div_right (by bv_omega)
  · have hsub : (q.quotaSize - q.usedSize).toNat < 2 ^ 64 := BitVec.isLt _
    rw [Nat.mod_eq_of_lt (lt_of_le_of_lt (Nat.div_mul_le_self _ _) hsub)]
    exact Nat.div_mul_le_self _ _
  · bv_omega

/-- **Free counts within the ceilings.** Under the quota check's own
guarantees, and when the backend's totals, read as `int64` as the clamp reads
them, cover the used counters, the statistics report no more free blocks than
blocks and no more free files than files; and when a size ceiling is
configured and the backend reports a non-zero total, the free blocks fit under
the ceiling minus the used size. -/
theorem getStatVFSFromQuotaResult_free_le {σ : Type} (fs : Fs σ) (name : String)
    (quotaResult : QuotaCheckResult) (w : World σ) (hU : 0 ≤ quotaResult.usedSize.toInt)
    (hUF : 0 ≤ quotaResult.usedFiles.toInt)
    (hspace : quotaResult.hasSpace = true →
      (quotaResult.quotaSize = 0 ∨ quotaResult.usedSize.toInt < quotaResult.quotaSize.toInt) ∧
      (quotaResult.quotaFiles = 0 ∨ quotaResult.usedFiles.toInt < quotaResult.quotaFiles.toInt))
    (hdisk : ∀ d, fs.getAvailableDiskSize w.backend name = .ok d →
      quotaResult.usedSize.toInt ≤ d.totalSpace.toInt ∧
        quotaResult.usedFiles.toInt ≤ d.files.toInt)
    {s : StatVFS} (hs : (getStatVFSFromQuotaResult fs name quotaResult w).result = .ok s) :
    s.bavail = s.bfree ∧ s.bfree ≤ s.blocks ∧ s.favail = s.ffree ∧ s.ffree ≤ s.files ∧
      (quotaResult.quotaSize ≠ 0 →
        (∀ d, fs.getAvailableDiskSize w.backend name = .ok d → d.totalSpace ≠ 0) →
        s.bfree * s.bsize ≤ quotaResult.quotaSize - quotaResult.usedSize) := by
  obtain ⟨q, heq, hq⟩ := getStatVFSFromQuotaResult_ok hs
  rw [eq_of_statVFSOfQuota hq]
  have hcov : quotaResult.CoversUsed := fun h =>
    ⟨(hspace h).1.imp_right (le_of_toInt_le hU ∘ Int.le_of_lt),
      (hspace h).2.imp_right (le_of_toInt_le hUF ∘ Int.le_of_lt)⟩
  obtain ⟨hav, hbl, hroom, hfv, hfl⟩ :=
    statVFSWithBlockSize_free_le _ (effectiveQuota_covers hU hUF hcov hdisk heq)
  refine ⟨hav, hbl, hfv, hfl, fun hQ hT => ?_⟩
  cases hh : quotaResult.hasSpace
  · rw [(statVFSWithBlockSize_no_space (by rw [effectiveQuota_hasSpace heq, hh]) _).1]
    bv_omega
  · have hle := effectiveQuota_quotaSize_le hU hQ (fun d hd => ⟨(hdisk d hd).1, hT d hd⟩) heq
    have hcq :=
      effectiveQuota_covers hU hUF hcov hdisk heq (by rw [effectiveQuota_hasSpace heq, hh])
    rw [effectiveQuota_usedSize heq] at hroom hcq
    -- the room under the effective ceiling is at most the room under the configured one
    exact BitVec.le_trans hroom (by bv_omega)

/-- A backend with 1000 bytes and 10 files, and a quota check that finds 100
of 500 bytes used and no file ceiling. -/
def sizedFs : Fs MemState :=
  { memFs with getAvailableDiskSize := fun _ _ => .ok ⟨1, 1, 1000, 1000, 1000, 10, 10, 10, 255⟩ }

/-- The ceiling stays at 500 and the disk covers the 100 bytes used: the
statistics keep their free blocks within the 400 bytes left. -/
theorem getStatVFSFromQuotaResult_free_le_sized :
    ∃ s, (getStatVFSFromQuotaResult sizedFs "/" ⟨true, 100, 0, 500, 0⟩ ⟨[], [], 0⟩).result =
        .ok s ∧
      s.bavail = s.bfree ∧ s.bfree ≤ s.blocks ∧ s.favail = s.ffree ∧ s.ffree ≤ s.files ∧
      s.bfree * s.bsize ≤ 500 - 100 := by
  have hb : shrinkBlockSize 500 4096 = 256 := by
    rw [shrinkBlockSize_of_lt (by decide), shrinkBlockSize_of_lt (by decide),
      shrinkBlockSize_of_le (by decide)]
    decide
  have hs : (getStatVFSFromQuotaResult sizedFs "/" ⟨true, 100, 0, 500, 0⟩ ⟨[], [], 0⟩).result
      = .ok (statVFSWithBlockSize ⟨true, 100, 0, 500, 10⟩ 256) := by
    rw [← hb]
    exact getStatVFSFromQuotaResult_of_some
      (show effectiveQuota (sizedFs.getAvailableDiskSize [] "/") ⟨true, 100, 0, 500, 0⟩ =
        .ok ⟨true, 100, 0, 500, 10⟩ from rfl) (statVFSOfQuota_of_ne_zero (by rw [hb]; decide))
  obtain ⟨hav, hbl, hfv, hfl, hroom⟩ :=
    getStatVFSFromQuotaResult_free_le sizedFs "/" ⟨true, 100, 0, 500, 0⟩ ⟨[], [], 0⟩
      (by decide) (by decide) (by decide) (fun d hd => by cases Except.ok.inj hd; decide) hs
  exact ⟨_, hs, hav, hbl, hfv, hfl,
    hroom (by decide) (fun d hd => by cases Except.ok.inj hd; decide)⟩

end SftpGo

