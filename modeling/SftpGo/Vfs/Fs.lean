import Mathlib.Logic.Basic

/-!
# The storage backend contract

The handlers never see a storage backend's implementation: they reach it
through `vfs.Fs`, a capability interface. `Fs σ` is that interface over a
backend state `σ`, which the handlers never inspect. Each call reads the state;
a call that changes it (`create`, `rename`, `setPathPermissions`) returns the
new state with its answer, so a failing call returns no state and changes
nothing. Every theorem about the handlers is stated for an arbitrary `Fs σ`:
for every backend behaviour and every backend state.

The module also holds the values that cross the interface: backend errors
(`FsError`, with `vfs.ErrStorageSizeUnavailable` singled out because the
code compares against it), `os.FileInfo`, `sftp.StatVFS`, and
`vfs.QuotaCheckResult`.

Go's `int`, `int64` and `uint64` are all `BitVec 64`: conversions between them
keep the bits, comparisons say whether they are signed (`BitVec.slt`) or
unsigned (`<`), and arithmetic wraps.
-/

namespace SftpGo

/-- An error a backend call returns. `storageSizeUnavailable` is
`vfs.ErrStorageSizeUnavailable`; any other backend error is `other code`. -/
inductive FsError where
  | storageSizeUnavailable
  | other (code : Nat)
  deriving DecidableEq, Repr

/-- The file, reader or writer and cancel function that `Open` and `Create`
hand back, kept together as one opaque handle. -/
structure Handle where
  id : Nat
  deriving DecidableEq, Repr

/-- `os.FileInfo` as the handlers read it: `Size()`, `IsDir()`, and whether
`Mode()&os.ModeSymlink != 0`. -/
structure FileInfo where
  name : String
  size : BitVec 64
  isDir : Bool
  isSymlink : Bool
  deriving DecidableEq, Repr

/-- `sftp.StatVFS`, the answer to a `statvfs@openssh.com` request. -/
structure StatVFS where
  bsize : BitVec 64
  frsize : BitVec 64
  blocks : BitVec 64
  bfree : BitVec 64
  bavail : BitVec 64
  files : BitVec 64
  ffree : BitVec 64
  favail : BitVec 64
  namemax : BitVec 64
  deriving DecidableEq, Repr

/-- `StatVFS.TotalSpace`: fundamental block size times block count, in
`uint64`. -/
def StatVFS.totalSpace (s : StatVFS) : BitVec 64 :=
  s.frsize * s.blocks

/-- `vfs.QuotaCheckResult`: whether there is space left, and the configured
ceilings (`0` means unlimited) with the used counters. -/
structure QuotaCheckResult where
  hasSpace : Bool
  usedSize : BitVec 64
  usedFiles : BitVec 64
  quotaSize : BitVec 64
  quotaFiles : BitVec 64
  deriving DecidableEq, Repr

/-- A storage backend (`vfs.Fs`) over the backend state `σ`, with the
`vfs` helpers that probe it (`HasOpenRWSupport`, `HasTruncateSupport`,
`IsUploadResumeSupported(fs, size)`, `SetPathPermissions`). `realPath` is
`none` when the backend is not a `vfs.FsRealPather`. -/
structure Fs (σ : Type) where
  «open» : σ → String → Except FsError Handle
  create : σ → String → BitVec 64 → Nat → Except FsError (Handle × σ)
  lstat : σ → String → Except FsError FileInfo
  rename : σ → String → String → Except FsError σ
  readlink : σ → String → Except FsError String
  realPath : Option (σ → String → Except FsError String)
  getAvailableDiskSize : σ → String → Except FsError StatVFS
  setPathPermissions : σ → String → Int → Int → σ
  isNotExist : FsError → Bool
  isAtomicUploadSupported : Bool
  getAtomicUploadPath : String → String
  isUploadResumeSupported : Bool
  isUploadResumeSupportedFor : BitVec 64 → Bool
  hasOpenRWSupport : Bool
  hasTruncateSupport : Bool

/-! ### An in-memory backend -/

/-- The state of `memFs`: each existing path with what `Lstat` reports for it. -/
abbrev MemState := List (String × FileInfo)

/-- A backend that answers the handlers' calls the way the local filesystem
does, over a list of entries: `ENOENT` (`other 2`) for a missing path, `EEXIST`
(`other 17`) for an exclusive create of an existing one, and `EINVAL`
(`other 22`) for reading a link that is not one. It stages atomic uploads next
to the target, truncates on open, and has no real-path resolution and no disk
statistics. The witnesses of the handler theorems run on it. -/
def memFs : Fs MemState where
  «open» st name := match st.lookup name with
    | some _ => .ok ⟨0⟩
    | none => .error (.other 2)
  create st name flag _ := match st.lookup name with
    | some _ =>
      if flag &&& 0x80#64 ≠ 0 then .error (.other 17)
      else .ok (⟨0⟩, (name, ⟨name, 0, false, false⟩) :: st.filter (·.1 ≠ name))
    | none =>
      if flag &&& 0x40#64 ≠ 0 then .ok (⟨0⟩, (name, ⟨name, 0, false, false⟩) :: st)
      else .error (.other 2)
  lstat st name := match st.lookup name with
    | some info => .ok info
    | none => .error (.other 2)
  rename st source target := match st.lookup source with
    | some info => .ok ((target, info) :: st.filter fun e => e.1 ≠ source ∧ e.1 ≠ target)
    | none => .error (.other 2)
  readlink st name := match st.lookup name with
    | some _ => .error (.other 22)
    | none => .error (.other 2)
  realPath := none
  getAvailableDiskSize _ _ := .error .storageSizeUnavailable
  setPathPermissions st _ _ _ := st
  isNotExist err := err == .other 2
  isAtomicUploadSupported := true
  getAtomicUploadPath name := name ++ ".upload"
  isUploadResumeSupported := true
  isUploadResumeSupportedFor _ := true
  hasOpenRWSupport := true
  hasTruncateSupport := true

end SftpGo
