import SftpGo.Util.Path
import SftpGo.Vfs.Fs
import SftpGo.Vfs.Folder

/-!
# Connections, requests and what a handler leaves behind

The SFTP handlers of `handler.go` are methods of `sftpd.Connection`, which
embeds the base connection of the `common` package. The base connection is
outside this model: its checks and services (permissions, the file filter, the
quota checks, path resolution, the pre-action hooks, and the file operations
the dispatcher delegates) are fields of `Connection`, so every theorem holds
for every outcome of every external check.

A handler runs against a `World`: the backend state, the journal of quota
updates asked of the data provider, and the count of activity updates. It
returns an `Outcome`: Go's `(value, error)` pair, the world after it, and the
backend calls it made in order. Side effects stay in the world when a handler
returns an error, as they do in Go.

Errors are kept by origin: `Error.fsError e` is `c.GetFsError(fs, e)`, the
protocol error a backend error is translated to, and `Error.backend e` is a
backend error returned as it is. The `sftp.ErrSSHFx*` values the handlers
return themselves, and the errors the base connection builds for them, each
have their own constructor. Origins are not what a client sees: several of
them reach it as the same status (see `Error`), so the theorems say which
code path produced an error, never that a status means one path.

A write open hands the backend OS open flags, `getOSOpenFlags` of the
request's.
-/

namespace SftpGo

/-! ### Policy and errors -/

/-- The `dataprovider.Perm*` permissions the handlers check. -/
inductive Perm where
  | download
  | upload
  | overwrite
  | listItems
  deriving DecidableEq, Repr

/-- `sdk.DenyPolicy`: what a file-filter denial looks like to the client. -/
inductive DenyPolicy where
  | default
  | hide
  deriving DecidableEq, Repr

/-- An error the base connection returns from one of its own services (path
resolution, the maximum write size, a delegated file operation), or a hook's
veto. -/
structure ConnError where
  code : Nat
  deriving DecidableEq, Repr

/-- The errors the handlers return, by origin. A client does not see the
origin: `permissionDenied`, `osErrPermission` (which the SFTP library sends as
`sftp.ErrSSHFxPermissionDenied`, as `handleFilewrite` notes),
`permissionDeniedError`, and `fsError` of a permission error all reach it as
permission denied. -/
inductive Error where
  /-- `sftp.ErrSSHFxPermissionDenied`. -/
  | permissionDenied
  /-- `sftp.ErrSSHFxNoSuchFile`. -/
  | noSuchFile
  /-- `sftp.ErrSSHFxOpUnsupported`. -/
  | opUnsupported
  /-- `sftp.ErrSSHFxFailure`. -/
  | failure
  /-- `sftp.ErrSSHFxOk`, the success sentinel of `Filecmd`. -/
  | ok
  /-- `os.ErrPermission`. -/
  | osErrPermission
  /-- `c.GetPermissionDeniedError()`. -/
  | permissionDeniedError
  /-- `c.GetQuotaExceededError()`. -/
  | quotaExceeded
  /-- `c.GetReadQuotaExceededError()`. -/
  | readQuotaExceeded
  /-- `c.GetErrorForDeniedFile(policy)`. -/
  | deniedFile (policy : DenyPolicy)
  /-- `c.GetFsError(fs, e)`: a backend error translated to a protocol error. -/
  | fsError (e : FsError)
  /-- A backend error returned untranslated. -/
  | backend (e : FsError)
  /-- An error of the base connection, returned as it is. -/
  | connection (e : ConnError)
  /-- Go's run-time panic `integer divide by zero`. A handler that divides by
  zero does not return: the request ends in the panic, which this marks. -/
  | divideByZero
  deriving DecidableEq, Repr

/-! ### What a handler leaves behind -/

/-- A backend call, as the log records it. -/
inductive Call where
  | «open» (name : String)
  | create (name : String) (flag : BitVec 64)
  | lstat (name : String)
  | rename (source target : String)
  | readlink (name : String)
  | realPath (name : String)
  | getAvailableDiskSize (name : String)
  | setPathPermissions (name : String)
  deriving DecidableEq, Repr

/-- Whose quota a quota update is for. -/
inductive QuotaTarget where
  | folder (name : String)
  | user (username : String)
  deriving DecidableEq, Repr

/-- A quota update asked of the data provider
(`dataprovider.UpdateVirtualFolderQuota`, `dataprovider.UpdateUserQuota`):
files and bytes to add, and whether to reset first. -/
structure QuotaUpdate where
  target : QuotaTarget
  filesAdd : BitVec 64
  sizeAdd : BitVec 64
  reset : Bool
  deriving DecidableEq, Repr

/-- The world a handler runs against: the backend state, the quota updates
asked so far (oldest first), and how often the connection's last activity was
updated. -/
structure World (σ : Type) where
  backend : σ
  quota : List QuotaUpdate
  lastActivity : Nat

/-- `c.UpdateLastActivity()`. -/
def World.updateLastActivity {σ : Type} (w : World σ) : World σ :=
  { w with lastActivity := w.lastActivity + 1 }

@[simp] theorem World.updateLastActivity_backend {σ : Type} (w : World σ) :
    w.updateLastActivity.backend = w.backend := rfl

@[simp] theorem World.updateLastActivity_quota {σ : Type} (w : World σ) :
    w.updateLastActivity.quota = w.quota := rfl

/-- What a handler returns (`Except Error α` for Go's `(value, error)`), the
world after it, and the backend calls it made, in order. -/
structure Outcome (σ α : Type) where
  result : Except Error α
  world : World σ
  calls : List Call

/-- Return an error, leaving `w` and having made `calls`. -/
def Outcome.fail {σ α : Type} (w : World σ) (calls : List Call) (e : Error) : Outcome σ α :=
  ⟨.error e, w, calls⟩

/-- Return `v`, leaving `w` and having made `calls`. -/
def Outcome.ok {σ α : Type} (w : World σ) (calls : List Call) (v : α) : Outcome σ α :=
  ⟨.ok v, w, calls⟩

/-- A sub-handler's outcome, after the calls the caller made before it. -/
def Outcome.after {σ α : Type} (calls : List Call) (o : Outcome σ α) : Outcome σ α :=
  { o with calls := calls ++ o.calls }

@[simp] theorem Outcome.fail_result {σ α : Type} (w : World σ) (calls : List Call) (e : Error) :
    (Outcome.fail w calls e : Outcome σ α).result = .error e := rfl

@[simp] theorem Outcome.fail_world {σ α : Type} (w : World σ) (calls : List Call) (e : Error) :
    (Outcome.fail w calls e : Outcome σ α).world = w := rfl

@[simp] theorem Outcome.fail_calls {σ α : Type} (w : World σ) (calls : List Call) (e : Error) :
    (Outcome.fail w calls e : Outcome σ α).calls = calls := rfl

@[simp] theorem Outcome.ok_result {σ α : Type} (w : World σ) (calls : List Call) (v : α) :
    (Outcome.ok w calls v : Outcome σ α).result = .ok v := rfl

@[simp] theorem Outcome.ok_world {σ α : Type} (w : World σ) (calls : List Call) (v : α) :
    (Outcome.ok w calls v : Outcome σ α).world = w := rfl

@[simp] theorem Outcome.ok_calls {σ α : Type} (w : World σ) (calls : List Call) (v : α) :
    (Outcome.ok w calls v : Outcome σ α).calls = calls := rfl

@[simp] theorem Outcome.after_result {σ α : Type} (calls : List Call) (o : Outcome σ α) :
    (o.after calls).result = o.result := rfl

@[simp] theorem Outcome.after_world {σ α : Type} (calls : List Call) (o : Outcome σ α) :
    (o.after calls).world = o.world := rfl

@[simp] theorem Outcome.after_calls {σ α : Type} (calls : List Call) (o : Outcome σ α) :
    (o.after calls).calls = calls ++ o.calls := rfl

/-! ### Requests and transfers -/

/-- `sftp.FileOpenFlags`, the open flags of a request (`request.Pflags()`). -/
structure FileOpenFlags where
  read : Bool
  write : Bool
  append : Bool
  creat : Bool
  trunc : Bool
  excl : Bool
  deriving DecidableEq, Repr

/-- `sftp.FileAttrFlags`: which attributes a `Setstat` request carries. -/
structure FileAttrFlags where
  size : Bool
  uidGid : Bool
  permissions : Bool
  acmodtime : Bool
  deriving DecidableEq, Repr

/-- `sftp.FileStat`, the attributes of a `Setstat` request. -/
structure FileStat where
  size : BitVec 64
  mode : Nat
  uid : Nat
  gid : Nat
  atime : Nat
  mtime : Nat
  deriving DecidableEq, Repr

/-- `sftp.Request`, as the handlers read it. -/
structure Request where
  method : String
  filepath : String
  target : String
  pflags : FileOpenFlags
  attrFlags : FileAttrFlags
  attributes : FileStat
  deriving DecidableEq, Repr

/-- `common.TransferQuota`, through the two verdicts the handlers ask of it. -/
structure TransferQuota where
  hasUploadSpace : Bool
  hasDownloadSpace : Bool
  deriving DecidableEq, Repr

/-- `common.TransferUpload` and `common.TransferDownload`. -/
inductive TransferType where
  | upload
  | download
  deriving DecidableEq, Repr

/-- The transfer a successful read or write open returns: the arguments of
`common.NewBaseTransfer` and the deferred read error of `newTransfer`. -/
structure Transfer where
  handle : Handle
  fsPath : String
  effectiveFsPath : String
  requestPath : String
  transferType : TransferType
  minWriteOffset : BitVec 64
  initialSize : BitVec 64
  maxWriteSize : BitVec 64
  truncatedSize : BitVec 64
  isNewFile : Bool
  transferQuota : TransferQuota
  errForRead : Option Error
  deriving DecidableEq, Repr

/-- The `Flags` bitmask of `common.StatAttributes`, one bit per
`common.StatAttr*` constant. -/
structure StatAttrFlags where
  perms : Bool
  uidGid : Bool
  times : Bool
  size : Bool
  deriving DecidableEq, Repr

/-- `common.StatAttributes`, the attribute change `Setstat` asks for. A time
left unset is Go's zero `time.Time`, `none` here. -/
structure StatAttributes where
  flags : StatAttrFlags
  mode : Nat
  uid : Int
  gid : Int
  atime : Option Nat
  mtime : Option Nat
  size : BitVec 64
  deriving DecidableEq, Repr

/-! ### The user and the base connection -/

/-- `common.OperationPreDownload` and `common.OperationPreUpload`. -/
inductive Operation where
  | preDownload
  | preUpload
  deriving DecidableEq, Repr

/-- `dataprovider.User`, through what the handlers ask of it. -/
structure User where
  username : String
  hasPerm : Perm → String → Bool
  isFileAllowed : String → Bool × DenyPolicy
  getVirtualFolderForPath : String → Option VirtualFolder
  startDirectory : String
  uid : Int
  gid : Int

/-- `sftpd.Connection` with its base connection: the user, the session's
folder prefix, the global `common.Config.IsAtomicUploadEnabled()`, and the base
connection's services over backend state `σ`. `getMaxWriteSize` returns Go's
`(size, error)` pair; `executePreAction` is `common.ExecutePreAction` (`some`
is a veto); the operations from `listDir` on are those `Filecmd`, `Filelist`,
`Lstat` and `Remove` delegate to. Those return the backend state they leave:
the quota updates the base connection makes for a rename, a removal or a
truncating `SetStat` are outside the model, and no theorem about the quota
journal covers a `Filecmd` request. -/
structure Connection (σ : Type) where
  user : User
  folderPrefix : String
  isAtomicUploadEnabled : Bool
  getTransferQuota : TransferQuota
  hasSpace : Bool → Bool → String → QuotaCheckResult × TransferQuota
  getFsAndResolvedPath : σ → String → Except ConnError (Fs σ × String)
  getMaxWriteSize : QuotaCheckResult → Bool → BitVec 64 → Bool → BitVec 64 × Option ConnError
  executePreAction : Operation → String → String → BitVec 64 → BitVec 64 → Option ConnError
  getCreateChecks : String → Bool → Bool → Nat
  listDir : σ → String → Except ConnError (List FileInfo)
  doStat : σ → String → Nat → Bool → Except ConnError FileInfo
  rename : σ → String → String → Option ConnError × σ
  removeDir : σ → String → Option ConnError × σ
  createDir : σ → String → Bool → Option ConnError × σ
  createSymlink : σ → String → String → Option ConnError × σ
  setStat : σ → String → StatAttributes → Option ConnError × σ
  removeFile : σ → Fs σ → String → String → FileInfo → Option ConnError × σ

/-- A connection with nothing configured beyond its user and its one backend:
no quota, no hooks, no maximum write size, and every path resolved to itself
on `fs`. The delegated file operations succeed and change nothing. The
witnesses of the handler theorems run on it. -/
def Connection.plain {σ : Type} (user : User) (fs : Fs σ) (isAtomicUploadEnabled : Bool) :
    Connection σ where
  user := user
  folderPrefix := ""
  isAtomicUploadEnabled := isAtomicUploadEnabled
  getTransferQuota := ⟨true, true⟩
  hasSpace _ _ _ := (⟨true, 0, 0, 0, 0⟩, ⟨true, true⟩)
  getFsAndResolvedPath _ p := .ok (fs, p)
  getMaxWriteSize _ _ _ _ := (0, none)
  executePreAction _ _ _ _ _ := none
  getCreateChecks _ _ _ := 0
  listDir _ _ := .ok []
  doStat _ p _ _ := .ok ⟨p, 0, false, false⟩
  rename st _ _ := (none, st)
  removeDir st _ := (none, st)
  createDir st _ _ := (none, st)
  createSymlink st _ _ := (none, st)
  setStat st _ _ := (none, st)
  removeFile st _ _ _ _ := (none, st)

/-- A user with every permission on every directory and no file filter. -/
def User.unrestricted (username : String) : User where
  username := username
  hasPerm _ _ := true
  isFileAllowed _ := (true, .default)
  getVirtualFolderForPath _ := none
  startDirectory := ""
  uid := -1
  gid := -1

/-- The plain connection of `alice` over `memFs`, with atomic uploads off. -/
def plainConn : Connection MemState :=
  Connection.plain (User.unrestricted "alice") memFs false

/-- A request for `filepath` with the given method and open flags, and no
attributes. -/
def Request.ofFlags (method filepath : String) (pflags : FileOpenFlags) : Request :=
  { method, filepath, target := "", pflags, attrFlags := ⟨false, false, false, false⟩,
    attributes := ⟨0, 0, 0, 0, 0, 0⟩ }

/-- A world over `memFs` that holds the 5-byte file `/f` and the directory
`/d`, with an empty quota journal. -/
def fileWorld : World MemState :=
  ⟨[("/f", ⟨"/f", 5, false, false⟩), ("/d", ⟨"/d", 0, true, false⟩)], [], 0⟩

/-! ### Open flags -/

namespace Os

/-- `os.O_WRONLY`. -/
def oWronly : BitVec 64 := 0x1
/-- `os.O_RDWR`. -/
def oRdwr : BitVec 64 := 0x2
/-- `os.O_CREATE`. -/
def oCreate : BitVec 64 := 0x40
/-- `os.O_EXCL`. -/
def oExcl : BitVec 64 := 0x80
/-- `os.O_TRUNC`. -/
def oTrunc : BitVec 64 := 0x200
/-- `os.O_APPEND`, which `getOSOpenFlags` never sets. -/
def oAppend : BitVec 64 := 0x400

end Os

/-- `getOSOpenFlags`: the OS open flags for a request's SFTP flags. The append
flag is left out on purpose: the SFTP library writes with `WriteAt`, which
does not work with `os.O_APPEND`. -/
def getOSOpenFlags (requestFlags : FileOpenFlags) : BitVec 64 :=
  let osFlags : BitVec 64 := 0
  let osFlags :=
    if requestFlags.read && requestFlags.write then osFlags ||| Os.oRdwr
    else if requestFlags.write then osFlags ||| Os.oWronly
    else osFlags
  let osFlags := if requestFlags.creat then osFlags ||| Os.oCreate else osFlags
  let osFlags := if requestFlags.trunc then osFlags ||| Os.oTrunc else osFlags
  if requestFlags.excl then osFlags ||| Os.oExcl else osFlags

/-- `O_TRUNC` is set in the OS flags exactly when the request asks to
truncate: no other flag `getOSOpenFlags` sets has its bit. -/
@[simp] theorem getOSOpenFlags_trunc (requestFlags : FileOpenFlags) :
    (getOSOpenFlags requestFlags &&& Os.oTrunc = 0#64) ↔ requestFlags.trunc = false := by
  obtain ⟨r, w, a, c, t, e⟩ := requestFlags
  cases r <;> cases w <;> cases a <;> cases c <;> cases t <;> cases e <;> decide

/-- The resume flag the upload helpers compute from the open flags is the
negation of the request's truncate flag. -/
theorem getOSOpenFlags_isResume (requestFlags : FileOpenFlags) :
    (!decide (getOSOpenFlags requestFlags &&& Os.oTrunc ≠ 0)) = !requestFlags.trunc := by
  cases h : requestFlags.trunc <;> simp [h]

end SftpGo
