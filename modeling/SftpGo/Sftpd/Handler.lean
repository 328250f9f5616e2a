import SftpGo.Sftpd.Connection

/-!
# The read side of the dispatcher

The handlers of `handler.go` that open files for reading, read links, resolve
and stat paths, list directories and run file commands. Each is written as the
source runs it, one early return per Go `return`, so a reader can hold the two
side by side:

* `fileread` checks the download permission on the parent directory, the
  download transfer quota, the file filter and the pre-download hook before it
  opens the file;
* `readlink` checks the link with `canReadLink`, reads it, and checks the
  target again, so a target the filter hides is reported as missing;
* `realPath` checks the list permission on the parent of the path the client
  sent, then normalises the path and lets the backend resolve it if it can;
* `lstat`, `filelist` and `filecmd` check what they check and delegate to the
  base connection; `filelist` adds the `.` and `..` entries of a listing;
* `handleSFTPRemove` refuses a plain directory, and `handleSFTPSetstat`
  translates the request's attribute flags.

`realPath_fixed` says that an answer `RealPath` gives without the backend is
its own answer.

A backend error goes through `c.GetFsError`, `Error.fsError` here, on every
path of this module.
-/

namespace SftpGo

namespace Connection

variable {σ : Type} (c : Connection σ)

/-- `Fileread`: open `request.Filepath` for reading. -/
def fileread (request : Request) (w : World σ) : Outcome σ Transfer :=
  let w := w.updateLastActivity
  if !c.user.hasPerm .download (GoPath.dir request.filepath) then .fail w [] .permissionDenied else
  let transferQuota := c.getTransferQuota
  if !transferQuota.hasDownloadSpace then .fail w [] .readQuotaExceeded else
  match c.user.isFileAllowed request.filepath with
  | (false, policy) => .fail w [] (.deniedFile policy)
  | (true, _) =>
  match c.getFsAndResolvedPath w.backend request.filepath with
  | .error err => .fail w [] (.connection err)
  | .ok (fs, p) =>
  match c.executePreAction .preDownload p request.filepath 0 0 with
  | some _ => .fail w [] .permissionDeniedError
  | none =>
  match fs.open w.backend p with
  | .error err => .fail w [.open p] (.fsError err)
  | .ok file =>
    .ok w [.open p]
      { handle := file, fsPath := p, effectiveFsPath := p, requestPath := request.filepath,
        transferType := .download, minWriteOffset := 0, initialSize := 0, maxWriteSize := 0,
        truncatedSize := 0, isNewFile := false, transferQuota, errForRead := none }

/-- `canReadLink`: the list permission on the parent directory, and the file
filter. Only a denial with the hide policy is refused, as a missing file. -/
def canReadLink (name : String) : Option Error :=
  if !c.user.hasPerm .listItems (GoPath.dir name) then some .permissionDenied else
  match c.user.isFileAllowed name with
  | (false, .hide) => some .noSuchFile
  | _ => none

/-- `Readlink`: the target of the link at `filePath`, if both the link and
its target pass `canReadLink`. -/
def readlink (filePath : String) (w : World σ) : Outcome σ String :=
  match c.canReadLink filePath with
  | some err => .fail w [] err
  | none =>
  match c.getFsAndResolvedPath w.backend filePath with
  | .error err => .fail w [] (.connection err)
  | .ok (fs, p) =>
  match fs.readlink w.backend p with
  | .error err => .fail w [.readlink p] (.fsError err)
  | .ok s =>
  match c.canReadLink s with
  | some err => .fail w [.readlink p] err
  | none => .ok w [.readlink p] s

/-- `Lstat`: stat `request.Filepath` without following a final link. -/
def lstat (request : Request) (w : World σ) : Outcome σ (List FileInfo) :=
  let w := w.updateLastActivity
  if !c.user.hasPerm .listItems (GoPath.dir request.filepath) then .fail w [] .permissionDenied else
  match c.doStat w.backend request.filepath 1 true with
  | .error err => .fail w [] (.connection err)
  | .ok s => .ok w [] [s]

/-- `RealPath`: the list permission is checked on the parent of `p` as sent;
then `p` is normalised against the root or the user's start directory, and
resolved by the backend when it is a `vfs.FsRealPather`. -/
def realPath (p : String) (w : World σ) : Outcome σ String :=
  if !c.user.hasPerm .listItems (GoPath.dir p) then .fail w [] .permissionDenied else
  let p :=
    if c.user.startDirectory = "" then Util.cleanPath p
    else Util.cleanPathWithBase c.user.startDirectory p
  match c.getFsAndResolvedPath w.backend p with
  | .error err => .fail w [] (.connection err)
  | .ok (fs, fsPath) =>
  match fs.realPath with
  | some realPather =>
    match realPather w.backend fsPath with
    | .error err => .fail w [.realPath fsPath] (.fsError err)
    | .ok resolved => .ok w [.realPath fsPath] resolved
  | none => .ok w [] p

/-- `vfs.NewFileInfo(name, true, 0, time.Unix(0, 0), false)`: the synthetic
directory entries of a listing. -/
def dirEntry (name : String) : FileInfo :=
  ⟨name, 0, true, false⟩

/-- `Filelist`: `List` prepends `.` always and `..` unless the listing is of
the session's root; `Stat` checks the list permission on the parent. -/
def filelist (request : Request) (w : World σ) : Outcome σ (List FileInfo) :=
  let w := w.updateLastActivity
  match request.method with
  | "List" =>
    match c.listDir w.backend request.filepath with
    | .error err => .fail w [] (.connection err)
    | .ok files =>
      let files :=
        if request.filepath ≠ "/" ∨ c.folderPrefix ≠ "" then dirEntry ".." :: files else files
      .ok w [] (dirEntry "." :: files)
  | "Stat" =>
    if !c.user.hasPerm .listItems (GoPath.dir request.filepath) then
      .fail w [] .permissionDenied else
    match c.doStat w.backend request.filepath 0 true with
    | .error err => .fail w [] (.connection err)
    | .ok s => .ok w [] [s]
  | _ => .fail w [] .opUnsupported

/-- The outcome of a file operation delegated to the base connection, which
returns its error and changes the backend state. -/
def delegated (w : World σ) (r : Option ConnError × σ) : Outcome σ Unit :=
  ⟨match r.1 with
    | some err => .error (.connection err)
    | none => .ok (),
   { w with backend := r.2 }, []⟩

/-- A delegated operation whose success `Filecmd` reports as
`sftp.ErrSSHFxOk`. -/
def delegatedOk (w : World σ) (r : Option ConnError × σ) : Outcome σ Unit :=
  ⟨.error (match r.1 with
    | some err => .connection err
    | none => .ok),
   { w with backend := r.2 }, []⟩

/-- `handleSFTPSetstat`: the attributes the request carries, with a flag for
each. -/
def handleSFTPSetstat (request : Request) (w : World σ) : Outcome σ Unit :=
  let f := request.attrFlags
  let a := request.attributes
  let attrs : StatAttributes :=
    { flags := ⟨f.permissions, f.uidGid, f.acmodtime, f.size⟩,
      mode := if f.permissions then a.mode else 0,
      uid := if f.uidGid then a.uid else 0,
      gid := if f.uidGid then a.gid else 0,
      atime := if f.acmodtime then some a.atime else none,
      mtime := if f.acmodtime then some a.mtime else none,
      size := if f.size then a.size else 0 }
  delegated w (c.setStat w.backend request.filepath attrs)

/-- `handleSFTPRemove`: remove a file or a link; a plain directory is
refused. -/
def handleSFTPRemove (request : Request) (w : World σ) : Outcome σ Unit :=
  match c.getFsAndResolvedPath w.backend request.filepath with
  | .error err => .fail w [] (.connection err)
  | .ok (fs, fsPath) =>
  match fs.lstat w.backend fsPath with
  | .error err => .fail w [.lstat fsPath] (.fsError err)
  | .ok fi =>
    if fi.isDir && !fi.isSymlink then .fail w [.lstat fsPath] .failure else
    (delegated w (c.removeFile w.backend fs fsPath request.filepath fi)).after [.lstat fsPath]

/-- `Filecmd`: the file commands other than reads and writes. -/
def filecmd (request : Request) (w : World σ) : Outcome σ Unit :=
  let w := w.updateLastActivity
  match request.method with
  | "Setstat" => c.handleSFTPSetstat request w
  | "Rename" => delegatedOk w (c.rename w.backend request.filepath request.target)
  | "Rmdir" => delegated w (c.removeDir w.backend request.filepath)
  | "Mkdir" => delegatedOk w (c.createDir w.backend request.filepath true)
  | "Symlink" => delegatedOk w (c.createSymlink w.backend request.filepath request.target)
  | "Remove" => c.handleSFTPRemove request w
  | _ => .fail w [] .opUnsupported

/-! ### `RealPath` answers are fixed points -/

/-- The path `RealPath` normalises `p` to: against the root, or against the
user's start directory. -/
def normalizedPath (p : String) : String :=
  if c.user.startDirectory = "" then Util.cleanPath p
  else Util.cleanPathWithBase c.user.startDirectory p

/-- With the start directory unset or rooted, normalising is idempotent. -/
theorem normalizedPath_normalizedPath
    (hbase : c.user.startDirectory = "" ∨ GoPath.isAbs c.user.startDirectory = true) (p : String) :
    c.normalizedPath (c.normalizedPath p) = c.normalizedPath p := by
  unfold normalizedPath
  by_cases hsd : c.user.startDirectory = ""
  · simp only [hsd, if_true]
    exact Util.cleanPathWithBase_cleanPathWithBase (by decide) p
  · simp only [hsd, if_false]
    exact Util.cleanPathWithBase_cleanPathWithBase (hbase.resolve_left hsd) p

/-- **An answer `RealPath` gives without the backend is a fixed point.** When
the user's start directory is unset or rooted, and `RealPath` answered `q`
with no backend call (the backend cannot resolve paths itself), asking again
about `q` gives `q` back, with no backend call, as long as the user may list
the parent of `q`. -/
theorem realPath_fixed (p : String) (w : World σ) {q : String}
    (hbase : c.user.startDirectory = "" ∨ GoPath.isAbs c.user.startDirectory = true)
    (hq : (c.realPath p w).result = .ok q) (hcalls : (c.realPath p w).calls = [])
    (hperm : c.user.hasPerm .listItems (GoPath.dir q) = true) :
    (c.realPath q w).result = .ok q ∧ (c.realPath q w).calls = [] := by
  have hnorm := c.normalizedPath_normalizedPath hbase p
  cases hp : c.user.hasPerm .listItems (GoPath.dir p)
  · simp [realPath, hp] at hq
  simp only [realPath, hp, hperm, Bool.not_true, Bool.false_eq_true, if_false] at hq hcalls ⊢
  simp only [normalizedPath] at hnorm
  generalize (if c.user.startDirectory = "" then Util.cleanPath p
    else Util.cleanPathWithBase c.user.startDirectory p) = np at hq hcalls hnorm
  rcases hr : c.getFsAndResolvedPath w.backend np with err | ⟨fs, fsPath⟩ <;>
    simp only [hr] at hq hcalls
  · cases hq
  cases hn : fs.realPath with
  | some realPather =>
    simp only [hn] at hcalls
    split at hcalls <;> cases hcalls
  | none =>
    simp only [hn] at hq
    obtain rfl := Except.ok.inj hq
    simp only [hnorm, hr, hn]
    exact ⟨rfl, rfl⟩

end Connection

/-- `RealPath` of `/d/../f` answers `/f` without the backend, and asking again
about `/f` gives `/f`. -/
theorem realPath_fixed_dotdot :
    (plainConn.user.startDirectory = "" ∨ GoPath.isAbs plainConn.user.startDirectory = true) ∧
    (plainConn.realPath "/d/../f" fileWorld).result = .ok "/f" ∧
    (plainConn.realPath "/d/../f" fileWorld).calls = [] ∧
    plainConn.user.hasPerm .listItems (GoPath.dir "/f") = true ∧
    (plainConn.realPath "/f" fileWorld).result = .ok "/f" ∧
    (plainConn.realPath "/f" fileWorld).calls = [] :=
  ⟨.inl rfl, rfl, rfl, rfl,
    Connection.realPath_fixed plainConn "/d/../f" fileWorld (.inl rfl) rfl rfl rfl⟩

end SftpGo
