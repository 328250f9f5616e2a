import SftpGo.Sftpd.Handler
import SftpGo.Sftpd.StatVFS

/-!
# What the handlers leave of the world

The handlers that only read change nothing but the activity count:
`Fileread`, `Filelist`, `Lstat` and `StatVFS` count one activity, as their
first statement does, and `Readlink` and `RealPath` change nothing at all.
`Filecmd` counts one activity and changes the backend only, through the
services it delegates to. These are the frame facts the session theorems
step through.
-/

namespace SftpGo

/-- `getStatVFSFromQuotaResult` only reads. -/
@[simp] theorem getStatVFSFromQuotaResult_world {σ : Type} (fs : Fs σ) (name : String)
    (quotaResult : QuotaCheckResult) (w : World σ) :
    (getStatVFSFromQuotaResult fs name quotaResult w).world = w := by
  simp only [getStatVFSFromQuotaResult]
  repeat' split
  all_goals rfl

namespace Connection

variable {σ : Type} (c : Connection σ)

/-! ### Handlers that only read -/

theorem fileread_world (request : Request) (w : World σ) :
    (c.fileread request w).world = w.updateLastActivity := by
  simp only [fileread]
  repeat' split
  all_goals rfl

theorem lstat_world (request : Request) (w : World σ) :
    (c.lstat request w).world = w.updateLastActivity := by
  simp only [lstat]
  repeat' split
  all_goals rfl

theorem filelist_world (request : Request) (w : World σ) :
    (c.filelist request w).world = w.updateLastActivity := by
  simp only [filelist]
  repeat' split
  all_goals rfl

theorem statVFS_world (request : Request) (w : World σ) :
    (c.statVFS request w).world = w.updateLastActivity := by
  simp only [statVFS]
  repeat' split
  all_goals simp

theorem readlink_world (filePath : String) (w : World σ) : (c.readlink filePath w).world = w := by
  simp only [readlink]
  repeat' split
  all_goals rfl

theorem realPath_world (p : String) (w : World σ) : (c.realPath p w).world = w := by
  simp only [realPath]
  repeat' split
  all_goals rfl

/-! ### File commands -/

/-- `handleSFTPRemove` changes the backend only. -/
theorem handleSFTPRemove_frame (request : Request) (w : World σ) :
    (c.handleSFTPRemove request w).world =
      { w with backend := (c.handleSFTPRemove request w).world.backend } := by
  simp only [handleSFTPRemove]
  repeat' split
  all_goals rfl

/-- `Filecmd` changes the backend only, once it has counted the activity. -/
theorem filecmd_frame (request : Request) (w : World σ) :
    (c.filecmd request w).world =
      { w.updateLastActivity with backend := (c.filecmd request w).world.backend } := by
  simp only [filecmd]
  split
  any_goals rfl
  exact c.handleSFTPRemove_frame request _

end Connection

end SftpGo
