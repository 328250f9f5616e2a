import Mathlib.Logic.Basic

/-!
# Virtual folders

`vfs.BaseVirtualFolder` and `vfs.VirtualFolder` with the methods of
`folder.go` that compute on the folder record. The user and group lists are Go
slices, and what `GetACopy` promises is about sharing, so slices are modelled
as references into an explicit heap of string arrays (`Heap`): a `Slice` is a
window on the backing array at an address, `Heap.make` allocates a fresh array
at the next address, `Heap.set` writes one element through a slice, and
`Heap.copy` is Go's `copy`.

`GetACopy` allocates a fresh array for the users and copies them into it, and
it allocates and fills a fresh array for the groups as well, but the record it
returns carries the original `v.Groups`: the copy's group list shares its
backing array with the original. `getACopy_groups_shared` is what follows:
one element write through the copy's groups changes the original's groups.
The users, by contrast, are deep-copied, and every other field is the
original's (`getACopy_copies_users`).

The backend configuration (`vfs.Filesystem`) is kept to the settings these
methods read. Its own deep copy, `Filesystem.GetACopy`, lives outside this
file and is a parameter `copyFsConfig` of `getACopy`.
-/

namespace SftpGo

/-! ### Slices on a heap of string arrays -/

/-- A Go `[]string`: `len` elements from offset `off` of the backing array at
heap address `ref`. -/
structure Slice where
  ref : Nat
  off : Nat
  len : Nat
  deriving DecidableEq, Repr

/-- The backing arrays that string slices point into; an address is a
position in `arrays`, and allocation appends. -/
structure Heap where
  arrays : List (List String)
  deriving DecidableEq, Repr

namespace Heap

/-- The backing array at address `a` (empty past the last address). -/
def array (h : Heap) (a : Nat) : List String :=
  h.arrays.getD a []

/-- The elements a slice shows. -/
def elems (h : Heap) (s : Slice) : List String :=
  ((h.array s.ref).drop s.off).take s.len

/-- A slice is well formed on a heap when its window fits in its backing
array, as every slice Go builds does. -/
def Fits (h : Heap) (s : Slice) : Prop :=
  s.off + s.len ≤ (h.array s.ref).length

/-- `make([]string, n)`: a fresh backing array of `n` empty strings at the
next address. -/
def make (h : Heap) (n : Nat) : Slice × Heap :=
  (⟨h.arrays.length, 0, n⟩, ⟨h.arrays ++ [List.replicate n ""]⟩)

/-- `s[i] = x`. An index past the slice's length panics in Go; here it leaves
the heap as it is. -/
def set (h : Heap) (s : Slice) (i : Nat) (x : String) : Heap :=
  if i < s.len then ⟨h.arrays.set s.ref ((h.array s.ref).set (s.off + i) x)⟩ else h

/-- Element writes `s[i] = x`, one after the other. -/
def setAll (h : Heap) (s : Slice) (writes : List (Nat × String)) : Heap :=
  writes.foldl (fun h w => h.set s w.1 w.2) h

/-- `copy(dst, src)`: the first `min(len(dst), len(src))` elements of `src`,
read before any is written, stored into `dst`'s window. -/
def copy (h : Heap) (dst src : Slice) : Heap :=
  let vals := (h.elems src).take dst.len
  let arr := h.array dst.ref
  ⟨h.arrays.set dst.ref (arr.take dst.off ++ vals ++ arr.drop (dst.off + vals.length))⟩

instance (h : Heap) (s : Slice) : Decidable (h.Fits s) :=
  inferInstanceAs (Decidable (_ ≤ _))

@[simp] theorem make_fst (h : Heap) (n : Nat) : (h.make n).1 = ⟨h.arrays.length, 0, n⟩ := rfl

@[simp] theorem length_make (h : Heap) (n : Nat) :
    (h.make n).2.arrays.length = h.arrays.length + 1 := by
  simp [make]

@[simp] theorem length_copy (h : Heap) (dst src : Slice) :
    (h.copy dst src).arrays.length = h.arrays.length := by
  simp [copy]

theorem array_make_of_lt {h : Heap} {a : Nat} (n : Nat) (ha : a < h.arrays.length) :
    (h.make n).2.array a = h.array a := by
  simp [make, array, List.getElem?_append_left ha]

theorem array_set_of_ne {h : Heap} {s : Slice} {a : Nat} (i : Nat) (x : String)
    (ha : s.ref ≠ a) : (h.set s i x).array a = h.array a := by
  unfold set; split <;> simp [array, List.getElem?_set_ne ha]

theorem array_setAll_of_ne {s : Slice} {a : Nat} (ha : s.ref ≠ a) (ws : List (Nat × String)) :
    ∀ h : Heap, (h.setAll s ws).array a = h.array a := by
  induction ws with
  | nil => intro h; rfl
  | cons w ws ih => intro h; exact (ih _).trans (array_set_of_ne _ _ ha)

theorem array_copy_of_ne {h : Heap} {dst : Slice} {a : Nat} (src : Slice) (ha : dst.ref ≠ a) :
    (h.copy dst src).array a = h.array a := by
  simp [copy, array, List.getElem?_set_ne ha]

theorem elems_congr {h h' : Heap} {s : Slice} (e : h'.array s.ref = h.array s.ref) :
    h'.elems s = h.elems s := by
  simp [elems, e]

/-- A slice that fits its heap and reaches past the start of its array points
at an allocated array. -/
theorem Fits.ref_lt {h : Heap} {s : Slice} (hf : h.Fits s) (hl : 0 < s.off + s.len) :
    s.ref < h.arrays.length := by
  rcases Nat.lt_or_ge s.ref h.arrays.length with hr | hr
  · exact hr
  · simp [Fits, array, List.getElem?_eq_none hr] at hf; omega

theorem Fits.length_elems {h : Heap} {s : Slice} (hf : h.Fits s) :
    (h.elems s).length = s.len := by
  simp only [elems, List.length_take, List.length_drop]
  unfold Fits at hf; omega

/-- A heap change that keeps every allocated array keeps what a fitting slice
shows. -/
theorem elems_of_fits {h h' : Heap} {s : Slice} (hf : h.Fits s)
    (keep : ∀ a < h.arrays.length, h'.array a = h.array a) : h'.elems s = h.elems s := by
  rcases Nat.eq_zero_or_pos s.len with hl | hl
  · simp [elems, hl]
  · exact elems_congr (keep _ (hf.ref_lt (Nat.lt_add_left _ hl)))

/-- A heap change that keeps every allocated array keeps every fitting slice
fitting. -/
theorem Fits.of_keep {h h' : Heap} {s : Slice} (hf : h.Fits s)
    (keep : ∀ a < h.arrays.length, h'.array a = h.array a) : h'.Fits s := by
  rcases Nat.eq_zero_or_pos (s.off + s.len) with hl | hl
  · unfold Fits; omega
  · unfold Fits; rw [keep _ (hf.ref_lt hl)]; exact hf

theorem elems_set_self {h : Heap} {s : Slice} {i : Nat} (x : String) (hf : h.Fits s)
    (hi : i < s.len) : (h.set s i x).elems s = (h.elems s).set i x := by
  have hr := hf.ref_lt (Nat.lt_add_left _ (Nat.lt_of_le_of_lt (Nat.zero_le i) hi))
  simp [elems, set, hi, array, hr]
  rw [← List.set_drop, List.set_take]

/-- Copying a fitting slice into a fresh array of its length: the new array
shows exactly the source's elements. -/
theorem elems_copy_make {h : Heap} {src : Slice} (hf : h.Fits src) :
    ((h.make src.len).2.copy (h.make src.len).1 src).elems (h.make src.len).1 =
      h.elems src := by
  have hkeep : (h.make src.len).2.elems src = h.elems src :=
    elems_of_fits hf fun a ha => array_make_of_lt _ ha
  have hlen : (h.elems src).length = src.len := hf.length_elems
  rw [copy, hkeep]
  generalize h.elems src = e at hlen
  simp [elems, array, make, hlen, List.take_of_length_le (Nat.le_of_eq hlen)]

end Heap

/-! ### Folder records -/

/-- `sdk.FilesystemProvider`. -/
inductive FilesystemProvider where
  | localFilesystemProvider
  | s3FilesystemProvider
  | gcsFilesystemProvider
  | azureBlobFilesystemProvider
  | cryptedFilesystemProvider
  | sftpFilesystemProvider
  | httpFilesystemProvider
  deriving DecidableEq, Repr

/-- `vfs.Filesystem`, kept to the provider and the per-provider settings that
`folder.go` reads: the bucket, container or endpoint, and the key prefix. -/
structure Filesystem where
  provider : FilesystemProvider
  s3Bucket : String
  s3KeyPrefix : String
  gcsBucket : String
  gcsKeyPrefix : String
  azBlobContainer : String
  azBlobKeyPrefix : String
  sftpEndpoint : String
  sftpPrefix : String
  httpEndpoint : String
  deriving DecidableEq, Repr

/-- `vfs.BaseVirtualFolder`. -/
structure BaseVirtualFolder where
  id : BitVec 64
  name : String
  mappedPath : String
  description : String
  usedQuotaSize : BitVec 64
  usedQuotaFiles : BitVec 64
  lastQuotaUpdate : BitVec 64
  users : Slice
  groups : Slice
  fsConfig : Filesystem
  deriving DecidableEq, Repr

/-- `vfs.VirtualFolder`: a base folder mounted at a virtual path, with its own
limits (`0` unlimited, `-1` included in the user's quota). -/
structure VirtualFolder extends BaseVirtualFolder where
  virtualPath : String
  quotaSize : BitVec 64
  quotaFiles : BitVec 64
  deriving DecidableEq, Repr

/-- `strings.Contains`. -/
def GoStrings.contains (s substr : String) : Bool :=
  go s.toList
where
  /-- Whether `substr` starts at some position of `cs`. -/
  go : List Char → Bool
    | [] => substr.toList.isEmpty
    | c :: cs => substr.toList.isPrefixOf (c :: cs) || go cs

namespace BaseVirtualFolder

/-- `GetEncryptionAdditionalData`. -/
def getEncryptionAdditionalData (v : BaseVirtualFolder) : String :=
  "folder_" ++ v.name

/-- `GetACopy`. Both lists get a fresh array, but the record keeps
`v.Groups`, exactly as the source does. -/
def getACopy (copyFsConfig : Filesystem → Filesystem) (v : BaseVirtualFolder)
    (h : Heap) : BaseVirtualFolder × Heap :=
  let (users, h) := h.make v.users.len
  let h := h.copy users v.users
  let (groups, h) := h.make v.groups.len
  let h := h.copy groups v.groups
  ({ id := v.id, name := v.name, description := v.description,
     mappedPath := v.mappedPath, usedQuotaSize := v.usedQuotaSize,
     usedQuotaFiles := v.usedQuotaFiles, lastQuotaUpdate := v.lastQuotaUpdate,
     users := users, groups := v.groups, fsConfig := copyFsConfig v.fsConfig }, h)

/-- `GetUsersAsString`. -/
def getUsersAsString (v : BaseVirtualFolder) (h : Heap) : String :=
  ",".intercalate (h.elems v.users)

/-- `GetGroupsAsString`. -/
def getGroupsAsString (v : BaseVirtualFolder) (h : Heap) : String :=
  ",".intercalate (h.elems v.groups)

/-- `GetStorageDescrition`. -/
def getStorageDescrition (v : BaseVirtualFolder) : String :=
  match v.fsConfig.provider with
  | .localFilesystemProvider => "Local: " ++ v.mappedPath
  | .s3FilesystemProvider => "S3: " ++ v.fsConfig.s3Bucket
  | .gcsFilesystemProvider => "GCS: " ++ v.fsConfig.gcsBucket
  | .azureBlobFilesystemProvider => "AzBlob: " ++ v.fsConfig.azBlobContainer
  | .cryptedFilesystemProvider => "Encrypted: " ++ v.mappedPath
  | .sftpFilesystemProvider => "SFTP: " ++ v.fsConfig.sftpEndpoint
  | .httpFilesystemProvider => "HTTP: " ++ v.fsConfig.httpEndpoint

/-- `IsLocalOrLocalCrypted`. -/
def isLocalOrLocalCrypted (v : BaseVirtualFolder) : Bool :=
  v.fsConfig.provider == .localFilesystemProvider ||
    v.fsConfig.provider == .cryptedFilesystemProvider

/-- `hasPathPlaceholder`: whether the setting that roots the folder's storage
holds `%username%`. HTTP folders have no such setting. -/
def hasPathPlaceholder (v : BaseVirtualFolder) : Bool :=
  let placeholder := "%username%"
  match v.fsConfig.provider with
  | .s3FilesystemProvider => GoStrings.contains v.fsConfig.s3KeyPrefix placeholder
  | .gcsFilesystemProvider => GoStrings.contains v.fsConfig.gcsKeyPrefix placeholder
  | .azureBlobFilesystemProvider => GoStrings.contains v.fsConfig.azBlobKeyPrefix placeholder
  | .sftpFilesystemProvider => GoStrings.contains v.fsConfig.sftpPrefix placeholder
  | .localFilesystemProvider | .cryptedFilesystemProvider =>
    GoStrings.contains v.mappedPath placeholder
  | .httpFilesystemProvider => false

end BaseVirtualFolder

namespace VirtualFolder

/-- `ScanQuota`: refused for a folder whose storage root has a placeholder;
otherwise the backend's `ScanRootDirContents` (files, size). -/
def scanQuota (v : VirtualFolder) (scanRootDirContents : Except String (BitVec 64 × BitVec 64)) :
    Except String (BitVec 64 × BitVec 64) :=
  if v.hasPathPlaceholder then .error "cannot scan quota: this folder has a path placeholder"
  else scanRootDirContents

/-- `IsIncludedInUserQuota`. -/
def isIncludedInUserQuota (v : VirtualFolder) : Bool :=
  v.quotaFiles == -1 && v.quotaSize == -1

/-- `HasNoQuotaRestrictions`. -/
def hasNoQuotaRestrictions (v : VirtualFolder) (checkFiles : Bool) : Bool :=
  v.quotaSize == 0 && (!checkFiles || v.quotaFiles == 0)

/-- `GetACopy`. -/
def getACopy (copyFsConfig : Filesystem → Filesystem) (v : VirtualFolder) (h : Heap) :
    VirtualFolder × Heap :=
  let (base, h) := v.toBaseVirtualFolder.getACopy copyFsConfig h
  ({ toBaseVirtualFolder := base, virtualPath := v.virtualPath,
     quotaSize := v.quotaSize, quotaFiles := v.quotaFiles }, h)

end VirtualFolder

/-! ### What `GetACopy` shares -/

namespace BaseVirtualFolder

section GetACopy

variable (copyFsConfig : Filesystem → Filesystem) (v : BaseVirtualFolder) (h : Heap)

/-- `GetACopy` in projection form: the copy is the original with a fresh user
slice and a copied backend configuration, and the heap gains the two filled
arrays. -/
theorem getACopy_eq :
    v.getACopy copyFsConfig h =
      let u := h.make v.users.len
      let h₁ := u.2.copy u.1 v.users
      let g := h₁.make v.groups.len
      ({ v with users := u.1, fsConfig := copyFsConfig v.fsConfig }, g.2.copy g.1 v.groups) :=
  rfl

/-- `GetACopy` only appends arrays: every array allocated before it is left
as it was. -/
theorem getACopy_array_of_lt {a : Nat} (ha : a < h.arrays.length) :
    (v.getACopy copyFsConfig h).2.array a = h.array a := by
  simp only [getACopy_eq]
  rw [Heap.array_copy_of_ne _ (by simp; omega), Heap.array_make_of_lt _ (by simp; omega),
    Heap.array_copy_of_ne _ (by simp; omega), Heap.array_make_of_lt _ ha]

/-- **The users are deep-copied, element by element.** -/
theorem getACopy_users_elems (hu : h.Fits v.users) :
    (v.getACopy copyFsConfig h).2.elems (v.getACopy copyFsConfig h).1.users = h.elems v.users := by
  simp only [getACopy_eq]
  rw [← Heap.elems_copy_make hu]
  refine Heap.elems_congr ?_
  rw [Heap.array_copy_of_ne _ (by simp), Heap.array_make_of_lt _ (by simp)]

/-- **Writes through the copy's users reach neither original list.** The
copy's user array is fresh, so no element write through it lands in an array
the original's slices show. -/
theorem getACopy_users_independent (hu : h.Fits v.users) (hg : h.Fits v.groups)
    (ws : List (Nat × String)) :
    let c := v.getACopy copyFsConfig h
    (c.2.setAll c.1.users ws).elems v.users = h.elems v.users ∧
      (c.2.setAll c.1.users ws).elems v.groups = h.elems v.groups := by
  have keep : ∀ a < h.arrays.length,
      ((v.getACopy copyFsConfig h).2.setAll (v.getACopy copyFsConfig h).1.users ws).array a =
        h.array a := fun a ha => by
    rw [Heap.array_setAll_of_ne (by simp [getACopy_eq]; omega), getACopy_array_of_lt _ _ _ ha]
  exact ⟨Heap.elems_of_fits hu keep, Heap.elems_of_fits hg keep⟩

/-- **What `GetACopy` copies.** Every field but the two lists is the
original's, with the backend configuration copied through `copyFsConfig`; the
copy's users show the original's users, from a fresh array that no write
through the copy's users can reach either original list from. -/
theorem getACopy_copies_users (hu : h.Fits v.users) (hg : h.Fits v.groups) :
    let c := v.getACopy copyFsConfig h
    { c.1 with users := v.users, groups := v.groups } =
        { v with fsConfig := copyFsConfig v.fsConfig } ∧
      c.2.elems c.1.users = h.elems v.users ∧
      ∀ ws : List (Nat × String), (c.2.setAll c.1.users ws).elems v.users = h.elems v.users ∧
        (c.2.setAll c.1.users ws).elems v.groups = h.elems v.groups :=
  ⟨rfl, getACopy_users_elems copyFsConfig v h hu,
    getACopy_users_independent copyFsConfig v h hu hg⟩

/-- A local folder with the user `bob` and the group `staff`: the copy's users
read `["bob"]`, and renaming the copy's user leaves both original lists. -/
theorem getACopy_copies_users_bob :
    let h : Heap := ⟨[["bob"], ["staff"]]⟩
    let v : BaseVirtualFolder :=
      { id := 1, name := "shared", mappedPath := "/srv/shared", description := "",
        usedQuotaSize := 0, usedQuotaFiles := 0, lastQuotaUpdate := 0,
        users := ⟨0, 0, 1⟩, groups := ⟨1, 0, 1⟩,
        fsConfig := ⟨.localFilesystemProvider, "", "", "", "", "", "", "", "", ""⟩ }
    h.Fits v.users ∧ h.Fits v.groups ∧
      let c := v.getACopy (fun fs => fs) h
      { c.1 with users := v.users, groups := v.groups } = { v with fsConfig := v.fsConfig } ∧
        c.2.elems c.1.users = h.elems v.users ∧
        ∀ ws : List (Nat × String), (c.2.setAll c.1.users ws).elems v.users = h.elems v.users ∧
          (c.2.setAll c.1.users ws).elems v.groups = h.elems v.groups :=
  ⟨by decide, by decide, getACopy_copies_users (fun fs => fs) _ _ (by decide) (by decide)⟩

/-- **The groups are shared.** `GetACopy` returns `v.Groups` itself, so an
element write through the copy's groups is a write to the original's: the
original then shows the written value. -/
theorem getACopy_groups_shared (hg : h.Fits v.groups) {i : Nat} (hi : i < v.groups.len)
    (x : String) :
    let c := v.getACopy copyFsConfig h
    (c.2.set c.1.groups i x).elems v.groups = (h.elems v.groups).set i x := by
  have keep := fun a ha => getACopy_array_of_lt copyFsConfig v h (a := a) ha
  show ((v.getACopy copyFsConfig h).2.set v.groups i x).elems v.groups = _
  rw [Heap.elems_set_self x (hg.of_keep keep) hi, Heap.elems_of_fits hg keep]

/-- A local folder whose one group is `staff`: writing `admins` through the
copy's groups turns the original's groups into `["admins"]`. -/
theorem getACopy_groups_shared_staff :
    let h : Heap := ⟨[["staff"]]⟩
    let v : BaseVirtualFolder :=
      { id := 1, name := "shared", mappedPath := "/srv/shared", description := "",
        usedQuotaSize := 0, usedQuotaFiles := 0, lastQuotaUpdate := 0,
        users := ⟨0, 0, 0⟩, groups := ⟨0, 0, 1⟩,
        fsConfig := ⟨.localFilesystemProvider, "", "", "", "", "", "", "", "", ""⟩ }
    h.Fits v.groups ∧ 0 < v.groups.len ∧
      let c := v.getACopy (fun fs => fs) h
      (c.2.set c.1.groups 0 "admins").elems v.groups = ["admins"] :=
  ⟨by decide, by decide,
    (getACopy_groups_shared (fun fs => fs) _ _ (by decide) (by decide) "admins").trans rfl⟩

end GetACopy

end BaseVirtualFolder

/-- `VirtualFolder.GetACopy` copies through the base folder's `GetACopy`. -/
theorem VirtualFolder.getACopy_toBaseVirtualFolder (copyFsConfig : Filesystem → Filesystem)
    (v : VirtualFolder) (h : Heap) :
    ((v.getACopy copyFsConfig h).1.toBaseVirtualFolder, (v.getACopy copyFsConfig h).2) =
      v.toBaseVirtualFolder.getACopy copyFsConfig h :=
  rfl

end SftpGo
