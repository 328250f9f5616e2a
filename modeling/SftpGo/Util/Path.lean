import Mathlib.Logic.Basic

/-!
# Slash-separated paths

The handlers check permissions on `path.Dir` of the request path, build the
quota probe path with `path.Join`, and `RealPath` normalises the client's path
with `util.CleanPath` or `util.CleanPathWithBase`. This module gives those
functions their lexical meaning, so that statements about which directory a
permission is checked on can be evaluated on concrete paths.

* `GoPath.clean` is Go's `path.Clean`, written after its four documented
  rules: repeated slashes collapse, `.` elements go, an inner `..` removes the
  element before it, and a `..` at the start of a rooted path is dropped; an
  empty result is `.`. The pass runs over the elements of the path
  (`splitSlash`), keeping a stack of the elements kept so far (`cleanStep`).
* `GoPath.dir` is `path.Dir`: everything up to the last slash, cleaned.
* `GoPath.join` and `GoPath.isAbs` are the two-argument `path.Join` and
  `path.IsAbs`.
* `Util.cleanPathWithBase` and `Util.cleanPath` are the repository's helpers,
  which are not part of the handler sources: a relative path is joined to the
  base (`/` for `cleanPath`) and the result cleaned.

Paths are processed as character lists, so every function here is
structurally recursive and `decide` evaluates it on small inputs.

`RealPath` answers with the normalised path when the backend cannot resolve
paths itself, so whether that answer is stable rests on `path.Clean`:

* `clean_clean`: `path.Clean` is idempotent. The pass keeps regular elements
  above a run of `..` that only a relative path keeps (`Kept`), and running it
  again over what it wrote out keeps the same elements (`clean_render`);
* `cleanPathWithBase_cleanPathWithBase`: normalising against a rooted base is
  idempotent, since its result is rooted and cleaning a rooted path only
  cleans it.

`StatVFS` asks the quota check about `path.Join(r.Filepath, "fakefile.txt")`,
taking the request's path for a directory:

* `dir_join`: the directory of a name joined to any path is that path,
  cleaned.
-/

namespace SftpGo

namespace GoPath

/-- The elements of a path between its slashes, empty elements included
(`strings.Split(p, "/")` on the characters of `p`). -/
def splitSlash : List Char → List (List Char)
  | [] => [[]]
  | c :: cs =>
    if c = '/' then [] :: splitSlash cs
    else match splitSlash cs with
      | e :: es => (c :: e) :: es
      | [] => [[c]]

/-- One element of `path.Clean`'s pass. `kept` holds the elements kept so far,
the most recent first. An empty element or `.` is dropped; `..` removes the
element before it unless that is itself a `..`, and at the start of a rooted
path it is dropped, while at the start of a relative path it is kept. -/
def cleanStep (rooted : Bool) (kept : List (List Char)) (elem : List Char) :
    List (List Char) :=
  if elem = [] ∨ elem = ['.'] then kept
  else if elem = ['.', '.'] then
    match kept with
    | k :: rest => if k = ['.', '.'] then elem :: kept else rest
    | [] => if rooted then [] else [elem]
  else elem :: kept

/-- `path.Clean`: the shortest path name lexically equivalent to `p`. -/
def clean (p : String) : String :=
  if p = "" then "." else
  let rooted := p.toList.head? = some '/'
  let kept := (splitSlash p.toList).foldl (cleanStep rooted) []
  let body := String.mk (kept.reverse.intersperse ['/']).flatten
  if rooted then "/" ++ body else if body = "" then "." else body

/-- `path.Dir`: all but the last element of `p`, cleaned. The split keeps
everything up to and including the last slash (`path.Split`). -/
def dir (p : String) : String :=
  clean (String.mk (p.toList.reverse.dropWhile (· ≠ '/')).reverse)

/-- `path.IsAbs`. -/
def isAbs (p : String) : Bool :=
  p.toList.head? = some '/'

/-- `path.Join` of two elements: the non-empty elements joined by a slash and
cleaned, or the empty string when both are empty. -/
def join (a b : String) : String :=
  if a ≠ "" then clean (a ++ "/" ++ b)
  else if b ≠ "" then clean b
  else ""

/-! ### Splitting at slashes -/

/-- A non-empty list keeps its head when something is appended. -/
theorem head?_append_of_ne_nil {cs : List Char} (hcs : cs ≠ []) (l : List Char) :
    (cs ++ l).head? = cs.head? := by
  obtain ⟨c, cs, rfl⟩ := List.exists_cons_of_ne_nil hcs
  rfl

/-- The characters of a path with a slash and a name added. -/
theorem toList_append_slash (a b : String) :
    (a ++ "/" ++ b).toList = a.toList ++ '/' :: b.toList := by
  show a.data ++ ['/'] ++ b.data = _
  simp

/-- A split has at least one element. -/
theorem splitSlash_ne_nil (cs : List Char) : splitSlash cs ≠ [] := by
  cases cs with
  | nil => simp [splitSlash]
  | cons c cs =>
    unfold splitSlash
    split
    · simp
    · split <;> simp

/-- A leading slash splits off an empty element. -/
theorem splitSlash_cons_slash (cs : List Char) : splitSlash ('/' :: cs) = [] :: splitSlash cs := by
  simp [splitSlash]

/-- A name without a slash is one element. -/
theorem splitSlash_of_not_mem {cs : List Char} (h : '/' ∉ cs) : splitSlash cs = [cs] := by
  induction cs with
  | nil => rfl
  | cons c cs ih =>
    have hc : c ≠ '/' := fun hc => h (hc ▸ List.mem_cons_self _ _)
    have hcs : '/' ∉ cs := fun hm => h (List.mem_cons_of_mem _ hm)
    simp [splitSlash, hc, ih hcs]

/-- Splitting at a slash splits the two sides. -/
theorem splitSlash_append_slash (xs ys : List Char) :
    splitSlash (xs ++ '/' :: ys) = splitSlash xs ++ splitSlash ys := by
  induction xs with
  | nil => simp [splitSlash]
  | cons c xs ih =>
    by_cases hc : c = '/'
    · simp [splitSlash, hc, ih]
    · obtain ⟨e, es, he⟩ : ∃ e es, splitSlash xs = e :: es :=
        List.exists_cons_of_ne_nil (splitSlash_ne_nil xs)
      simp [splitSlash, hc, ih, he]

/-- No element of a split holds a slash. -/
theorem not_mem_of_mem_splitSlash {cs e : List Char} (h : e ∈ splitSlash cs) : '/' ∉ e := by
  induction cs generalizing e with
  | nil => simp_all [splitSlash]
  | cons c cs ih =>
    obtain ⟨e', es, he⟩ := List.exists_cons_of_ne_nil (splitSlash_ne_nil cs)
    by_cases hc : c = '/'
    · rw [hc, splitSlash_cons_slash] at h
      rcases List.mem_cons.1 h with rfl | h
      · simp
      · exact ih h
    · simp only [splitSlash, hc, if_false, he, List.mem_cons] at h
      rcases h with rfl | h
      · simpa [Ne.symm hc] using ih (he ▸ List.mem_cons_self e' es)
      · exact ih (he ▸ List.mem_cons_of_mem _ h)


/-! ### What `path.Clean` keeps -/

/-- An element `path.Clean` keeps above the leading run of `..`: not empty,
not `.` or `..`, and without a slash. -/
def Regular (e : List Char) : Prop :=
  e ≠ [] ∧ e ≠ ['.'] ∧ e ≠ ['.', '.'] ∧ '/' ∉ e

instance (e : List Char) : Decidable (Regular e) :=
  inferInstanceAs (Decidable (_ ∧ _ ∧ _ ∧ _))

/-- The elements `path.Clean`'s pass keeps, the most recent first: regular
elements above a run of `..`, which a rooted path never keeps. -/
def Kept (rooted : Bool) (kept : List (List Char)) : Prop :=
  ∃ regs n, kept = regs ++ List.replicate n ['.', '.'] ∧ (∀ e ∈ regs, Regular e) ∧
    (rooted = true → n = 0)

/-- The pass starts from nothing kept. -/
theorem Kept.nil (rooted : Bool) : Kept rooted [] := ⟨[], 0, rfl, by simp, fun _ => rfl⟩

/-- Every kept element is a non-empty name without a slash. -/
theorem Kept.elem {rooted : Bool} {kept : List (List Char)} (h : Kept rooted kept) :
    ∀ e ∈ kept, e ≠ [] ∧ '/' ∉ e := by
  obtain ⟨regs, n, rfl, hregs, -⟩ := h
  intro e he
  rcases List.mem_append.1 he with he | he
  · exact ⟨(hregs e he).1, (hregs e he).2.2.2⟩
  · rw [List.eq_of_mem_replicate he]; simp

/-- One step of the pass keeps the kept elements in shape. -/
theorem cleanStep_kept {rooted : Bool} {kept : List (List Char)} (h : Kept rooted kept)
    {elem : List Char} (he : '/' ∉ elem) : Kept rooted (cleanStep rooted kept elem) := by
  obtain ⟨regs, n, rfl, hregs, hn⟩ := h
  unfold cleanStep
  by_cases h₁ : elem = [] ∨ elem = ['.']
  · rw [if_pos h₁]; exact ⟨regs, n, rfl, hregs, hn⟩
  rw [if_neg h₁]
  by_cases h₂ : elem = ['.', '.']
  · rw [if_pos h₂]
    subst h₂
    cases regs with
    | cons e regs =>
      have hne : e ≠ ['.', '.'] := (hregs e (List.mem_cons_self _ _)).2.2.1
      simp only [List.cons_append, hne, if_false]
      exact ⟨regs, n, rfl, fun e' he' => hregs e' (List.mem_cons_of_mem _ he'), hn⟩
    | nil =>
      cases n with
      | zero =>
        cases rooted
        · exact ⟨[], 1, rfl, by simp, by simp⟩
        · exact Kept.nil true
      | succ n =>
        cases rooted
        · exact ⟨[], n + 2, by simp [List.replicate_succ], by simp, by simp⟩
        · exact absurd (hn rfl) (Nat.succ_ne_zero n)
  · rw [if_neg h₂]
    exact ⟨elem :: regs, n, rfl, by
      simp only [List.mem_cons, forall_eq_or_imp]
      exact ⟨⟨fun h => h₁ (.inl h), fun h => h₁ (.inr h), h₂, he⟩, hregs⟩, hn⟩

/-- The whole pass keeps the kept elements in shape. -/
theorem foldl_cleanStep_kept {rooted : Bool} (elems : List (List Char))
    (he : ∀ e ∈ elems, '/' ∉ e) {kept : List (List Char)} (h : Kept rooted kept) :
    Kept rooted (elems.foldl (cleanStep rooted) kept) := by
  induction elems generalizing kept with
  | nil => exact h
  | cons e es ih =>
    exact ih (fun e' he' => he e' (List.mem_cons_of_mem _ he'))
      (cleanStep_kept h (he e (List.mem_cons_self _ _)))

/-- A regular element is pushed. -/
theorem cleanStep_regular (rooted : Bool) (kept : List (List Char)) {e : List Char}
    (he : Regular e) : cleanStep rooted kept e = e :: kept := by
  obtain ⟨h₀, h₁, h₂, -⟩ := he
  simp [cleanStep, h₀, h₁, h₂]

/-- An empty element is dropped. -/
@[simp] theorem cleanStep_nil (rooted : Bool) (kept : List (List Char)) :
    cleanStep rooted kept [] = kept := by
  simp [cleanStep]

/-- Regular elements are pushed in order. -/
theorem foldl_cleanStep_regular (rooted : Bool) (regs : List (List Char))
    (h : ∀ e ∈ regs, Regular e) (kept : List (List Char)) :
    regs.foldl (cleanStep rooted) kept = regs.reverse ++ kept := by
  induction regs generalizing kept with
  | nil => rfl
  | cons e es ih =>
    rw [List.foldl_cons, cleanStep_regular rooted kept (h e (List.mem_cons_self _ _)),
      ih (fun e' he' => h e' (List.mem_cons_of_mem _ he'))]
    simp

/-- In a relative path, a run of `..` with nothing before it is kept. -/
theorem foldl_cleanStep_dots (m n : Nat) :
    (List.replicate n ['.', '.']).foldl (cleanStep false) (List.replicate m ['.', '.']) =
      List.replicate (m + n) ['.', '.'] := by
  induction n generalizing m with
  | zero => rfl
  | succ n ih =>
    rw [List.replicate_succ, List.foldl_cons]
    have : cleanStep false (List.replicate m ['.', '.']) ['.', '.'] =
        List.replicate (m + 1) ['.', '.'] := by
      cases m <;> simp [cleanStep, List.replicate_succ]
    rw [this, ih]
    congr 1
    omega

/-- Running the pass again over the kept elements, oldest first, keeps them
all. -/
theorem foldl_cleanStep_reverse {rooted : Bool} {kept : List (List Char)} (h : Kept rooted kept) :
    kept.reverse.foldl (cleanStep rooted) [] = kept := by
  obtain ⟨regs, n, rfl, hregs, hn⟩ := h
  have hdots : (List.replicate n ['.', '.']).foldl (cleanStep rooted) [] =
      List.replicate n ['.', '.'] := by
    cases rooted
    · simpa using foldl_cleanStep_dots 0 n
    · rw [hn rfl]; rfl
  rw [List.reverse_append, List.reverse_replicate, List.foldl_append, hdots,
    foldl_cleanStep_regular rooted _ (fun e he => hregs e (List.mem_reverse.1 he)),
    List.reverse_reverse]


/-! ### Writing the kept elements out -/

/-- Splitting the kept elements written out with slashes gives them back. -/
theorem splitSlash_flatten_intersperse {K : List (List Char)} (hK : K ≠ [])
    (h : ∀ e ∈ K, '/' ∉ e) : splitSlash (K.intersperse ['/']).flatten = K := by
  induction K with
  | nil => exact absurd rfl hK
  | cons e K ih =>
    cases K with
    | nil => simpa using splitSlash_of_not_mem (h e (List.mem_cons_self _ _))
    | cons e' K =>
      have : ((e :: e' :: K).intersperse ['/']).flatten =
          e ++ '/' :: ((e' :: K).intersperse ['/']).flatten := by
        simp [List.intersperse_cons₂]
      rw [this, splitSlash_append_slash, splitSlash_of_not_mem (h e (List.mem_cons_self _ _)),
        ih (List.cons_ne_nil _ _) (fun e'' he'' => h e'' (List.mem_cons_of_mem _ he''))]
      rfl

/-- Written out with slashes, a list of elements starts with its first element. -/
theorem flatten_intersperse_cons (e : List Char) (K : List (List Char)) :
    ∃ rest, ((e :: K).intersperse ['/']).flatten = e ++ rest := by
  cases K with
  | nil => exact ⟨[], by simp⟩
  | cons e' K =>
    exact ⟨'/' :: ((e' :: K).intersperse ['/']).flatten, by simp [List.intersperse_cons₂]⟩

/-- The path `path.Clean` writes out from the elements its pass kept. -/
def render (rooted : Bool) (kept : List (List Char)) : String :=
  let body := String.mk (kept.reverse.intersperse ['/']).flatten
  if rooted then "/" ++ body else if body = "" then "." else body

/-- Kept elements written out with slashes: not empty, not starting with a
slash, and split back into the elements. -/
theorem Kept.body {rooted : Bool} {kept : List (List Char)} (h : Kept rooted kept)
    (hk : kept ≠ []) :
    (kept.reverse.intersperse ['/']).flatten ≠ [] ∧
      (kept.reverse.intersperse ['/']).flatten.head? ≠ some '/' ∧
      splitSlash (kept.reverse.intersperse ['/']).flatten = kept.reverse := by
  have hK : kept.reverse ≠ [] := by simpa using hk
  have hel : ∀ e ∈ kept.reverse, e ≠ [] ∧ '/' ∉ e := fun e he => h.elem e (List.mem_reverse.1 he)
  obtain ⟨e, K, hK'⟩ := List.exists_cons_of_ne_nil hK
  obtain ⟨rest, hrest⟩ := flatten_intersperse_cons e K
  have he := hel e (hK' ▸ List.mem_cons_self e K)
  refine ⟨?_, ?_, splitSlash_flatten_intersperse hK fun e he => (hel e he).2⟩ <;> rw [hK', hrest]
  · exact List.append_ne_nil_of_left_ne_nil he.1 _
  · rw [head?_append_of_ne_nil he.1]
    exact fun hc => he.2 (List.mem_of_mem_head? hc)

/-- The characters `path.Clean` writes out: a slash for a rooted path, then the
kept elements with slashes between them. -/
theorem render_toList {rooted : Bool} {kept : List (List Char)}
    (hB : (kept.reverse.intersperse ['/']).flatten ≠ []) :
    (render rooted kept).toList =
      (if rooted then ['/'] else []) ++ (kept.reverse.intersperse ['/']).flatten := by
  have hbody : String.mk (kept.reverse.intersperse ['/']).flatten ≠ "" :=
    fun h => hB (congrArg String.data h)
  cases rooted
  · simp only [render, Bool.false_eq_true, if_false, if_neg hbody]
    rfl
  · rfl

/-- `path.Clean` never writes out the empty path. -/
theorem render_ne_empty (rooted : Bool) (kept : List (List Char)) : render rooted kept ≠ "" := by
  unfold render
  cases rooted
  · simp only [Bool.false_eq_true, if_false]
    split
    · decide
    · assumption
  · exact fun h => List.cons_ne_nil _ _ (congrArg String.data h)

/-- `path.Clean` of a non-empty path writes out what its pass kept. -/
theorem clean_eq_render {p : String} (hp : p ≠ "") :
    clean p = render (decide (p.toList.head? = some '/'))
      ((splitSlash p.toList).foldl (cleanStep (decide (p.toList.head? = some '/'))) []) := by
  simp only [clean, hp, if_false, render, decide_eq_true_eq]

/-- Cleaning what `path.Clean` writes out from kept elements gives it back. -/
theorem clean_render {rooted : Bool} {kept : List (List Char)} (h : Kept rooted kept) :
    clean (render rooted kept) = render rooted kept := by
  by_cases hk : kept = []
  · subst hk; cases rooted <;> rfl
  obtain ⟨hne, hhead, hsplit⟩ := h.body hk
  rw [clean_eq_render (render_ne_empty rooted kept), render_toList hne]
  cases rooted
  · simp only [Bool.false_eq_true, if_false, List.nil_append, hhead, decide_False, hsplit,
      foldl_cleanStep_reverse h]
  · simp only [if_true, List.singleton_append, List.head?_cons, decide_True,
      splitSlash_cons_slash, List.foldl_cons, cleanStep_nil, hsplit, foldl_cleanStep_reverse h]


/-- **`path.Clean` is idempotent.** Its output is already clean. -/
theorem clean_clean (p : String) : clean (clean p) = clean p := by
  by_cases hp : p = ""
  · subst hp; rfl
  · rw [clean_eq_render hp]
    exact clean_render (foldl_cleanStep_kept _ (fun _ he => not_mem_of_mem_splitSlash he) (Kept.nil _))

/-- Cleaning keeps a path rooted. -/
theorem isAbs_clean {p : String} (h : isAbs p = true) : isAbs (clean p) = true := by
  have hp : p ≠ "" := by rintro rfl; cases h
  have hr : decide (p.toList.head? = some '/') = true := h
  rw [clean_eq_render hp, hr]
  rfl

/-- Joining to a rooted path gives a rooted path. -/
theorem isAbs_join {a : String} (b : String) (h : isAbs a = true) : isAbs (join a b) = true := by
  have ha : a ≠ "" := by rintro rfl; cases h
  simp only [join, ha, ne_eq, not_false_eq_true, if_true]
  apply isAbs_clean
  simpa only [isAbs, toList_append_slash,
    head?_append_of_ne_nil (fun h' => ha (String.ext h') : a.toList ≠ [])] using h


/-! ### The directory of a joined path -/
/-- Written out with slashes, a list with a name appended ends with a slash and
the name. -/
theorem flatten_intersperse_append_singleton (K : List (List Char)) (f : List Char) :
    ((K ++ [f]).intersperse ['/']).flatten =
      if K = [] then f else (K.intersperse ['/']).flatten ++ '/' :: f := by
  induction K with
  | nil => simp
  | cons e K ih =>
    cases K with
    | nil => simp
    | cons e' K =>
      simp only [List.cons_append, List.intersperse_cons₂, List.flatten_cons] at ih ⊢
      simp [ih]

/-- `path.Split`'s directory part of a path ending in a slash and a name. -/
theorem reverse_dropWhile_slash (L f : List Char) (hf : '/' ∉ f) :
    ((L ++ '/' :: f).reverse.dropWhile (· ≠ '/')).reverse = L ++ ['/'] := by
  have hrev : (L ++ '/' :: f).reverse = f.reverse ++ '/' :: L.reverse := by simp
  rw [hrev, List.dropWhile_append_of_pos (fun c hc => by
    have : c ≠ '/' := fun h => hf (h ▸ List.mem_reverse.1 hc)
    simpa using this)]
  simp [List.dropWhile_cons]

/-- A name without a slash has an empty directory part. -/
theorem dropWhile_not_slash (f : List Char) (hf : '/' ∉ f) :
    f.reverse.dropWhile (· ≠ '/') = [] := by
  rw [← List.append_nil f.reverse, List.dropWhile_append_of_pos (fun c hc => by
    have : c ≠ '/' := fun h => hf (h ▸ List.mem_reverse.1 hc)
    simpa using this)]
  rfl

/-- A trailing slash does not change what `path.Clean` gives. -/
theorem clean_append_slash {cs : List Char} (hcs : cs ≠ []) :
    clean (String.mk (cs ++ ['/'])) = clean (String.mk cs) := by
  have h₁ : String.mk (cs ++ ['/']) ≠ "" := fun h => by simpa using congrArg String.data h
  have h₂ : String.mk cs ≠ "" := fun h => hcs (congrArg String.data h)
  rw [clean_eq_render h₁, clean_eq_render h₂]
  have hsplit : splitSlash (cs ++ ['/']) = splitSlash cs ++ [[]] := splitSlash_append_slash cs []
  simp only [String.toList, head?_append_of_ne_nil hcs, hsplit, List.foldl_append,
    List.foldl_cons, List.foldl_nil, cleanStep_nil]

/-- A path with a name added: the pass keeps the name above what it kept. -/
theorem join_eq_render {p : String} (hp : p ≠ "") {f : String} (hf : Regular f.toList) :
    join p f = render (decide (p.toList.head? = some '/'))
      (f.toList :: (splitSlash p.toList).foldl (cleanStep (decide (p.toList.head? = some '/'))) []) := by
  have hne : p ++ "/" ++ f ≠ "" := fun h => by simpa using congrArg String.data h
  have hp' : p.toList ≠ [] := fun h => hp (String.ext h)
  simp only [join, hp, ne_eq, not_false_eq_true, if_true]
  rw [clean_eq_render hne, toList_append_slash, head?_append_of_ne_nil hp', splitSlash_append_slash,
    splitSlash_of_not_mem hf.2.2.2, List.foldl_append, List.foldl_cons, List.foldl_nil,
    cleanStep_regular _ _ hf]

/-- Written out, a name added above non-empty kept elements follows them after
a slash. -/
theorem render_cons_toList {rooted : Bool} {kept : List (List Char)} (h : Kept rooted kept)
    (hk : kept ≠ []) (f : List Char) :
    (render rooted (f :: kept)).toList = (render rooted kept).toList ++ '/' :: f := by
  have hbody : ((f :: kept).reverse.intersperse ['/']).flatten =
      (kept.reverse.intersperse ['/']).flatten ++ '/' :: f := by
    rw [List.reverse_cons, flatten_intersperse_append_singleton, if_neg (by simpa using hk)]
  rw [render_toList (by rw [hbody]; simp), render_toList (h.body hk).1, hbody, List.append_assoc]

/-- A single name written out is the name itself. -/
theorem render_singleton {f : String} (hf : f.toList ≠ []) :
    render false [f.toList] = f ∧ (render true [f.toList]).toList = '/' :: f.toList := by
  have hne : String.mk f.data ≠ "" := fun h => hf (congrArg String.data h)
  exact ⟨by simp [render, hne], by simp [render]⟩

/-- **The directory of a name joined to a path is the cleaned path.** For
every path `p` and every name that is not empty, `.` or `..` and holds no
slash, `path.Dir(path.Join(p, name))` is `path.Clean(p)`, whatever dots and
slashes `p` holds. -/
theorem dir_join (p : String) {f : String} (hf : Regular f.toList) : dir (join p f) = clean p := by
  by_cases hp : p = ""
  · subst hp
    have hfne : f ≠ "" := fun h => hf.1 (by rw [h]; rfl)
    have hkept : Kept false [f.toList] := ⟨[f.toList], 0, rfl, by simpa using hf, by simp⟩
    have hcf : clean f = f := (render_singleton hf.1).1 ▸ clean_render hkept
    simp only [join, ne_eq, not_true_eq_false, if_false, hfne, not_false_eq_true, if_true, hcf,
      dir, dropWhile_not_slash _ hf.2.2.2]
    rfl
  have hK : Kept (decide (p.toList.head? = some '/'))
      ((splitSlash p.toList).foldl (cleanStep (decide (p.toList.head? = some '/'))) []) :=
    foldl_cleanStep_kept _ (fun _ he => not_mem_of_mem_splitSlash he) (Kept.nil _)
  rw [join_eq_render hp hf, clean_eq_render hp]
  generalize decide (p.toList.head? = some '/') = rooted at hK ⊢
  generalize (splitSlash p.toList).foldl (cleanStep rooted) [] = kept at hK ⊢
  by_cases hk : kept = []
  · subst hk
    unfold dir
    cases rooted
    · rw [(render_singleton hf.1).1, dropWhile_not_slash _ hf.2.2.2]
      rfl
    · rw [(render_singleton hf.1).2, show '/' :: f.toList = [] ++ '/' :: f.toList from rfl,
        reverse_dropWhile_slash _ _ hf.2.2.2]
      rfl
  · unfold dir
    rw [render_cons_toList hK hk, reverse_dropWhile_slash _ _ hf.2.2.2,
      clean_append_slash (show (render rooted kept).toList ≠ [] from
        fun h => render_ne_empty rooted kept (String.ext h))]
    exact clean_render hK

/-- `StatVFS`'s probe under a request path with a `..`, an empty element, a
`.` and a trailing slash: it lies in `/b`. -/
theorem dir_join_fakefile :
    Regular "fakefile.txt".toList ∧
      dir (join "/a/..//b/./" "fakefile.txt") = clean "/a/..//b/./" ∧ clean "/a/..//b/./" = "/b" :=
  ⟨by decide, dir_join "/a/..//b/./" (by decide), by decide⟩

end GoPath

namespace Util

/-- Modelled from the spec: `util.CleanPathWithBase`, which normalises a path
"against a configured start-directory": a relative `p` is joined to `base`, and
the result is cleaned. -/
def cleanPathWithBase (base p : String) : String :=
  GoPath.clean (if GoPath.isAbs p then p else GoPath.join base p)

/-- Modelled from the spec: `util.CleanPath`, which normalises a path "against
the root". -/
def cleanPath (p : String) : String :=
  cleanPathWithBase "/" p


/-- With a rooted base, the normalised path is rooted. -/
theorem isAbs_cleanPathWithBase {base : String} (hb : GoPath.isAbs base = true) (p : String) :
    GoPath.isAbs (cleanPathWithBase base p) = true := by
  unfold cleanPathWithBase
  split
  · exact GoPath.isAbs_clean ‹_›
  · exact GoPath.isAbs_clean (GoPath.isAbs_join p hb)

/-- **Normalising against a rooted base is idempotent.** -/
theorem cleanPathWithBase_cleanPathWithBase {base : String} (hb : GoPath.isAbs base = true)
    (p : String) : cleanPathWithBase base (cleanPathWithBase base p) = cleanPathWithBase base p := by
  show GoPath.clean (if GoPath.isAbs (cleanPathWithBase base p) then _ else _) = _
  rw [if_pos (isAbs_cleanPathWithBase hb p)]
  exact GoPath.clean_clean _

end Util

end SftpGo
