/-
  CodeAudit.Proofs.Site.Storage
  ─────────────────────────────
  **WHERE UPLOADED FILES ARE STORED.**

  What follows the last point of a file's name is kept in the path of the
  stored file.  It is of the sender's choice and may hold slashes, or be the
  whole name; but it holds no point.  So the path leads nowhere but down.

    • `foldl_walk` — a path without dots as components is walked component by
      component, and the empty ones are passed over,
    • `components_storedPath` — the components of the path of a stored file,
    • `acceptable_iff` — the form accepts the names of modules,
    • `stored_in_own_directory` — whatever the name, the path lies strictly
      inside the directory of the owner.
-/
import CodeAudit.Audit.Project
import CodeAudit.Proofs.Site.Acceptance

namespace CodeAudit.Site

open CodeAudit.Audit (components)

/-! ## §1. Paths and their normal form. -/

/-- The slashes at the front of a path that its normal form keeps.  Exactly two
stay two, more count as one. -/
def root (path : String) : String :=
  if Text.startsWith ['/'] path.toList then
    if Text.startsWith ['/', '/'] path.toList && !Text.startsWith ['/', '/', '/'] path.toList then
      "//"
    else "/"
  else ""

/-- Walk on by one component.  The way so far is given with its last component
first; there is no way up from the root. -/
def walk (rooted : Bool) (way : List String) (component : String) : List String :=
  if component = "" ∨ component = "." then way
  else if component = ".." then
    match way with
    | [] => if rooted then [] else [".."]
    | last :: earlier => if last = ".." then ".." :: last :: earlier else earlier
  else component :: way

/-- The normal form of a path: the way that its components lead. -/
def normalForm (path : String) : String :=
  let way := (components path).foldl (walk (root path != "")) []
  let text := root path ++ Text.joinWith "/" way.reverse
  if text = "" then "." else text

example : normalForm "//a/./b//../../../c" = "//c" ∧ normalForm "a/../../b/" = "../b" := by
  decide +kernel

/-- A component that names something. -/
structure Naming (component : String) : Prop where
  filled : component ≠ ""
  noDot : component ≠ "."
  noDots : component ≠ ".."
  noSlash : '/' ∉ component.toList

/-- A path in normal form that lies strictly inside a directory. -/
def StrictlyInside (directory path : String) : Prop :=
  ∃ inner : List String, inner ≠ [] ∧ (∀ component ∈ inner, Naming component) ∧
    path = Text.joinWith "/" (directory :: inner)

section

variable {front path component : String}

/-- A slash ends a component. -/
theorem components_slash (h : '/' ∉ front.toList) (rest : String) :
    components (front ++ "/" ++ rest) = front :: components rest := by
  have htext : (front ++ "/" ++ rest).toList = front.toList ++ '/' :: rest.toList := by
    simp [String.toList_append]
  unfold components
  rw [htext, Text.cutAt_append (Text.uncut_of_not_mem h) rfl, List.map_cons, String.ofList_toList]

/-- What holds no slash goes with the first component of what follows. -/
theorem components_front (h : '/' ∉ front.toList) (rest : String) :
    ∃ first more, components rest = first :: more ∧
      components (front ++ rest) = (front ++ first) :: more := by
  unfold components
  obtain ⟨piece, pieces, hpieces⟩ :=
    List.exists_cons_of_ne_nil (Text.cutAt_ne_nil (· == '/') rest.toList)
  refine ⟨String.ofList piece, pieces.map String.ofList, by rw [hpieces]; rfl, ?_⟩
  rw [String.toList_append, Text.cutAt_front (Text.uncut_of_not_mem h), hpieces,
    List.modifyHead_cons, List.map_cons, String.ofList_append, String.ofList_toList]

theorem mem_of_mem_component (h : component ∈ components path) {c : Char}
    (hc : c ∈ component.toList) : c ∈ path.toList ∧ c ≠ '/' := by
  obtain ⟨piece, hpiece, rfl⟩ := List.mem_map.mp h
  rw [String.toList_ofList] at hc
  obtain ⟨hmem, hslash⟩ := Text.of_mem_cutAt hpiece hc
  exact ⟨hmem, beq_eq_false_iff_ne.mp hslash⟩

/-- A path without dots as components is walked component by component. -/
theorem foldl_walk (rooted : Bool) {parts : List String} (h : ∀ c ∈ parts, c ≠ "." ∧ c ≠ "..")
    (way : List String) :
    parts.foldl (walk rooted) way = (parts.filter (· ≠ "")).reverse ++ way := by
  induction parts generalizing way with
  | nil => rfl
  | cons c parts ih =>
      have hparts := ih fun d hd => h d (List.mem_cons_of_mem c hd)
      obtain ⟨hdot, hdots⟩ := h c List.mem_cons_self
      rw [List.foldl_cons, hparts]
      -- An empty component leaves the way as it is, any other one is a step down.
      by_cases hempty : c = ""
      · simp [walk, hempty]
      · simp [walk, hempty, hdot, hdots]

/-- The normal form of a relative path without dots as components. -/
theorem normalForm_of_plain {directory : String} {parts : List String} (hroot : root path = "")
    (hpath : components path = directory :: parts) (hdirectory : directory ≠ "")
    (h : ∀ c ∈ components path, c ≠ "." ∧ c ≠ "..") :
    normalForm path = Text.joinWith "/" (directory :: parts.filter (· ≠ "")) := by
  have hparts : (components path).filter (· ≠ "") = directory :: parts.filter (· ≠ "") := by
    rw [hpath]
    simp [hdirectory]
  have hfilled : Text.joinWith "/" (directory :: parts.filter (· ≠ "")) ≠ "" := by
    cases parts.filter (· ≠ "") with
    | nil => exact hdirectory
    | cons next more => simp [Text.joinWith, hdirectory]
  unfold normalForm
  simp only [foldl_walk _ h, hparts, hroot, List.append_nil, List.reverse_reverse,
    String.empty_append]
  exact if_neg hfilled

end

/-! ## §2. Points in components. -/

section

variable {component : String}

/-- Without a point a component is no dots. -/
theorem ne_dots_of_no_point (h : '.' ∉ component.toList) : component ≠ "." ∧ component ≠ ".." := by
  constructor
  · rintro rfl
    exact h (by decide)
  · rintro rfl
    exact h (by decide)

/-- With anything but points a component is no dots. -/
theorem ne_dots_of_mem {c : Char} (hc : c ∈ component.toList) (hpoint : c ≠ '.') :
    component ≠ "." ∧ component ≠ ".." := by
  constructor
  · rintro rfl
    exact hpoint (by simpa using hc)
  · rintro rfl
    exact hpoint (by simpa using hc)

end

/-! ## §3. Keys and endings. -/

/-- A key: 32 hexadecimal digits. -/
structure IsKey (key : String) : Prop where
  length : key.length = 32
  digits : key.toList.all Text.isHexDigit = true

section

variable {key name : String} {c : Char}

theorem IsKey.not_mem (hkey : IsKey key) (hc : Text.isHexDigit c = false) : c ∉ key.toList := by
  intro hmem
  rw [List.all_eq_true.mp hkey.digits c hmem] at hc
  cases hc

/-- A key holds something that is no point. -/
theorem IsKey.exists_mem (hkey : IsKey key) : ∃ c ∈ key.toList, c ≠ '.' := by
  have hlength : key.toList.length = 32 := hkey.length
  obtain ⟨c, rest, hcons⟩ := List.exists_cons_of_length_pos (by omega : 0 < key.toList.length)
  have hmem : c ∈ key.toList := by
    rw [hcons]
    exact List.mem_cons_self
  refine ⟨c, hmem, ?_⟩
  rintro rfl
  exact hkey.not_mem (by decide) hmem

theorem not_mem_ownDirectory (hdigit : c.isDigit = false) (hdash : c ≠ '-')
    (hfixed : c ∉ "user_".toList) (owner : Int) : c ∉ (ownDirectory owner).toList := by
  unfold ownDirectory
  rw [String.toList_append, List.mem_append, not_or]
  exact ⟨hfixed, Text.not_mem_toString hdigit hdash owner⟩

theorem no_point_storedEnding (name : String) : '.' ∉ (storedEnding name).toList := by
  unfold storedEnding
  rw [String.toList_ofList]
  exact Text.not_mem_afterLast '.' name.toList

/-- A module is stored as one. -/
theorem storedEnding_module (stem : String) : storedEnding (stem ++ ".py") = "py" := by
  have hname : (stem ++ ".py").toList = stem.toList ++ '.' :: "py".toList := by
    rw [String.toList_append]
    rfl
  unfold storedEnding
  rw [hname, Text.afterLast_append _ (by decide), String.ofList_toList]

end

/-! ## §4. The path of a stored file. -/

section

variable {key : String} (hkey : IsKey key) (owner : Int) (name : String)

include hkey

/-- The components of the path: the directory, the key with the first component
of the ending, and the further ones. -/
theorem components_storedPath :
    ∃ first more, components (storedEnding name) = first :: more ∧
      components (storedPath owner key name)
        = ownDirectory owner :: (key ++ "." ++ first) :: more := by
  have hdirectory : '/' ∉ (ownDirectory owner).toList :=
    not_mem_ownDirectory (by decide) (by decide) (by decide) owner
  have hfront : '/' ∉ (key ++ ".").toList := by
    rw [String.toList_append, List.mem_append, not_or]
    exact ⟨hkey.not_mem (by decide), by decide⟩
  have hpath : storedPath owner key name
      = ownDirectory owner ++ "/" ++ ((key ++ ".") ++ storedEnding name) := by
    unfold storedPath
    simp only [String.append_assoc]
  obtain ⟨first, more, hending, hrest⟩ := components_front hfront (storedEnding name)
  refine ⟨first, more, hending, ?_⟩
  rw [hpath, components_slash hdirectory, hrest]

/-- There is one point in the path: the one before the ending. -/
theorem count_point_storedPath : (storedPath owner key name).toList.count '.' = 1 := by
  have hdirectory : (ownDirectory owner).toList.count '.' = 0 :=
    List.count_eq_zero.mpr (not_mem_ownDirectory (by decide) (by decide) (by decide) owner)
  have hdigits : key.toList.count '.' = 0 := List.count_eq_zero.mpr (hkey.not_mem (by decide))
  have hending : (storedEnding name).toList.count '.' = 0 :=
    List.count_eq_zero.mpr (no_point_storedEnding name)
  have hslash : "/".toList.count '.' = 0 := by decide
  have hpoint : ".".toList.count '.' = 1 := by decide
  unfold storedPath
  simp only [String.toList_append, List.count_append]
  omega

/-- No component is a dot or two: the first and the further ones hold no point,
the second holds a digit. -/
theorem no_dots_storedPath :
    ∀ c ∈ components (storedPath owner key name), c ≠ "." ∧ c ≠ ".." := by
  obtain ⟨first, more, hending, hpath⟩ := components_storedPath hkey owner name
  rw [hpath]
  intro c hc
  rcases List.mem_cons.mp hc with rfl | hc
  · exact ne_dots_of_no_point (not_mem_ownDirectory (by decide) (by decide) (by decide) owner)
  rcases List.mem_cons.mp hc with rfl | hc
  · obtain ⟨d, hd, hpoint⟩ := hkey.exists_mem
    have hmem : d ∈ (key ++ "." ++ first).toList := by
      simp only [String.toList_append, List.mem_append]
      exact .inl (.inl hd)
    exact ne_dots_of_mem hmem hpoint
  · have hmem : c ∈ components (storedEnding name) := by
      rw [hending]
      exact List.mem_cons_of_mem first hc
    apply ne_dots_of_no_point
    intro hpoint
    exact no_point_storedEnding name (mem_of_mem_component hmem hpoint).1

end

/-- The path does not begin at the root. -/
theorem head?_storedPath (owner : Int) (key name : String) :
    (storedPath owner key name).toList.head? = some 'u' := by
  unfold storedPath ownDirectory
  simp only [String.append_assoc]
  rw [String.toList_append]
  rfl

theorem root_of_head? {path : String} (h : path.toList.head? ≠ some '/') : root path = "" := by
  have hfront : ¬ Text.startsWith ['/'] path.toList = true := by
    intro hslash
    obtain ⟨rest, hpath⟩ := List.isPrefixOf_iff_prefix.mp hslash
    exact h (by rw [← hpath]; rfl)
  exact if_neg hfront

/-- **The normal form of the path** keeps the directory and goes on from it. -/
theorem strictlyInside_storedPath {key : String} (hkey : IsKey key) (owner : Int) (name : String) :
    StrictlyInside (ownDirectory owner) (normalForm (storedPath owner key name)) := by
  obtain ⟨first, more, -, hpath⟩ := components_storedPath hkey owner name
  have hplain := no_dots_storedPath hkey owner name
  have hroot : root (storedPath owner key name) = "" :=
    root_of_head? (by rw [head?_storedPath]; decide)
  have hdirectory : ownDirectory owner ≠ "" := by
    unfold ownDirectory
    simp
  refine ⟨((key ++ "." ++ first) :: more).filter (· ≠ ""), ?_, ?_,
    normalForm_of_plain hroot hpath hdirectory hplain⟩
  · rw [List.filter_cons_of_pos (by simp)]
    exact List.cons_ne_nil _ _
  · intro c hc
    obtain ⟨hmem, hne⟩ := List.mem_filter.mp hc
    have hcomponent : c ∈ components (storedPath owner key name) := by
      rw [hpath]
      exact List.mem_cons_of_mem _ hmem
    obtain ⟨hdot, hdots⟩ := hplain c hcomponent
    refine ⟨by simpa using hne, hdot, hdots, ?_⟩
    intro hslash
    exact (mem_of_mem_component hcomponent hslash).2 rfl

/-! ## §5. Accepted names. -/

/-- A name under which some submission was accepted with a file. -/
def Acceptable (name : String) : Prop :=
  ∃ (s : Submission) (a : Accepted), s.check = .ok a ∧ ∃ f ∈ a.files, f.name = name

/-- The form accepts the names of modules, and no others. -/
theorem acceptable_iff {name : String} : Acceptable name ↔ ∃ stem, name = stem ++ ".py" := by
  constructor
  · rintro ⟨s, a, hcheck, f, hf, rfl⟩
    obtain ⟨-, hfiles, -⟩ := check_ok_iff.mp hcheck
    obtain ⟨hsame, hsound⟩ := checkFiles_ok_iff.mp hfiles
    rw [hsame] at hf
    exact (hsound f hf).named
  · intro hnamed
    have hsound : ∀ f ∈ [SentFile.mk name [0]], f.Sound := by
      intro f hf
      rw [List.mem_singleton.mp hf]
      exact ⟨List.cons_ne_nil _ _, hnamed⟩
    have hproject : checkProjectName (some "p") = .ok "p" := by
      apply checkText_ok_iff.mpr
      decide +kernel
    have hwish : checkWish (some "tests") = .ok Wish.tests := checkWish_ok_iff.mpr rfl
    have hfiles := checkFiles_ok_iff.mpr ⟨rfl, hsound⟩
    refine ⟨⟨some "p", some "tests", [⟨name, [0]⟩]⟩, ⟨"p", .tests, [⟨name, [0]⟩]⟩,
      check_ok_iff.mpr ⟨hproject, hfiles, hwish⟩, ?_⟩
    exact ⟨⟨name, [0]⟩, List.mem_singleton.mpr rfl, rfl⟩

/-- A relative path into a directory, with one point and with no dots as
components, that leads strictly into that directory. -/
structure KeptIn (directory path : String) : Prop where
  relative : path.toList.head? ≠ some '/'
  under : ∃ rest, path = directory ++ "/" ++ rest
  onePoint : path.toList.count '.' = 1
  noDots : ∀ component ∈ components path, component ≠ "." ∧ component ≠ ".."
  inside : StrictlyInside directory (normalForm path)

/-- **Stored files stay with their owner.**  Whatever a file is called, its path
lies in the directory of the owner; and under a name that the form accepts it
is stored as a module right there. -/
theorem stored_in_own_directory {key : String} (hkey : IsKey key) (owner : Int) (name : String) :
    KeptIn ("user_" ++ toString owner) (storedPath owner key name) ∧
      (Acceptable name →
        storedPath owner key name = "user_" ++ toString owner ++ "/" ++ key ++ ".py") := by
  constructor
  · refine ⟨by rw [head?_storedPath]; decide, ?_, count_point_storedPath hkey owner name,
      no_dots_storedPath hkey owner name, strictlyInside_storedPath hkey owner name⟩
    refine ⟨key ++ "." ++ storedEnding name, ?_⟩
    unfold storedPath ownDirectory
    simp only [String.append_assoc]
  · intro hname
    obtain ⟨stem, rfl⟩ := acceptable_iff.mp hname
    unfold storedPath ownDirectory
    rw [storedEnding_module, String.append_assoc]
    rfl

/-- A name that climbs and has no point behind its slashes, and a module that
climbs. -/
theorem stored_in_own_directory_climbing :
    IsKey (storageKey 1) ∧
      storedPath 7 (storageKey 1) "../..//etc/passwd"
        = "user_7/00000000000000000000000000000001.//etc/passwd" ∧
      KeptIn "user_7" "user_7/00000000000000000000000000000001.//etc/passwd" ∧
      normalForm "user_7/00000000000000000000000000000001.//etc/passwd"
        = "user_7/00000000000000000000000000000001./etc/passwd" ∧
      Acceptable "../a.b.py" ∧
      storedPath 7 (storageKey 1) "../a.b.py" = "user_7/00000000000000000000000000000001.py" := by
  have hkey : IsKey (storageKey 1) := ⟨by decide +kernel, by decide +kernel⟩
  have hdirectory : "user_" ++ toString (7 : Int) = "user_7" := by decide +kernel
  have hpath : storedPath 7 (storageKey 1) "../..//etc/passwd"
      = "user_7/00000000000000000000000000000001.//etc/passwd" := by
    decide +kernel
  have hmodule : "user_" ++ toString (7 : Int) ++ "/" ++ storageKey 1 ++ ".py"
      = "user_7/00000000000000000000000000000001.py" := by
    decide +kernel
  have hname : Acceptable "../a.b.py" := acceptable_iff.mpr ⟨"../a.b", by decide +kernel⟩
  have hkept := (stored_in_own_directory hkey 7 "../..//etc/passwd").1
  have hstored := (stored_in_own_directory hkey 7 "../a.b.py").2 hname
  rw [hdirectory, hpath] at hkept
  rw [hmodule] at hstored
  exact ⟨hkey, hpath, hkept, by decide +kernel, hname, hstored⟩

end CodeAudit.Site
