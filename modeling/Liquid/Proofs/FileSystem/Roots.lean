import Liquid.Proofs.Except
import Liquid.Proofs.FileSystem.Path

/-!
# Templates stay below their roots

Names of templates come from template texts, so that a name must not lead to any other file of the
disk than the ones below the roots.

- `Disk.IsFile`: there is a file at a path.
- `LocalTemplates.Below`: what the path of a template looks like.
- `LocalTemplates.readFirst_append`, `LocalTemplates.readFirst_none`: which of several paths is
  read.
- `LocalTemplates.stays_below_roots`: which names are taken, where they lead to, and which files
  are read.
-/

namespace Liquid

open Text

/-- There is a file at a path: it has contents, or cannot be read for a reason of its own. -/
def Disk.IsFile (disk : Disk) (path : String) : Prop :=
  match disk.readText path with
  | .ok _ | .error .notText | .error (.other _) => True
  | .error _ => False

namespace LocalTemplates

/-! ### The path of a name -/

/-- What the path of a template looks like: the name with a file name in the place of its last
part. -/
structure Below (name path : String) : Prop where
  /-- The path is relative. -/
  relative : path.toList.head? ≠ some '/'
  /-- No part of the path stands for a directory by its place. -/
  plain : "." ∉ FileTree.components path ∧ ".." ∉ FileTree.components path
  /-- The path holds nothing but characters of names around the fixed parts of the file name. -/
  parts : ∃ front base, name.toList = front ++ base ∧ IsFront front ∧ '/' ∉ base ∧
    path.toList = front ++ '_' :: (base ++ ".liquid".toList) ∧
    (FileTree.components path).getLast? = some ("_" ++ String.ofList base ++ ".liquid") ∧
    ∀ c ∈ front ++ base, IsPathChar c
  /-- What the path leads to from a directory does not depend on what is above the directory. -/
  confined : ∀ (directory : FileTree) (above : List FileTree),
    directory.walk above (FileTree.components path) =
      directory.walk [] (FileTree.components path)

variable {roots : List String} {disk : Disk}

theorem relativePath_eq (name : String) :
    (ofRoots roots disk).relativePath name =
      if isLegalName name.toList then
        .ok (partialPath ({} : Settings).templatePattern name)
      else .error (.illegalTemplateName name) := rfl

theorem relativePath_eq_ok_iff {name path : String} :
    (ofRoots roots disk).relativePath name = .ok path ↔
      isLegalName name.toList = true ∧ path = partialPath ({} : Settings).templatePattern name := by
  rw [relativePath_eq]
  split
  · next h => simp [h, eq_comm]
  · next h => simp [h]

theorem relativePath_eq_error_iff {name : String} {e : Error} :
    (ofRoots roots disk).relativePath name = .error e ↔
      ¬ isLegalName name.toList = true ∧ e = .illegalTemplateName name := by
  rw [relativePath_eq]
  split
  · next h => simp [h]
  · next h => simp [h, eq_comm]

/-- The path of a name that is cut behind its last slash. -/
theorem toList_relativePath {name path : String} {front base : List Char}
    (hname : name.toList = front ++ base) (hfront : IsFront front) (hbase : '/' ∉ base)
    (h : (ofRoots roots disk).relativePath name = .ok path) :
    path.toList = front ++ fileName base := by
  obtain ⟨-, rfl⟩ := relativePath_eq_ok_iff.1 h
  rw [← toList_partialPath hfront hbase, ← hname, String.ofList_toList]

theorem below_of_relativePath {name path : String}
    (h : (ofRoots roots disk).relativePath name = .ok path) : Below name path := by
  obtain ⟨hne, hslash, hchars⟩ := isLegalName_iff.1 (relativePath_eq_ok_iff.1 h).1
  obtain ⟨front, base, hname, hfront, hbase⟩ := exists_lastSlash name.toList
  have hpath := toList_relativePath hname hfront hbase h
  obtain ⟨directories, hsplit, hsubset⟩ :=
    exists_splitOn_append hfront (not_mem_fileName hbase)
  have hcomponents : FileTree.components path =
      (directories ++ [fileName base]).map String.ofList := by
    rw [FileTree.components_eq, hpath, hsplit]
  rw [hname] at hchars hslash
  -- no directory of the name holds a dot, and the name of the file begins with `_`
  have hdots : ∀ part : List Char, '.' ∈ part → part.head? ≠ some '_' →
      String.ofList part ∉ FileTree.components path := by
    intro part hdot hhead hmem
    rw [hcomponents] at hmem
    obtain ⟨part', hpart, heq⟩ := List.mem_map.1 hmem
    rw [String.ofList_inj] at heq
    subst heq
    rcases List.mem_append.1 hpart with hpart | hpart
    · have hc := hchars '.' (List.mem_append_left _ (hsubset _ hpart hdot))
      exact absurd hc (by rintro (h | h | h) <;> exact absurd h (by decide))
    · rw [List.mem_singleton.1 hpart] at hhead
      exact hhead rfl
  have hplain : "." ∉ FileTree.components path := hdots ['.'] (by decide) (by decide)
  have hup : ".." ∉ FileTree.components path := hdots ['.', '.'] (by decide) (by decide)
  refine ⟨?_, ⟨hplain, hup⟩, ⟨front, base, hname, hfront, hbase, hpath, ?_, hchars⟩, ?_⟩
  · rw [hpath]
    cases front with
    | nil =>
      rintro ⟨⟩
    | cons c rest => exact hslash
  · have hlast : String.ofList (fileName base) = "_" ++ String.ofList base ++ ".liquid" := by
      rw [← String.toList_inj]
      simp [fileName]
    rw [hcomponents, List.map_append, List.getLast?_append, ← hlast]
    rfl
  · intro directory above
    exact FileTree.walk_above hup directory above []

/-- Different names have different paths. -/
theorem relativePath_injective {name name' path : String}
    (h : (ofRoots roots disk).relativePath name = .ok path)
    (h' : (ofRoots roots disk).relativePath name' = .ok path) : name = name' := by
  obtain ⟨front, base, hname, hfront, hbase⟩ := exists_lastSlash name.toList
  obtain ⟨front', base', hname', hfront', hbase'⟩ := exists_lastSlash name'.toList
  have hpath := toList_relativePath hname hfront hbase h
  rw [toList_relativePath hname' hfront' hbase' h'] at hpath
  obtain ⟨rfl, hfile⟩ := lastSlash_unique hfront' hfront (not_mem_fileName hbase')
    (not_mem_fileName hbase) hpath
  have hbases : base' = base := fileName_injective hfile
  rw [← String.toList_inj, hname, hname', hbases]

/-! ### The root that is read below -/

/-- The place of a path below a root. -/
def place (root path : String) : String :=
  if root = "" ∨ root.toList.getLast? = some '/' then root ++ path else root ++ "/" ++ path

theorem joinPath_eq_place {root path : String} (h : path.toList.head? ≠ some '/') :
    joinPath root path = place root path := by
  have hempty : root.toList.getLast? = none ↔ root = "" := by
    rw [List.getLast?_eq_none_iff, ← String.toList_inj]
    rfl
  unfold joinPath place
  split
  · next hpath =>
    rw [hpath] at h
    exact absurd rfl h
  · next hnone _ =>
    rw [if_pos (.inl (hempty.1 hnone)), hempty.1 hnone, String.empty_append]
  · next hslash _ => rw [if_pos (.inr hslash)]
  · next c hother hlast _ =>
    have hroot : ¬ (root = "" ∨ root.toList.getLast? = some '/') := by
      rw [← hempty, hlast]
      rintro (h | h)
      · cases h
      · exact hother (Option.some.inj h)
    rw [if_neg hroot]

theorem readFirst_cons_of_isFile {name path : String} (rest : List String)
    (h : disk.IsFile path) :
    readFirst disk name (path :: rest) =
      (disk.readText path).mapError fun problem => .missingInclude (.unreadable path problem) := by
  unfold Disk.IsFile at h
  rw [readFirst]
  cases hread : disk.readText path with
  | ok text => rfl
  | error problem =>
    rw [hread] at h
    cases problem with
    | notText => rfl
    | other text => rfl
    | notFound | notDirectory | isDirectory | nameTooLong | nullInPath => exact h.elim

theorem readFirst_cons_of_not_isFile {name path : String} (rest : List String)
    (h : ¬ disk.IsFile path) : readFirst disk name (path :: rest) = readFirst disk name rest := by
  unfold Disk.IsFile at h
  rw [readFirst]
  cases hread : disk.readText path with
  | ok text =>
    rw [hread] at h
    exact absurd trivial h
  | error problem =>
    rw [hread] at h
    cases problem with
    | notText => exact absurd trivial h
    | other text => exact absurd trivial h
    | notFound | notDirectory | isDirectory | nameTooLong | nullInPath => rfl

/-- How a template is read: below the first root where there is a file at its path, and nowhere
else. -/
structure ReadBelow (fs : LocalTemplates) (name path : String) : Prop where
  /-- The full path is the place below the first root. -/
  full : fs.fullPath name = .ok (fs.roots.head?.elim path (place · path))
  /-- The first file is read, and its text is the template. -/
  first : ∀ before root after, fs.roots = before ++ root :: after →
    (∀ other ∈ before, ¬ fs.disk.IsFile (place other path)) → fs.disk.IsFile (place root path) →
    fs.read name = (fs.disk.readText (place root path)).mapError fun problem =>
      .missingInclude (.unreadable (place root path) problem)
  /-- Without a file there is no template. -/
  missing : (∀ root ∈ fs.roots, ¬ fs.disk.IsFile (place root path)) →
    fs.read name = .error (.missingInclude (.noSuchTemplate name))
  /-- Of the disk only the places below the roots are looked at. -/
  only : ∀ disk, (∀ root ∈ fs.roots, disk (place root path) = fs.disk (place root path)) →
    read { fs with disk } name = fs.read name

theorem readFirst_append {name path : String} {paths : List String} (rest : List String)
    (hpaths : ∀ other ∈ paths, ¬ disk.IsFile other) (h : disk.IsFile path) :
    readFirst disk name (paths ++ path :: rest) =
      (disk.readText path).mapError fun problem => .missingInclude (.unreadable path problem) := by
  induction paths with
  | nil => exact readFirst_cons_of_isFile rest h
  | cons other paths ih =>
    rw [List.cons_append, readFirst_cons_of_not_isFile _ (hpaths other List.mem_cons_self)]
    exact ih fun other' hother => hpaths other' (List.mem_cons_of_mem other hother)

theorem readFirst_none {name : String} {paths : List String}
    (hpaths : ∀ path ∈ paths, ¬ disk.IsFile path) :
    readFirst disk name paths = .error (.missingInclude (.noSuchTemplate name)) := by
  induction paths with
  | nil => rfl
  | cons path paths ih =>
    rw [readFirst_cons_of_not_isFile _ (hpaths path List.mem_cons_self)]
    exact ih fun other hother => hpaths other (List.mem_cons_of_mem path hother)

theorem readFirst_congr {disk' : Disk} {name : String} {paths : List String}
    (h : ∀ path ∈ paths, disk' path = disk path) :
    readFirst disk' name paths = readFirst disk name paths := by
  induction paths with
  | nil => rfl
  | cons path paths ih =>
    have hread : disk'.readText path = disk.readText path := by
      rw [Disk.readText, Disk.readText, h path List.mem_cons_self]
    rw [readFirst, readFirst, hread,
      ih fun other hother => h other (List.mem_cons_of_mem path hother)]

theorem read_eq {name path : String} (hpath : (ofRoots roots disk).relativePath name = .ok path)
    (h : path.toList.head? ≠ some '/') :
    (ofRoots roots disk).read name = readFirst disk name (roots.map (place · path)) := by
  have hplaces : roots.map (joinPath · path) = roots.map (place · path) :=
    List.map_congr_left fun root _ => joinPath_eq_place h
  rw [read, hpath, ok_bind, ← hplaces]
  rfl

theorem readBelow {name path : String}
    (h : (ofRoots roots disk).relativePath name = .ok path) :
    ReadBelow (ofRoots roots disk) name path := by
  have hrelative := (below_of_relativePath h).relative
  constructor
  case full =>
    rw [fullPath, h, ok_bind]
    cases roots with
    | nil => rfl
    | cons root rest => exact congrArg Except.ok (joinPath_eq_place hrelative)
  case first =>
    intro before root after hroots hbefore hfile
    have hroots' : roots = before ++ root :: after := hroots
    rw [read_eq h hrelative, hroots', List.map_append, List.map_cons]
    refine readFirst_append _ ?_ hfile
    intro other hother
    obtain ⟨root', hroot', rfl⟩ := List.mem_map.1 hother
    exact hbefore root' hroot'
  case missing =>
    intro hnone
    rw [read_eq h hrelative]
    refine readFirst_none ?_
    intro other hother
    obtain ⟨root, hroot, rfl⟩ := List.mem_map.1 hother
    exact hnone root hroot
  case only =>
    intro disk' hagree
    have h' : (ofRoots roots disk').relativePath name = .ok path := h
    show read (ofRoots roots disk') name = _
    rw [read_eq h hrelative, read_eq h' hrelative]
    refine readFirst_congr ?_
    intro other hother
    obtain ⟨root, hroot, rfl⟩ := List.mem_map.1 hother
    exact hagree root hroot

/-- Templates in files stay below their roots. A name is refused exactly if it is empty, begins
with a slash or holds a character that no name has, and then nothing is read. Any other name has a
path of its own that leads down from every root, and the first file at that path is the template. -/
theorem stays_below_roots (roots : List String) (disk : Disk) :
    (∀ name, (ofRoots roots disk).relativePath name = .error (.illegalTemplateName name) ↔
      name = "" ∨ name.toList.head? = some '/' ∨ ∃ c ∈ name.toList, ¬ IsPathChar c) ∧
    (∀ name, ((ofRoots roots disk).relativePath name = .error (.illegalTemplateName name) ∧
        (ofRoots roots disk).fullPath name = .error (.illegalTemplateName name) ∧
        ∀ disk', (ofRoots roots disk').read name = .error (.illegalTemplateName name)) ∨
      ∃ path, (ofRoots roots disk).relativePath name = .ok path ∧ Below name path ∧
        ReadBelow (ofRoots roots disk) name path) ∧
    (∀ name name' path, (ofRoots roots disk).relativePath name = .ok path →
      (ofRoots roots disk).relativePath name' = .ok path → name = name') := by
  refine ⟨?_, ?_, ?_⟩
  · intro name
    rw [relativePath_eq_error_iff, isLegalName_iff, and_iff_left rfl, not_and_or, not_and_or,
      not_not, not_not, not_forall, ← String.toList_inj]
    simp only [not_forall, exists_prop]
    rfl
  · intro name
    by_cases hlegal : isLegalName name.toList = true
    · have hpath : (ofRoots roots disk).relativePath name = .ok _ :=
        relativePath_eq_ok_iff.2 ⟨hlegal, rfl⟩
      exact .inr ⟨_, hpath, below_of_relativePath hpath, readBelow hpath⟩
    · have hrefused : ∀ disk', (ofRoots roots disk').relativePath name =
          .error (.illegalTemplateName name) :=
        fun disk' => relativePath_eq_error_iff.2 ⟨hlegal, rfl⟩
      refine .inl ⟨hrefused disk, ?_, fun disk' => ?_⟩
      · rw [fullPath, hrefused, error_bind]
      · rw [read, hrefused, error_bind]
  · intro name name' path h h'
    exact relativePath_injective h h'

/-- A template that lies below the second of two roots. -/
theorem stays_below_roots_second :
    let disk : Disk := fun path =>
      if path = "b/shop/_product.liquid" then .ok [0x68, 0x69] else .error .notFound
    (ofRoots ["a", "b"] disk).relativePath "shop/product" = .ok "shop/_product.liquid" ∧
      (ofRoots ["a", "b"] disk).read "shop/product" = .ok "hi" := by
  intro disk
  obtain ⟨-, hnames, -⟩ := stays_below_roots ["a", "b"] disk
  rcases hnames "shop/product" with ⟨hrefused, -⟩ | ⟨path, hpath, -, hread⟩
  · exact absurd (by decide) (relativePath_eq_error_iff.1 hrefused).1
  · have hfront : IsFront "shop/".toList := isFront_append_slash "shop".toList
    have hname : "shop/product".toList = "shop/".toList ++ "product".toList := by decide
    have htext := toList_relativePath hname hfront (by decide) hpath
    have heq : path = "shop/_product.liquid" := by
      rw [← String.toList_inj, htext]
      decide
    subst heq
    refine ⟨hpath, ?_⟩
    have hfile : disk.readText "b/shop/_product.liquid" = .ok "hi" := by
      simp [Disk.readText, disk, Utf8.decode?, Utf8.next]
    have hplace : place "b" "shop/_product.liquid" = "b/shop/_product.liquid" := by decide
    rw [hread.first ["a"] "b" [] rfl ?_ ?_, hplace]
    · show (disk.readText _).mapError _ = _
      rw [hfile]
      rfl
    · intro other hother
      rw [List.mem_singleton.1 hother]
      exact not_false
    · rw [hplace]
      show match disk.readText "b/shop/_product.liquid" with
        | .ok _ | .error .notText | .error (.other _) => True
        | .error _ => False
      rw [hfile]
      trivial

end LocalTemplates

end Liquid
