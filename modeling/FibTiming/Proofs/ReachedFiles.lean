import FibTiming.Proofs.FoundFiles
import FibTiming.Proofs.LoadingOrder

/-!
# Files that are reached more than once

The path under which a file is found tells its place (`FoundAs.placeOf_eq`), but two paths to one place can be spelled
differently, and the paths are not compared by their places.  Where no file is found under two paths, a further path that
only reaches files reached before changes nothing (`loadSuite_reached`).  This is so when single files are given by clean
paths and all paths start from the same directory, from the root or from one above the working directory, whatever else
the paths to directories look like (`oneSpelling_of_filesClean`).  A file that is reached in another spelling counts as
another file.
-/

namespace FibTiming

open SuiteFile

namespace FileSystem

open Node

/-! ### Places -/

private theorem foldl_cleanStep_of_locate {root : Node} {here cs place : List String} (hhere : ".." ∉ here)
    (h : root.locate here cs = .ok place) : cs.foldl (cleanStep true) here = place := by
  -- No place has `..` in it, so `..` always takes the last name away, as it does in the tree.
  induction cs generalizing here with
  | nil =>
    cases h
    rfl
  | cons c rest ih =>
    obtain ⟨_, next, hleads, hrest⟩ := (locate_cons_eq_ok_iff ..).1 h
    rw [List.foldl_cons]
    cases hleads with
    | stay => exact ih hhere hrest
    | up =>
      rw [cleanStep_up hhere]
      exact ih (fun hmem => hhere (List.mem_of_mem_tail hmem)) hrest
    | down hdot hdots =>
      rw [cleanStep_name true here hdot hdots]
      exact ih (by simp [hdots.symm, hhere]) hrest

/-- The place that the names of a path lead to, if they lead anywhere. -/
def placeOf (files : FileSystem) (path : String) : List String :=
  ((cleanComponents path).foldl (cleanStep true) (files.start path)).reverse

/-- The path leads to the place. -/
structure Denotes (files : FileSystem) (path : String) (place : List String) : Prop where
  check : checkPath path = .ok ()
  locate : files.root.locate (files.start path) (pathComponents path) = .ok place.reverse

private theorem ne_empty_of_checkPath {path : String} (h : checkPath path = .ok ()) : path ≠ "" := by
  rintro rfl
  revert h
  decide

variable {files : FileSystem} {path : String} {place : List String}

private theorem start_of_isRooted (h : isRooted path = true) : files.start path = [] := by
  rw [start, if_pos h]

private theorem start_congr {f g : String} (h : isRooted f = isRooted g) : files.start f = files.start g := by
  rw [start, start, h]

private theorem exists_denotes_of_resolve {node : Node} (h : files.resolve path = .ok node) :
    ∃ place, files.Denotes path place ∧ files.root.at? place = some node := by
  unfold resolve at h
  simp only [bind, Except.bind] at h
  split at h
  · cases h
  · rename_i hcheck
    split at h
    · cases h
    · rename_i place hlocate
      refine ⟨place.reverse, ⟨hcheck, by rwa [List.reverse_reverse]⟩, ?_⟩
      split at h
      · cases h
      · rename_i content hat
        split at h
        · cases h
        · cases h
          exact hat
      · rename_i hat
        cases h
        exact hat

/-- A path that leads somewhere starts from a place in the tree. -/
private theorem notMem_start_of_resolve (hroot : files.root.WellNamed) {node : Node}
    (h : files.resolve path = .ok node) :
    ".." ∉ files.start path := by
  obtain ⟨place, ⟨_, hlocate⟩, hat⟩ := exists_denotes_of_resolve h
  have hstart : ∃ first, files.root.at? (files.start path).reverse = some first := by
    cases hcs : pathComponents path with
    | nil =>
      rw [hcs, locate, Except.ok.injEq] at hlocate
      exact ⟨node, by rwa [hlocate, List.reverse_reverse]⟩
    | cons c rest =>
      rw [hcs] at hlocate
      obtain ⟨⟨es, hes⟩, _⟩ := (locate_cons_eq_ok_iff ..).1 hlocate
      exact ⟨_, hes⟩
  obtain ⟨first, hfirst⟩ := hstart
  intro hmem
  exact (hroot.isName hfirst ".." (List.mem_reverse.2 hmem)).2.2 rfl

theorem Denotes.placeOf_eq (hroot : files.root.WellNamed) (h : files.Denotes path place) {node : Node}
    (hresolve : files.resolve path = .ok node) : files.placeOf path = place := by
  rw [placeOf, foldl_cleanComponents start_of_isRooted,
    foldl_cleanStep_of_locate (notMem_start_of_resolve hroot hresolve) h.locate, List.reverse_reverse]

/-- Names joined to a path lead on from its place. -/
private theorem placeOf_joinPath (hpath : path ≠ "") {rel : List String} (hrel : ∀ n ∈ rel, IsName n) (hne : rel ≠ []) :
    files.placeOf (joinPath path ("/".intercalate rel)) = files.placeOf path ++ rel := by
  rw [placeOf, cleanComponents_joinPath hpath hrel hne, start_congr (isRooted_joinPath hpath hrel hne),
    List.foldl_append, foldl_cleanStep_names _ _ hrel, List.reverse_append, List.reverse_reverse, placeOf]

/-! ### Found files -/

/-- The paths stand for the file at the place, which is found under a path: a file under the path that is given, and
the suite files below a directory under paths of their own. -/
inductive FoundAs (files : FileSystem) (paths : List String) : List String → String → Prop
  | file {path place content} (hpath : path ∈ paths) (hplace : files.Denotes path place)
    (hfile : files.resolve path = .ok (.file content)) : FoundAs files paths place path
  | below {path place es rel} (hpath : path ∈ paths) (hplace : files.Denotes path place)
    (hdirectory : files.resolve path = .ok (.directory es)) (hfinds : Finds suiteEnding es rel) :
    FoundAs files paths (place ++ rel) (joinPath path ("/".intercalate rel))

/-- The paths stand for the file at the place. -/
def Reaches (files : FileSystem) (paths : List String) (place : List String) : Prop := ∃ f, files.FoundAs paths place f

/-- No file is found under two paths. -/
def OneSpelling (files : FileSystem) (paths : List String) : Prop :=
  ∀ place f g, files.FoundAs paths place f → files.FoundAs paths place g → f = g

/-- Paths to single files are given in their clean form; those to directories can have any form. -/
def FilesClean (files : FileSystem) (paths : List String) : Prop :=
  ∀ path ∈ paths, ∀ content, files.resolve path = .ok (.file content) → cleanPath path = path

/-- The paths all lead from the root, or all from the working directory after going up equally often. -/
def OneStart (paths : List String) : Prop :=
  ∀ p ∈ paths, ∀ q ∈ paths,
    isRooted p = isRooted q ∧ (cleanComponents p).count ".." = (cleanComponents q).count ".."

instance : DecidablePred OneStart := fun paths => inferInstanceAs (Decidable (∀ p ∈ paths, ∀ q ∈ paths,
  isRooted p = isRooted q ∧ (cleanComponents p).count ".." = (cleanComponents q).count ".."))

section FoundAs

variable {paths : List String} {f : String}

private theorem FoundAs.mono (h : files.FoundAs paths place f) {more : List String} (hmore : ∀ p ∈ paths, p ∈ more) :
    files.FoundAs more place f := by
  cases h with
  | file hpath hplace hfile => exact .file (hmore _ hpath) hplace hfile
  | below hpath hplace hdirectory hfinds => exact .below (hmore _ hpath) hplace hdirectory hfinds

private theorem foundAs_iff : files.FoundAs paths place f ↔ ∃ path ∈ paths, files.FoundAs [path] place f := by
  constructor
  · intro h
    cases h with
    | file hpath hplace hfile => exact ⟨_, hpath, .file List.mem_cons_self hplace hfile⟩
    | below hpath hplace hdirectory hfinds => exact ⟨_, hpath, .below List.mem_cons_self hplace hdirectory hfinds⟩
  · rintro ⟨path, hpath, h⟩
    exact h.mono (by simpa using hpath)

/-- The names of a found file below a directory are names. -/
private theorem isName_of_resolve (hroot : files.root.WellNamed) {es : List (String × Node)} {rel : List String}
    (hdirectory : files.resolve path = .ok (.directory es)) (hfinds : Finds suiteEnding es rel) :
    (∀ n ∈ rel, IsName n) ∧ rel ≠ [] := by
  obtain ⟨_, _, hat⟩ := exists_denotes_of_resolve hdirectory
  exact isName_of_finds (hroot.at? hat) hfinds

/-- A single file is reached at its place. -/
theorem reaches_file_iff (hroot : files.root.WellNamed) {content : String}
    (h : files.resolve path = .ok (.file content)) : files.Reaches [path] place ↔ place = files.placeOf path := by
  obtain ⟨place', hplace, _⟩ := exists_denotes_of_resolve h
  constructor
  · rintro ⟨f, hfound⟩
    cases hfound with
    | file hmem hplace _ =>
      cases List.mem_singleton.1 hmem
      exact (hplace.placeOf_eq hroot h).symm
    | below hmem _ hdirectory _ =>
      cases List.mem_singleton.1 hmem
      rw [h] at hdirectory
      cases hdirectory
  · rintro rfl
    rw [hplace.placeOf_eq hroot h]
    exact ⟨path, .file List.mem_cons_self hplace h⟩

/-- The files below a directory are reached at places below its place. -/
private theorem exists_finds_of_reaches (hroot : files.root.WellNamed) {es : List (String × Node)}
    (h : files.resolve path = .ok (.directory es)) (hreaches : files.Reaches [path] place) :
    ∃ rel, Finds suiteEnding es rel ∧ place = files.placeOf path ++ rel := by
  obtain ⟨f, hfound⟩ := hreaches
  cases hfound with
  | file hmem _ hfile =>
    cases List.mem_singleton.1 hmem
    rw [h] at hfile
    cases hfile
  | below hmem hplace hdirectory hfinds =>
    cases List.mem_singleton.1 hmem
    rw [h] at hdirectory
    cases hdirectory
    exact ⟨_, hfinds, by rw [hplace.placeOf_eq hroot h]⟩

/-- The path of a found file tells its place. -/
theorem FoundAs.placeOf_eq (hroot : files.root.WellNamed) (h : files.FoundAs paths place f) :
    files.placeOf f = place := by
  cases h with
  | file _ hplace hfile => exact hplace.placeOf_eq hroot hfile
  | below _ hplace hdirectory hfinds =>
    obtain ⟨hnames, hne⟩ := isName_of_resolve hroot hdirectory hfinds
    rw [placeOf_joinPath (ne_empty_of_checkPath hplace.check) hnames hne, hplace.placeOf_eq hroot hdirectory]

private theorem FoundAs.notMem_start (hroot : files.root.WellNamed) (h : files.FoundAs paths place f) :
    ".." ∉ files.start f := by
  cases h with
  | file _ _ hfile => exact notMem_start_of_resolve hroot hfile
  | below _ hplace hdirectory hfinds =>
    obtain ⟨hnames, hne⟩ := isName_of_resolve hroot hdirectory hfinds
    rw [start_congr (isRooted_joinPath (ne_empty_of_checkPath hplace.check) hnames hne)]
    exact notMem_start_of_resolve hroot hdirectory

/-- Where single files are given by clean paths, all files are found under clean paths, which start where the given ones
start. -/
private theorem FoundAs.eq_renderPath (hroot : files.root.WellNamed) (hclean : files.FilesClean paths)
    (h : files.FoundAs paths place f) :
    f = renderPath (isRooted f) (cleanComponents f) ∧ ∃ path ∈ paths, isRooted f = isRooted path ∧
      (cleanComponents f).count ".." = (cleanComponents path).count ".." := by
  cases h with
  | file hpath hplace hfile => exact ⟨(hclean _ hpath _ hfile).symm.trans (cleanPath_eq _), _, hpath, rfl, rfl⟩
  | @below path _ _ rel hpath hplace hdirectory hfinds =>
    obtain ⟨hnames, hne⟩ := isName_of_resolve hroot hdirectory hfinds
    have hpath' := ne_empty_of_checkPath hplace.check
    have hcount : rel.count ".." = 0 := List.count_eq_zero.2 fun hmem => (hnames _ hmem).2.2 rfl
    rw [isRooted_joinPath hpath' hnames hne, cleanComponents_joinPath hpath' hnames hne]
    exact ⟨joinPath_names hpath' hnames, path, hpath, rfl, by rw [List.count_append, hcount, Nat.add_zero]⟩

/-- Where single files are given by clean paths and all paths have one start, no file is found under two paths. -/
theorem oneSpelling_of_filesClean (hroot : files.root.WellNamed) (hclean : files.FilesClean paths)
    (hstart : OneStart paths) : files.OneSpelling paths := by
  intro place f g hf hg
  obtain ⟨hrender, p, hp, hrooted, hcount⟩ := hf.eq_renderPath hroot hclean
  obtain ⟨hrender', q, hq, hrooted', hcount'⟩ := hg.eq_renderPath hroot hclean
  obtain ⟨hpq, hcountpq⟩ := hstart p hp q hq
  have hsame : isRooted f = isRooted g := hrooted.trans (hpq.trans hrooted'.symm)
  have hplace : files.placeOf f = files.placeOf g := (hf.placeOf_eq hroot).trans (hg.placeOf_eq hroot).symm
  have hfclean := isClean_cleanComponents f
  have hgclean := isClean_cleanComponents g
  rw [placeOf, placeOf, start_congr hsame, List.reverse_inj] at hplace
  rw [hsame] at hfclean
  have hcomponents := hfclean.ext hgclean (hg.notMem_start hroot)
    (by rw [List.count_reverse, List.count_reverse, hcount, hcountpq, hcount'])
    (by rw [List.reverse_reverse, List.reverse_reverse, hplace])
  rw [hrender, hrender', hsame, List.reverse_inj.1 hcomponents]

end FoundAs

end FileSystem

open FileSystem Node

variable {files : FileSystem}

private theorem mem_filesOf_iff (hroot : files.root.WellNamed) {path : String} {fs : List String}
    (hfs : filesOf files.resolve path = .ok fs) (f : String) : f ∈ fs ↔ ∃ place, files.FoundAs [path] place f := by
  unfold filesOf at hfs
  cases hresolve : files.resolve path with
  | error cause =>
    rw [hresolve] at hfs
    cases hfs
  | ok node =>
    obtain ⟨place, hplace, hat⟩ := exists_denotes_of_resolve hresolve
    rw [hresolve] at hfs
    cases node with
    | file content =>
      cases hfs
      rw [List.mem_singleton]
      constructor
      · rintro rfl
        exact ⟨place, .file List.mem_cons_self hplace hresolve⟩
      · rintro ⟨_, hfound⟩
        cases hfound with
        | file hmem _ _ => exact List.mem_singleton.1 hmem
        | below hmem _ hdirectory _ =>
          cases List.mem_singleton.1 hmem
          rw [hresolve] at hdirectory
          cases hdirectory
    | directory es =>
      cases hfs
      rw [(lists_findFrom (ne_empty_of_checkPath hplace.check) (hroot.at? hat)).mem_iff]
      constructor
      · rintro ⟨rel, hfinds, rfl⟩
        exact ⟨place ++ rel, .below List.mem_cons_self hplace hresolve hfinds⟩
      · rintro ⟨_, hfound⟩
        cases hfound with
        | file hmem _ hfile =>
          cases List.mem_singleton.1 hmem
          rw [hresolve] at hfile
          cases hfile
        | below hmem _ hdirectory hfinds =>
          cases List.mem_singleton.1 hmem
          rw [hresolve] at hdirectory
          cases hdirectory
          exact ⟨_, hfinds, rfl⟩

private theorem mem_discover_iff (hroot : files.root.WellNamed) {paths found : List String}
    (hfound : discover files.resolve [] paths = .ok found) (f : String) :
    f ∈ found ↔ ∃ place, files.FoundAs paths place f := by
  obtain ⟨_, hall, hmem⟩ := discover_eq_ok hfound List.nodup_nil
  rw [hmem]
  constructor
  · rintro (hnil | ⟨path, hpath, fs, hfs, hf⟩)
    · cases hnil
    · obtain ⟨place, hplace⟩ := (mem_filesOf_iff hroot hfs f).1 hf
      exact ⟨place, foundAs_iff.2 ⟨path, hpath, hplace⟩⟩
  · rintro ⟨place, hplace⟩
    obtain ⟨path, hpath, hplace⟩ := foundAs_iff.1 hplace
    obtain ⟨fs, hfs⟩ := hall path hpath
    exact .inr ⟨path, hpath, fs, hfs, (mem_filesOf_iff hroot hfs f).2 ⟨place, hplace⟩⟩

/-! ### Further paths -/

private theorem addNew_of_subset {known files : List String} (h : ∀ f ∈ files, f ∈ known) :
    addNew known files = known := by
  induction files with
  | nil => rfl
  | cons f files ih =>
    obtain ⟨hf, hrest⟩ := List.forall_mem_cons.1 h
    rw [addNew, if_pos hf]
    exact ih hrest

private theorem exists_addNew_eq (known files : List String) : ∃ new, addNew known files = known ++ new := by
  induction files generalizing known with
  | nil => exact ⟨[], by simp [addNew]⟩
  | cons f files ih =>
    unfold addNew
    split
    · exact ih known
    · obtain ⟨new, hnew⟩ := ih (known ++ [f])
      exact ⟨f :: new, by rw [hnew, List.append_assoc, List.singleton_append]⟩

private theorem discover_append {lookup : Lookup} {found ps files : List String}
    (h : discover lookup found ps = .ok files)
    (qs : List String) : discover lookup found (ps ++ qs) = discover lookup files qs := by
  induction ps generalizing found with
  | nil =>
    cases h
    rfl
  | cons p ps ih =>
    rw [discover] at h
    rw [List.cons_append, discover]
    cases hp : filesOf lookup p with
    | error e =>
      rw [hp] at h
      cases h
    | ok fs =>
      rw [hp] at h
      exact ih h

section Suites

variable {visiting visiting' : Visiting} {lookup : Lookup} {s : Suite}

private theorem exists_files_of_loadSuite {paths : List String} (h : loadSuite visiting lookup paths = .ok s) :
    ∃ found ds, discover lookup [] paths = .ok found ∧ found ≠ [] ∧
      List.Forall₂ (fun f d => documentAt lookup f = .ok d) found ds ∧ suiteOf visiting paths ds = .ok s := by
  obtain ⟨ds, hds, hs⟩ := (loadSuite_eq_ok_iff _ _ _ _).1 h
  obtain ⟨found, hfound, hne, hread⟩ := (findDocuments_eq_ok_iff _ _ _).1 hds
  exact ⟨found, ds, hfound, hne, hread, hs⟩

private theorem length_of_suiteOf {paths : List String} {ds : List Document} (h : suiteOf visiting paths ds = .ok s) :
    s.benchmarks.length = (ds.flatMap (·.benchmarks)).length := by
  obtain ⟨_, bs, _, hbs, hcheck⟩ := (suiteOf_eq_ok_iff _ _ _ _).1 h
  obtain ⟨_, _, _, rfl⟩ := (checkLoaded_eq_ok_iff _ _ _).1 hcheck
  rw [hbs.length_eq, List.length_map]

/-- When the suite stays the same with a further path, the files that are only found under this path have no
benchmarks. -/
private theorem exists_documentAt_of_same {ps found fs : List String} {q : String}
    (hload : loadSuite visiting lookup ps = .ok s) (hsame : loadSuite visiting' lookup (ps ++ [q]) = .ok s)
    (hfound : discover lookup [] ps = .ok found) (hfs : filesOf lookup q = .ok fs) {f : String} (hf : f ∈ fs)
    (hnew : f ∉ found) : ∃ d, documentAt lookup f = .ok d ∧ d.benchmarks = [] := by
  obtain ⟨_, ds, hps, _, hread, hs⟩ := exists_files_of_loadSuite hload
  rw [hfound] at hps
  cases hps
  obtain ⟨_, ds', hfound', _, hread', hs'⟩ := exists_files_of_loadSuite hsame
  rw [discover_append hfound, discover, hfs] at hfound'
  cases hfound'
  obtain ⟨new, hadded⟩ := exists_addNew_eq found fs
  have hmem : f ∈ new := by
    have hall : f ∈ found ++ new := hadded ▸ (mem_addNew found fs f).2 (.inr hf)
    exact (List.mem_append.1 hall).resolve_left hnew
  rw [hadded] at hread'
  -- The files that were there before declare what they declared before.
  have hbefore : ds'.take found.length = ds := by
    refine List.left_unique_forall₂' ?_ (List.forall₂_take_append ds' found new hread'.flip) hread.flip
    intro d f d' hd hd'
    exact Except.ok.inj (hd.symm.trans hd')
  have hbehind := List.forall₂_drop_append ds' found new hread'.flip
  have hlength := (length_of_suiteOf hs').symm.trans (length_of_suiteOf hs)
  rw [← List.take_append_drop found.length ds', hbefore, List.flatMap_append, List.length_append] at hlength
  have hnone : (ds'.drop found.length).flatMap (·.benchmarks) = [] := List.length_eq_zero_iff.1 (by omega)
  have hpairs := ((List.forall₂_and_left _ _).2 ⟨List.flatMap_eq_nil_iff.1 hnone, hbehind⟩).flip
  have hall := (List.forall₂_and_left (R := fun _ _ => True) _ _).1
    (hpairs.imp fun f d h => ⟨(⟨d, h.2, h.1⟩ : ∃ d, documentAt lookup f = .ok d ∧ d.benchmarks = []), trivial⟩)
  exact hall.1 f hmem

end Suites

/-- A path that only reaches files reached before changes nothing unless a file is found under two paths, as long as it
does not matter in which orders the two loads visit local values.  No file is found under two paths when single files are
given by clean paths and all paths have one start.  The condition is needed: if a file with benchmarks is found under a
second path, the suite is not the same. -/
theorem loadSuite_reached (hroot : files.root.WellNamed) {visiting : Visiting} {ps : List String} {s : Suite}
    (hload : loadSuite visiting files.resolve ps = .ok s) {q : String} (hq : ∃ node, files.resolve q = .ok node)
    (hreached : ∀ place, files.Reaches [q] place → files.Reaches ps place) :
    (files.OneSpelling (ps ++ [q]) → (∀ ds, findDocuments files.resolve ps = .ok ds → SettledIn ds) →
      ∀ visiting', loadSuite visiting' files.resolve (ps ++ [q]) = .ok s) ∧
    (files.FilesClean (ps ++ [q]) → OneStart (ps ++ [q]) → files.OneSpelling (ps ++ [q])) ∧
    ∀ place f, files.FoundAs [q] place f → ¬ files.FoundAs ps place f →
      ∀ visiting', loadSuite visiting' files.resolve (ps ++ [q]) = .ok s →
        ∃ d, documentAt files.resolve f = .ok d ∧ d.benchmarks = [] := by
  obtain ⟨found, ds, hfound, hne, hread, hs⟩ := exists_files_of_loadSuite hload
  obtain ⟨fs, hfs⟩ : ∃ fs, filesOf files.resolve q = .ok fs := by
    obtain ⟨node, hnode⟩ := hq
    unfold filesOf
    rw [hnode]
    cases node <;> exact ⟨_, rfl⟩
  refine ⟨fun hone hsettled visiting' => ?_, oneSpelling_of_filesClean hroot,
    fun place f hplace hnew visiting' hsame => ?_⟩
  · have hsubset : ∀ f ∈ fs, f ∈ found := by
      intro f hf
      obtain ⟨place, hplace⟩ := (mem_filesOf_iff hroot hfs f).1 hf
      obtain ⟨g, hg⟩ := hreached place ⟨f, hplace⟩
      have hsame : f = g := hone place f g (hplace.mono (by simp)) (hg.mono (by simp +contextual))
      exact (mem_discover_iff hroot hfound f).2 ⟨place, hsame ▸ hg⟩
    have hdiscover : discover files.resolve [] (ps ++ [q]) = .ok found := by
      rw [discover_append hfound, discover, hfs]
      dsimp only
      rw [discover, addNew_of_subset hsubset]
    have hds : ∀ paths, discover files.resolve [] paths = .ok found → findDocuments files.resolve paths = .ok ds :=
      fun paths hpaths => (findDocuments_eq_ok_iff _ _ _).2 ⟨found, hpaths, hne, hread⟩
    have hcongr : suiteOf visiting ps ds = .ok s ↔ suiteOf visiting' (ps ++ [q]) ds = .ok s :=
      suiteOf_congr rfl (fun _ => Iff.rfl) (hsettled ds (hds ps hfound)) ps (ps ++ [q]) s
    exact (loadSuite_eq_ok_iff _ _ _ _).2 ⟨ds, hds _ hdiscover, hcongr.1 hs⟩
  · refine exists_documentAt_of_same hload hsame hfound hfs ((mem_filesOf_iff hroot hfs f).2 ⟨place, hplace⟩) ?_
    intro hold
    obtain ⟨place', hplace'⟩ := (mem_discover_iff hroot hfound f).1 hold
    -- A path tells the place of its file, so this is the file itself.
    rw [← hplace.placeOf_eq hroot, hplace'.placeOf_eq hroot] at hnew
    exact hnew hplace'

/-- A directory with one file. -/
def innerFiles : List (String × Node) :=
  [("b.hcl", file "benchmark \"naive\" \"two\" \x7b\n  n      = 2\n  expect = 2\n\x7d\n")]

/-- A file next to the directory. -/
def nestedFiles : List (String × Node) :=
  [("a.hcl", file "benchmark \"naive\" \"five\" \x7b\n  n      = 5\n  expect = 8\n\x7d\n"), ("d", directory innerFiles)]

/-- The working directory holds both. -/
def nestedSystem : FileSystem := ⟨directory [("w", directory nestedFiles)], ["w"]⟩

private theorem wellNamed_nestedSystem : nestedSystem.root.WellNamed := by
  simp only [nestedSystem, nestedFiles, innerFiles, wellNamed_directory_iff, List.forall_mem_cons, wellNamed_file,
    List.not_mem_nil, false_implies, implies_true, and_true]
  decide

private theorem eq_of_finds_innerFiles {rel : List String} (h : Finds suiteEnding innerFiles rel) :
    rel = ["b.hcl"] := by
  have hes : (directory innerFiles).WellNamed :=
    wellNamed_nestedSystem.at? (show nestedSystem.root.at? ["w", "d"] = some (directory innerFiles) from rfl)
  have hrel := (mem_namesIn_iff hes).2 h
  have hending : hasEnding suiteEnding "b.hcl" = true := by decide
  rwa [innerFiles, namesIn, namesIn, if_pos hending, List.append_nil, List.mem_singleton] at hrel

/-- The directory is reached through its file and through the directory above it, and then in a roundabout way. -/
theorem loadSuite_reached_roundabout :
    loadSuite .backwards nestedSystem.resolve ["d/b.hcl", "./", "d/..//./d/"] =
      .ok ⟨[⟨"two", "naive", 2, 2, "ms", 1⟩, ⟨"five", "naive", 5, 8, "ms", 1⟩]⟩ := by
  have hroot := wellNamed_nestedSystem
  have hload : loadSuite .byName nestedSystem.resolve ["d/b.hcl", "./"] =
      .ok ⟨[⟨"two", "naive", 2, 2, "ms", 1⟩, ⟨"five", "naive", 5, 8, "ms", 1⟩]⟩ :=
    toOption_eq_some_iff.1 (by decide +kernel)
  have hq : nestedSystem.resolve "d/..//./d/" = .ok (directory innerFiles) := rfl
  have hreached : ∀ place, nestedSystem.Reaches ["d/..//./d/"] place →
      nestedSystem.Reaches ["d/b.hcl", "./"] place := by
    intro place hplace
    obtain ⟨rel, hfinds, rfl⟩ := exists_finds_of_reaches hroot hq hplace
    rw [eq_of_finds_innerFiles hfinds]
    obtain ⟨f, hfound⟩ := (reaches_file_iff hroot (show nestedSystem.resolve "d/b.hcl" = .ok (.file _) from rfl)).2 rfl
    exact ⟨f, hfound.mono (by simp)⟩
  have hclean : nestedSystem.FilesClean ["d/b.hcl", "./", "d/..//./d/"] := by
    rintro path hpath content hfile
    simp only [List.mem_cons, List.not_mem_nil, or_false] at hpath
    rcases hpath with rfl | rfl | rfl
    · decide
    · cases hfile
    · cases hfile
  have hstart : OneStart ["d/b.hcl", "./", "d/..//./d/"] := by decide
  have hnames : localNames? nestedSystem.resolve ["d/b.hcl", "./"] = some [] := by decide +kernel
  have hsettled := settledIn_of_localNames hnames List.nodup_nil
  obtain ⟨hsame, hone, _⟩ := loadSuite_reached hroot hload ⟨_, hq⟩ hreached
  exact hsame (hone hclean hstart) hsettled .backwards

/-- A file in the working directory. -/
def singleSystem : FileSystem :=
  ⟨directory [("w", directory [("a.hcl", file "benchmark \"naive\" \"fib\" \x7b\n  n      = 5\n  expect = 8\n\x7d\n")])],
    ["w"]⟩

/-- The same file in two spellings: its benchmark is found twice, and the suite is refused. -/
theorem loadSuite_reached_twice :
    loadSuite .byName singleSystem.resolve ["a.hcl"] = .ok ⟨[⟨"fib", "naive", 5, 8, "ms", 1⟩]⟩ ∧
      ∀ q ∈ ["./a.hcl", "../w/a.hcl", "/w/a.hcl"],
        (∀ place, singleSystem.Reaches [q] place → singleSystem.Reaches ["a.hcl"] place) ∧
        ∃ e, loadSuite .byName singleSystem.resolve ["a.hcl", q] = .error e ∧
          e.message = "invalid benchmark: duplicate benchmark name 'fib'" := by
  have hroot : singleSystem.root.WellNamed := by
    simp only [singleSystem, wellNamed_directory_iff, List.forall_mem_cons, wellNamed_file, List.not_mem_nil,
      false_implies, implies_true, and_true]
    decide
  refine ⟨toOption_eq_some_iff.1 (by decide +kernel), fun q hq => ⟨fun place hplace => ?_, ?_⟩⟩
  · have hfile : ∃ content, singleSystem.resolve q = .ok (.file content) := by
      simp only [List.mem_cons, List.not_mem_nil, or_false] at hq
      rcases hq with rfl | rfl | rfl <;> exact ⟨_, rfl⟩
    obtain ⟨content, hfile⟩ := hfile
    have hsame : ∀ q ∈ ["./a.hcl", "../w/a.hcl", "/w/a.hcl"],
        singleSystem.placeOf q = singleSystem.placeOf "a.hcl" := by decide
    rw [(reaches_file_iff hroot hfile).1 hplace, hsame q hq]
    exact (reaches_file_iff hroot rfl).2 rfl
  · have hmessage : ∀ q ∈ ["./a.hcl", "../w/a.hcl", "/w/a.hcl"],
        (loadSuite .byName singleSystem.resolve ["a.hcl", q]).mapError (·.message) =
          .error "invalid benchmark: duplicate benchmark name 'fib'" := by decide +kernel
    specialize hmessage q hq
    cases hload : loadSuite .byName singleSystem.resolve ["a.hcl", q] with
    | ok s =>
      rw [hload] at hmessage
      cases hmessage
    | error e =>
      rw [hload] at hmessage
      exact ⟨e, rfl, Except.error.inj hmessage⟩

end FibTiming
