import FibTiming.Files
import Mathlib.Data.List.Basic

/-!
# Paths and their components

A path is a list of components, and joining paths appends the lists (`pathComponents_append_slash`).  A cleaned path has
`..` only at its front, so cleaning it again changes nothing (`IsClean.foldl_cleanStep`), and what is joined to a path
name by name is joined to it at once (`joinPath_joinPath`).  Cleaning does not change the place that a path leads to
(`foldl_cleanComponents`); two clean paths that go up equally often and lead to one place are the same (`IsClean.ext`).
-/

namespace FibTiming

/-! ### Components -/

/-- A component of a path is not empty and has no slash. -/
def IsComponent (c : String) : Prop := c ≠ "" ∧ '/' ∉ c.toList

instance : DecidablePred IsComponent := fun c => inferInstanceAs (Decidable (c ≠ "" ∧ '/' ∉ c.toList))

private theorem pathComponents_empty : pathComponents "" = [] := by decide

theorem pathComponents_append_slash (a b : String) :
    pathComponents (a ++ "/" ++ b) = pathComponents a ++ pathComponents b := by
  have hlist : (a ++ "/" ++ b).toList = a.toList ++ '/' :: b.toList := by simp
  rw [pathComponents, hlist, List.splitOn_append_cons_self, List.filter_append, List.map_append]
  rfl

private theorem pathComponents_of_isComponent {c : String} (h : IsComponent c) : pathComponents c = [c] := by
  have hne : c.toList ≠ [] := fun hnil => h.1 (String.toList_eq_nil_iff.1 hnil)
  rw [pathComponents, List.splitOn_eq_singleton h.2]
  simp [hne]

private theorem pathComponents_intercalate {cs : List String} (h : ∀ c ∈ cs, IsComponent c) :
    pathComponents ("/".intercalate cs) = cs := by
  induction cs with
  | nil => rw [String.intercalate_nil, pathComponents_empty]
  | cons c rest ih =>
    have hc := pathComponents_of_isComponent (h c (List.mem_cons_self ..))
    have hrest := ih fun d hd => h d (List.mem_cons_of_mem _ hd)
    by_cases hnil : rest = []
    · rw [hnil, String.intercalate_singleton, hc]
    · rw [String.intercalate_cons_of_ne_nil hnil, pathComponents_append_slash, hc, hrest]
      rfl

private theorem not_mem_of_mem_splitOn {c : Char} {cs piece : List Char} (h : piece ∈ cs.splitOn c) : c ∉ piece := by
  induction cs generalizing piece with
  | nil =>
    rw [List.splitOn_nil, List.mem_singleton] at h
    simp [h]
  | cons d rest ih =>
    rw [List.splitOn_cons_eq_if_modifyHead] at h
    split at h
    · rcases List.mem_cons.1 h with rfl | h
      · simp
      · exact ih h
    · rename_i hd
      obtain ⟨first, others, hsplit⟩ := List.exists_cons_of_ne_nil (List.splitOn_ne_nil c rest)
      rw [hsplit] at h ih
      rcases List.mem_cons.1 h with rfl | h
      · have hfirst := ih (List.mem_cons_self ..)
        simp only [List.mem_cons, not_or]
        exact ⟨fun heq => hd (by simp [heq]), hfirst⟩
      · exact ih (List.mem_cons_of_mem _ h)

private theorem isComponent_of_mem_pathComponents {path c : String} (h : c ∈ pathComponents path) : IsComponent c := by
  obtain ⟨piece, hpiece, rfl⟩ := List.mem_map.1 h
  obtain ⟨hsplit, hne⟩ := List.mem_filter.1 hpiece
  refine ⟨by simpa using hne, ?_⟩
  rw [String.toList_ofList]
  exact not_mem_of_mem_splitOn hsplit

/-! ### Cleaning -/

/-- The components of a cleaned path, in reverse: none is `.`, and `..` stands only before other `..`, at the front of a
path that is not rooted. -/
def IsClean (rooted : Bool) : List String → Prop
  | [] => True
  | c :: rest =>
    IsComponent c ∧ c ≠ "." ∧ (c = ".." → rooted = false ∧ ∀ d ∈ rest, d = "..") ∧ IsClean rooted rest

private theorem IsClean.cleanStep {rooted : Bool} {done : List String} {c : String} (h : IsClean rooted done)
    (hc : IsComponent c) : IsClean rooted (cleanStep rooted done c) := by
  unfold FibTiming.cleanStep
  -- Only `..` looks at what stands before it: it is kept at the front or behind another `..`, and takes a name away.
  by_cases hdot : c = "."
  · rwa [if_pos hdot]
  · rw [if_neg hdot]
    by_cases hdots : c = ".."
    · subst hdots
      rw [if_pos rfl]
      cases done with
      | nil =>
        cases rooted
        · exact ⟨hc, hdot, fun _ => ⟨rfl, by simp⟩, trivial⟩
        · trivial
      | cons d rest =>
        have ⟨_, _, hparent, hrest⟩ := h
        by_cases hdd : d = ".."
        · obtain ⟨hrooted, hall⟩ := hparent hdd
          subst hdd
          exact ⟨hc, hdot, fun _ => ⟨hrooted, by simpa using hall⟩, h⟩
        · simpa [hdd] using hrest
    · rw [if_neg hdots]
      exact ⟨hc, hdot, fun heq => absurd heq hdots, h⟩

private theorem isClean_foldl {rooted : Bool} {cs done : List String} (hcs : ∀ c ∈ cs, IsComponent c)
    (h : IsClean rooted done) : IsClean rooted (cs.foldl (cleanStep rooted) done) := by
  induction cs generalizing done with
  | nil => exact h
  | cons c rest ih =>
    exact ih (fun d hd => hcs d (List.mem_cons_of_mem _ hd)) (h.cleanStep (hcs c (List.mem_cons_self ..)))

/-- A step adds a component to what it can stand behind. -/
private theorem IsClean.cleanStep_eq_cons {rooted : Bool} {done : List String} {c : String}
    (h : IsClean rooted (c :: done)) :
    FibTiming.cleanStep rooted done c = c :: done := by
  obtain ⟨_, hdot, hdots, _⟩ := h
  unfold FibTiming.cleanStep
  rw [if_neg hdot]
  by_cases hc : c = ".."
  · obtain ⟨hrooted, hall⟩ := hdots hc
    subst hc
    rw [if_pos rfl]
    cases done with
    | nil => simp [hrooted]
    | cons d rest => simp [hall d (List.mem_cons_self ..)]
  · rw [if_neg hc]

/-- What is clean stays as it is. -/
theorem IsClean.foldl_cleanStep {rooted : Bool} {done : List String} (h : IsClean rooted done) :
    done.reverse.foldl (FibTiming.cleanStep rooted) [] = done := by
  induction done with
  | nil => rfl
  | cons c rest ih =>
    rw [List.reverse_cons, List.foldl_append, ih h.2.2.2]
    exact h.cleanStep_eq_cons

private theorem IsClean.isComponent {rooted : Bool} {done : List String} (h : IsClean rooted done) :
    ∀ c ∈ done, IsComponent c := by
  induction done with
  | nil => simp
  | cons c rest ih =>
    intro d hd
    rcases List.mem_cons.1 hd with rfl | hd
    · exact h.1
    · exact ih h.2.2.2 d hd

/-! ### Joining names -/

/-- The name of an entry of a directory. -/
def IsName (n : String) : Prop := IsComponent n ∧ n ≠ "." ∧ n ≠ ".."

instance : DecidablePred IsName := fun n => inferInstanceAs (Decidable (IsComponent n ∧ n ≠ "." ∧ n ≠ ".."))

theorem cleanStep_name (rooted : Bool) (done : List String) {n : String} (hdot : n ≠ ".") (hdots : n ≠ "..") :
    cleanStep rooted done n = n :: done := by
  unfold cleanStep
  rw [if_neg hdot, if_neg hdots]

theorem foldl_cleanStep_names (rooted : Bool) (done : List String) {ns : List String} (h : ∀ n ∈ ns, IsName n) :
    ns.foldl (cleanStep rooted) done = ns.reverse ++ done := by
  induction ns generalizing done with
  | nil => rfl
  | cons n rest ih =>
    obtain ⟨_, hdot, hdots⟩ := h n (List.mem_cons_self ..)
    rw [List.foldl_cons, cleanStep_name rooted done hdot hdots, ih _ fun m hm => h m (List.mem_cons_of_mem _ hm)]
    simp

/-- The components of the cleaned path. -/
def cleanComponents (path : String) : List String :=
  ((pathComponents path).foldl (cleanStep (isRooted path)) []).reverse

/-- A cleaned path from its components. -/
def renderPath (rooted : Bool) (cs : List String) : String :=
  if rooted then "/" ++ "/".intercalate cs else if "/".intercalate cs = "" then "." else "/".intercalate cs

theorem cleanPath_eq (path : String) : cleanPath path = renderPath (isRooted path) (cleanComponents path) := rfl

theorem isClean_cleanComponents (path : String) : IsClean (isRooted path) (cleanComponents path).reverse := by
  rw [cleanComponents, List.reverse_reverse]
  exact isClean_foldl (fun _ => isComponent_of_mem_pathComponents) trivial

private theorem isComponent_of_mem_cleanComponents {path c : String} (h : c ∈ cleanComponents path) : IsComponent c :=
  (isClean_cleanComponents path).isComponent c (List.mem_reverse.2 h)

private theorem pathComponents_renderPath {rooted : Bool} {cs : List String} (hcs : ∀ c ∈ cs, IsComponent c)
    (hne : cs ≠ []) :
    pathComponents (renderPath rooted cs) = cs := by
  have hbody := pathComponents_intercalate hcs
  have hempty : "/".intercalate cs ≠ "" := by
    intro heq
    rw [heq] at hbody
    exact hne (hbody.symm.trans pathComponents_empty)
  unfold renderPath
  cases rooted
  · simp [hempty, hbody]
  · have hroot : "/" ++ "/".intercalate cs = "" ++ "/" ++ "/".intercalate cs := by simp
    rw [if_pos rfl, hroot, pathComponents_append_slash, hbody, pathComponents_empty]
    rfl

private theorem isRooted_renderPath {rooted : Bool} {cs : List String} (hcs : ∀ c ∈ cs, IsComponent c) (hne : cs ≠ []) :
    isRooted (renderPath rooted cs) = rooted := by
  obtain ⟨c, rest, rfl⟩ := List.exists_cons_of_ne_nil hne
  obtain ⟨hc, hslash⟩ := hcs c (List.mem_cons_self ..)
  obtain ⟨first, more, hchars⟩ := List.exists_cons_of_ne_nil (fun hnil => hc (String.toList_eq_nil_iff.1 hnil))
  have hbody : ∃ tail, ("/".intercalate (c :: rest)).toList = first :: tail := by
    by_cases hnil : rest = []
    · exact ⟨more, by rw [hnil, String.intercalate_singleton, hchars]⟩
    · exact ⟨more ++ '/' :: ("/".intercalate rest).toList, by
        rw [String.intercalate_cons_of_ne_nil hnil]
        simp [hchars]⟩
  obtain ⟨tail, htail⟩ := hbody
  -- The first component starts with a character other than a slash, so the slash at the front decides.
  have hfirst : first ≠ '/' := by
    rintro rfl
    exact hslash (by simp [hchars])
  unfold renderPath isRooted
  cases rooted
  · have hempty : "/".intercalate (c :: rest) ≠ "" := by
      intro heq
      rw [heq] at htail
      simp at htail
    simp [hempty, htail, hfirst]
  · simp

/-- The names are put behind the components of the path. -/
theorem joinPath_names {path : String} (hpath : path ≠ "") {ns : List String} (h : ∀ n ∈ ns, IsName n) :
    joinPath path ("/".intercalate ns) = renderPath (isRooted path) (cleanComponents path ++ ns) := by
  have hrooted : isRooted (path ++ "/" ++ "/".intercalate ns) = isRooted path := by
    obtain ⟨c, cs, hchars⟩ := List.exists_cons_of_ne_nil (fun hnil => hpath (String.toList_eq_nil_iff.1 hnil))
    simp [isRooted, hchars]
  have hcomponents : cleanComponents (path ++ "/" ++ "/".intercalate ns) = cleanComponents path ++ ns := by
    rw [cleanComponents, hrooted, pathComponents_append_slash, pathComponents_intercalate fun n hn => (h n hn).1,
      List.foldl_append, foldl_cleanStep_names _ _ h, List.reverse_append, List.reverse_reverse]
    rfl
  rw [joinPath, cleanPath_eq, hrooted, hcomponents]

section Join

variable {path : String} {ns : List String}

private theorem isComponent_of_mem_append (h : ∀ n ∈ ns, IsName n) :
    ∀ c ∈ cleanComponents path ++ ns, IsComponent c := by
  intro c hc
  rcases List.mem_append.1 hc with hc | hc
  · exact isComponent_of_mem_cleanComponents hc
  · exact (h c hc).1

private theorem pathComponents_joinPath (hpath : path ≠ "") (h : ∀ n ∈ ns, IsName n) (hne : ns ≠ []) :
    pathComponents (joinPath path ("/".intercalate ns)) = cleanComponents path ++ ns := by
  rw [joinPath_names hpath h]
  exact pathComponents_renderPath (isComponent_of_mem_append h) (by simp [hne])

theorem isRooted_joinPath (hpath : path ≠ "") (h : ∀ n ∈ ns, IsName n) (hne : ns ≠ []) :
    isRooted (joinPath path ("/".intercalate ns)) = isRooted path := by
  rw [joinPath_names hpath h]
  exact isRooted_renderPath (isComponent_of_mem_append h) (by simp [hne])

theorem joinPath_ne_empty (hpath : path ≠ "") (h : ∀ n ∈ ns, IsName n) (hne : ns ≠ []) :
    joinPath path ("/".intercalate ns) ≠ "" := by
  intro heq
  have hcomponents := pathComponents_joinPath hpath h hne
  rw [heq] at hcomponents
  have hnil : cleanComponents path ++ ns = [] := hcomponents.symm.trans pathComponents_empty
  exact hne (List.append_eq_nil_iff.1 hnil).2

theorem cleanComponents_joinPath (hpath : path ≠ "") (h : ∀ n ∈ ns, IsName n) (hne : ns ≠ []) :
    cleanComponents (joinPath path ("/".intercalate ns)) = cleanComponents path ++ ns := by
  rw [cleanComponents, pathComponents_joinPath hpath h hne, isRooted_joinPath hpath h hne, List.foldl_append,
    foldl_cleanStep_names _ _ h]
  -- The components of the path itself have been cleaned before.
  have hclean := (isClean_cleanComponents path).foldl_cleanStep
  rw [List.reverse_reverse] at hclean
  rw [hclean, List.reverse_append, List.reverse_reverse, List.reverse_reverse]

/-- Names joined one after the other are joined at once. -/
theorem joinPath_joinPath (hpath : path ≠ "") {n : String} (hn : IsName n) (h : ∀ m ∈ ns, IsName m) :
    joinPath (joinPath path n) ("/".intercalate ns) = joinPath path ("/".intercalate (n :: ns)) := by
  have hnames : ∀ m ∈ [n], IsName m := by simpa using hn
  have hsingle : n = "/".intercalate [n] := String.intercalate_singleton.symm
  rw [hsingle, joinPath_names (joinPath_ne_empty hpath hnames (by simp)) h,
    cleanComponents_joinPath hpath hnames (by simp), isRooted_joinPath hpath hnames (by simp), ← hsingle,
    joinPath_names hpath (by simpa [hn] using h)]
  simp

/-- Different names make different paths. -/
theorem joinPath_injective (hpath : path ≠ "") {ms : List String} (hm : ∀ m ∈ ms, IsName m) (h : ∀ n ∈ ns, IsName n)
    (hms : ms ≠ []) (hne : ns ≠ []) (heq : joinPath path ("/".intercalate ms) = joinPath path ("/".intercalate ns)) :
    ms = ns := by
  have hcomponents := congrArg pathComponents heq
  rw [pathComponents_joinPath hpath hm hms, pathComponents_joinPath hpath h hne] at hcomponents
  exact List.append_cancel_left hcomponents

end Join

/-! ### Places

A place is the list of the names that lead to it from the root, in reverse.  From a place a path leads to the one that it
is cleaned to behind the names. -/

/-- Above the root is the root itself. -/
theorem cleanStep_up {here : List String} (h : ".." ∉ here) : cleanStep true here ".." = here.tail := by
  cases here with
  | nil => rfl
  | cons d rest =>
    obtain ⟨hd, _⟩ := List.ne_and_not_mem_of_not_mem_cons h
    simp [cleanStep, hd.symm]

section Places

variable {rooted : Bool} {done done' start : List String}

private theorem IsClean.foldl_cleanStep_true (h : IsClean rooted done) (hstart : rooted = true → start = [])
    (c : String) :
    (FibTiming.cleanStep rooted done c).reverse.foldl (FibTiming.cleanStep true) start =
      FibTiming.cleanStep true (done.reverse.foldl (FibTiming.cleanStep true) start) c := by
  by_cases hdot : c = "."
  · simp [FibTiming.cleanStep, hdot]
  · by_cases hdots : c = ".."
    · subst hdots
      cases done with
      | nil =>
        cases rooted
        · rfl
        · rw [hstart rfl]
          rfl
      | cons d rest =>
        obtain ⟨_, hd, _⟩ := h
        by_cases hdd : d = ".."
        · simp [FibTiming.cleanStep, hdd, List.foldl_append]
        · -- The name is taken away at once, or put behind the place first.
          rw [List.reverse_cons, List.foldl_append, List.foldl_cons, List.foldl_nil, cleanStep_name true _ hd hdd]
          simp [FibTiming.cleanStep, hdd]
    · rw [cleanStep_name rooted done hdot hdots, List.reverse_cons, List.foldl_append]
      rfl

private theorem IsClean.foldl_foldl_cleanStep (h : IsClean rooted done) (hstart : rooted = true → start = [])
    {cs : List String} (hcs : ∀ c ∈ cs, IsComponent c) :
    (cs.foldl (FibTiming.cleanStep rooted) done).reverse.foldl (FibTiming.cleanStep true) start =
      cs.foldl (FibTiming.cleanStep true) (done.reverse.foldl (FibTiming.cleanStep true) start) := by
  induction cs generalizing done with
  | nil => rfl
  | cons c rest ih =>
    obtain ⟨hc, hrest⟩ := List.forall_mem_cons.1 hcs
    rw [List.foldl_cons, List.foldl_cons, ih (h.cleanStep hc) hrest, h.foldl_cleanStep_true hstart]

/-- A path leads where its cleaned form leads. -/
theorem foldl_cleanComponents {path : String} (hstart : isRooted path = true → start = []) :
    (cleanComponents path).foldl (cleanStep true) start = (pathComponents path).foldl (cleanStep true) start :=
  IsClean.foldl_foldl_cleanStep (show IsClean (isRooted path) [] from trivial) hstart
    fun _ => isComponent_of_mem_pathComponents

/-- Each `..` of a clean path takes a name away from the place, and then its own names follow. -/
private theorem IsClean.foldl_eq_append (h : IsClean rooted done) (hstart : ".." ∉ start) :
    done.reverse.foldl (FibTiming.cleanStep true) start = done.filter (· ≠ "..") ++ start.drop (done.count "..") := by
  induction done with
  | nil => rfl
  | cons c rest ih =>
    obtain ⟨_, hdot, hdots, hrest⟩ := h
    rw [List.reverse_cons, List.foldl_append, ih hrest, List.foldl_cons, List.foldl_nil]
    by_cases hc : c = ".."
    · have hnone : rest.filter (· ≠ "..") = [] := by
        rw [List.filter_eq_nil_iff]
        intro d hd
        simp [(hdots hc).2 d hd]
      have hdrop : ".." ∉ start.drop (rest.count "..") := fun hmem => hstart (List.mem_of_mem_drop hmem)
      rw [hc, List.filter_cons_of_neg (by simp), hnone, List.nil_append, List.nil_append, List.count_cons_self,
        cleanStep_up hdrop, List.tail_drop]
    · rw [cleanStep_name true _ hdot hc, List.filter_cons_of_pos (by simpa using hc), List.count_cons_of_ne hc,
        List.cons_append]

private theorem IsClean.eq_append_replicate (h : IsClean rooted done) :
    done = done.filter (· ≠ "..") ++ List.replicate (done.count "..") ".." := by
  induction done with
  | nil => rfl
  | cons c rest ih =>
    obtain ⟨_, _, hdots, hrest⟩ := h
    by_cases hc : c = ".."
    · have hall : c :: rest = List.replicate (c :: rest).length ".." := by
        rw [List.eq_replicate_iff]
        exact ⟨rfl, List.forall_mem_cons.2 ⟨hc, (hdots hc).2⟩⟩
      rw [hall]
      simp
    · rw [List.filter_cons_of_pos (by simpa using hc), List.count_cons_of_ne hc, List.cons_append, ← ih hrest]

/-- Clean paths are the same when they go up equally often and lead to the same place. -/
theorem IsClean.ext (h : IsClean rooted done) (h' : IsClean rooted done') (hstart : ".." ∉ start)
    (hcount : done.count ".." = done'.count "..")
    (hplace : done.reverse.foldl (FibTiming.cleanStep true) start =
      done'.reverse.foldl (FibTiming.cleanStep true) start) : done = done' := by
  rw [h.foldl_eq_append hstart, h'.foldl_eq_append hstart, hcount] at hplace
  rw [h.eq_append_replicate, h'.eq_append_replicate, List.append_cancel_right hplace, hcount]

end Places

end FibTiming
