import FibTiming.Proofs.ByteOrder
import FibTiming.Proofs.Paths
import FibTiming.Proofs.SavedFiles
import Mathlib.Data.List.Sort

/-!
# Files found in a tree

A search gives the files below a directory that are reached through visible directories and have the ending (`Finds`).
Their names below the directory are collected by `namesIn`, and the paths of the search are these names joined to the path
of the directory (`filesIn_eq`), so different files have different paths.  Sorted without repetitions, the paths are
settled by which ones they are, and the order of entries has no part in that (`FileSystem.find_lists`).
-/

namespace FibTiming

namespace Node

/-! ### Entries and their names -/

private theorem mem_of_entryNamed? {name : String} {node : Node} {es : List (String × Node)}
    (h : entryNamed? name es = some node) : (name, node) ∈ es := by
  induction es with
  | nil => simp [entryNamed?] at h
  | cons e rest ih =>
    obtain ⟨n, first⟩ := e
    unfold entryNamed? at h
    by_cases hn : n = name
    · rw [if_pos hn, Option.some.injEq] at h
      simp [hn, h]
    · rw [if_neg hn] at h
      exact List.mem_cons_of_mem _ (ih h)

private theorem entryNamed?_of_mem {name : String} {node : Node} {es : List (String × Node)}
    (hnodup : (es.map Prod.fst).Nodup) (h : (name, node) ∈ es) : entryNamed? name es = some node := by
  induction es with
  | nil => simp at h
  | cons e rest ih =>
    rw [List.map_cons, List.nodup_cons] at hnodup
    unfold entryNamed?
    rcases List.mem_cons.1 h with rfl | h
    · simp
    · have hne : e.1 ≠ name := fun heq => hnodup.1 (heq ▸ List.mem_map_of_mem (f := Prod.fst) h)
      rw [if_neg hne]
      exact ih hnodup.2 h

/-- The entries of every directory of the tree have names, and different ones. -/
def WellNamed (root : Node) : Prop :=
  ∀ place es, root.at? place = some (directory es) → (es.map Prod.fst).Nodup ∧ ∀ e ∈ es, IsName e.1

theorem WellNamed.at? {root node : Node} {place : List String} (h : root.WellNamed) (hat : root.at? place = some node) :
    node.WellNamed := by
  intro below es hes
  apply h (place ++ below) es
  rw [at?_append, hat]
  exact hes

theorem wellNamed_file (content : String) : (file content).WellNamed := by
  intro place es h
  cases place <;> simp [Node.at?] at h

theorem wellNamed_directory_iff (es : List (String × Node)) :
    (directory es).WellNamed ↔ (es.map Prod.fst).Nodup ∧ ∀ e ∈ es, IsName e.1 ∧ e.2.WellNamed := by
  constructor
  · intro h
    obtain ⟨hnodup, hnames⟩ := h [] es rfl
    refine ⟨hnodup, fun e he => ⟨hnames e he, ?_⟩⟩
    have hat : (directory es).at? [e.1] = some e.2 := by
      rw [at?_directory_cons, entryNamed?_of_mem hnodup he]
      cases e.2 <;> rfl
    exact h.at? hat
  · rintro ⟨hnodup, hbelow⟩ place ds hds
    cases place with
    | nil =>
      simp only [Node.at?, Option.some.injEq, directory.injEq] at hds
      subst hds
      exact ⟨hnodup, fun e he => (hbelow e he).1⟩
    | cons name rest =>
      rw [at?_directory_cons] at hds
      obtain ⟨node, hnode, hrest⟩ := Option.bind_eq_some_iff.1 hds
      exact (hbelow _ (mem_of_entryNamed? hnode)).2 rest ds hrest

private theorem WellNamed.of_cons {name : String} {node : Node} {rest : List (String × Node)}
    (h : (directory ((name, node) :: rest)).WellNamed) :
    name ∉ rest.map Prod.fst ∧ node.WellNamed ∧ (directory rest).WellNamed := by
  rw [wellNamed_directory_iff, List.map_cons, List.nodup_cons, List.forall_mem_cons] at h
  obtain ⟨⟨hname, hnodup⟩, ⟨_, hnode⟩, hrest⟩ := h
  exact ⟨hname, hnode, (wellNamed_directory_iff rest).2 ⟨hnodup, hrest⟩⟩

theorem WellNamed.isName {root node : Node} {place : List String} (h : root.WellNamed)
    (hat : root.at? place = some node) : ∀ n ∈ place, IsName n := by
  induction place generalizing root with
  | nil => simp
  | cons name rest ih =>
    cases root with
    | file content => simp [Node.at?] at hat
    | directory es =>
      rw [at?_directory_cons] at hat
      obtain ⟨first, hfirst, hrest⟩ := Option.bind_eq_some_iff.1 hat
      obtain ⟨hname, hbelow⟩ := ((wellNamed_directory_iff es).1 h).2 _ (mem_of_entryNamed? hfirst)
      intro n hn
      rcases List.mem_cons.1 hn with rfl | hn
      · exact hname
      · exact ih hbelow hrest n hn

/-! ### The names of found files -/

/-- The names lead from a directory to a file with the ending, through directories none of which starts with a dot. -/
structure Finds (ending : String) (es : List (String × Node)) (rel : List String) : Prop where
  isFile : ∃ content, (directory es).at? rel = some (file content)
  hasEnding : ∃ name ∈ rel.getLast?, ending.toList <:+ name.toList
  visible : ∀ d ∈ rel.dropLast, ¬ ['.'] <+: d.toList

/-- The names of the files that a search finds below a directory. -/
def namesIn (ending : String) : List (String × Node) → List (List String)
  | [] => []
  | (name, file _) :: rest => (if hasEnding ending name then [[name]] else []) ++ namesIn ending rest
  | (name, directory es) :: rest =>
    (if isHidden name then [] else (namesIn ending es).map (name :: ·)) ++ namesIn ending rest

private theorem hasEnding_iff (ending name : String) :
    hasEnding ending name = true ↔ ending.toList <:+ name.toList := by
  rw [hasEnding, List.isPrefixOf_iff_prefix, List.reverse_prefix]

private theorem isHidden_iff (name : String) : isHidden name = true ↔ ['.'] <+: name.toList := by
  unfold isHidden
  cases name.toList with
  | nil => simp
  | cons c rest =>
    rw [List.head?_cons, beq_iff_eq, Option.some.injEq, List.cons_prefix_cons, eq_comm]
    simp

section Finds

variable {ending name : String} {es ds : List (String × Node)} {rel below : List String}

private theorem Finds.exists_cons (h : Finds ending es rel) : ∃ n below, rel = n :: below ∧ n ∈ es.map Prod.fst := by
  obtain ⟨content, hat⟩ := h.isFile
  cases rel with
  | nil => simp [at?] at hat
  | cons n below =>
    rw [at?_directory_cons] at hat
    obtain ⟨node, hnode, _⟩ := Option.bind_eq_some_iff.1 hat
    exact ⟨n, below, rfl, List.mem_map.2 ⟨_, mem_of_entryNamed? hnode, rfl⟩⟩

/-- A name that no other entry has leads where its entry leads. -/
private theorem at?_cons_entry (node : Node) (n : String) (below : List String) :
    (directory ((name, node) :: es)).at? (n :: below) =
      if name = n then node.at? below else (directory es).at? (n :: below) := by
  rw [at?_directory_cons, at?_directory_cons, entryNamed?]
  split <;> rfl

private theorem finds_cons_iff (node : Node) (hname : name ∉ es.map Prod.fst) :
    Finds ending ((name, node) :: es) rel ↔
      (∃ below, rel = name :: below ∧ (∃ content, node.at? below = some (file content)) ∧
        (∃ last ∈ (name :: below).getLast?, ending.toList <:+ last.toList) ∧
        ∀ d ∈ (name :: below).dropLast, ¬ ['.'] <+: d.toList) ∨
      Finds ending es rel := by
  constructor
  · intro h
    obtain ⟨n, below, rfl, _⟩ := h.exists_cons
    obtain ⟨content, hat⟩ := h.isFile
    rw [at?_cons_entry] at hat
    by_cases hn : name = n
    · subst hn
      rw [if_pos rfl] at hat
      exact .inl ⟨below, rfl, ⟨content, hat⟩, h.hasEnding, h.visible⟩
    · rw [if_neg hn] at hat
      exact .inr ⟨⟨content, hat⟩, h.hasEnding, h.visible⟩
  · rintro (⟨below, rfl, ⟨content, hat⟩, hend, hvisible⟩ | h)
    · refine ⟨⟨content, ?_⟩, hend, hvisible⟩
      rw [at?_cons_entry, if_pos rfl, hat]
    · obtain ⟨n, below, rfl, hn⟩ := h.exists_cons
      obtain ⟨content, hat⟩ := h.isFile
      have hne : name ≠ n := fun heq => hname (heq ▸ hn)
      refine ⟨⟨content, ?_⟩, h.hasEnding, h.visible⟩
      rw [at?_cons_entry, if_neg hne, hat]

private theorem finds_file_cons_iff (content : String) (hname : name ∉ es.map Prod.fst) :
    Finds ending ((name, file content) :: es) rel ↔ rel = [name] ∧ ending.toList <:+ name.toList ∨ Finds ending es rel := by
  rw [finds_cons_iff _ hname]
  apply or_congr_left
  constructor
  · rintro ⟨below, rfl, ⟨c, hat⟩, ⟨last, hlast, hend⟩, _⟩
    cases below with
    | nil =>
      simp only [List.getLast?_singleton, Option.mem_def, Option.some.injEq] at hlast
      subst hlast
      exact ⟨rfl, hend⟩
    | cons n more => simp [at?] at hat
  · rintro ⟨rfl, hend⟩
    exact ⟨[], rfl, ⟨content, rfl⟩, ⟨name, by simp, hend⟩, by simp⟩

private theorem finds_directory_cons_iff (hname : name ∉ es.map Prod.fst) :
    Finds ending ((name, directory ds) :: es) rel ↔
      (∃ below, rel = name :: below ∧ ¬ ['.'] <+: name.toList ∧ Finds ending ds below) ∨ Finds ending es rel := by
  rw [finds_cons_iff _ hname]
  apply or_congr_left
  constructor
  · rintro ⟨below, rfl, ⟨c, hat⟩, hend, hvisible⟩
    cases below with
    | nil => simp [at?] at hat
    | cons n more =>
      rw [List.getLast?_cons_cons] at hend
      rw [List.dropLast_cons_of_ne_nil (by simp), List.forall_mem_cons] at hvisible
      exact ⟨n :: more, rfl, hvisible.1, ⟨c, hat⟩, hend, hvisible.2⟩
  · rintro ⟨below, rfl, hdot, h⟩
    obtain ⟨n, more, rfl, _⟩ := h.exists_cons
    refine ⟨n :: more, rfl, h.isFile, ?_, ?_⟩
    · rw [List.getLast?_cons_cons]
      exact h.hasEnding
    · rw [List.dropLast_cons_of_ne_nil (by simp), List.forall_mem_cons]
      exact ⟨hdot, h.visible⟩

/-- The collected names are those of the found files. -/
theorem mem_namesIn_iff (hes : (directory es).WellNamed) : rel ∈ namesIn ending es ↔ Finds ending es rel := by
  -- By induction on the tree, entry by entry: a directory brings its own entries, below its name.
  induction es using namesIn.induct generalizing rel with
  | case1 =>
    simp only [namesIn, List.not_mem_nil, false_iff]
    intro h
    obtain ⟨n, below, _, hn⟩ := h.exists_cons
    simp at hn
  | case2 name content rest ih =>
    obtain ⟨hname, _, hrest⟩ := hes.of_cons
    rw [namesIn, List.mem_append, ih hrest, finds_file_cons_iff content hname, ← hasEnding_iff]
    apply or_congr_left
    split
    · rename_i hend
      simp [hend]
    · rename_i hend
      simp [hend]
  | case3 name ds rest ihdir ih =>
    obtain ⟨hname, hds, hrest⟩ := hes.of_cons
    rw [namesIn, List.mem_append, ih hrest, finds_directory_cons_iff hname, ← isHidden_iff]
    apply or_congr_left
    split
    · rename_i hhidden
      simp [hhidden]
    · rename_i hhidden
      rw [List.mem_map]
      constructor
      · rintro ⟨below, hbelow, rfl⟩
        exact ⟨below, rfl, hhidden, (ihdir hds).1 hbelow⟩
      · rintro ⟨below, rfl, _, hbelow⟩
        exact ⟨below, (ihdir hds).2 hbelow, rfl⟩

/-- Names that start with one entry are apart from those that start with the others. -/
private theorem nodup_append_namesIn {first : List (List String)} (hfirst : first.Nodup)
    (hhead : ∀ rel ∈ first, rel.head? = some name) (hname : name ∉ es.map Prod.fst) (hes : (directory es).WellNamed)
    (hrest : (namesIn ending es).Nodup) : (first ++ namesIn ending es).Nodup := by
  rw [List.nodup_append]
  refine ⟨hfirst, hrest, ?_⟩
  rintro rel hrel _ hmem rfl
  obtain ⟨n, below, rfl, hn⟩ := ((mem_namesIn_iff hes).1 hmem).exists_cons
  have heq : n = name := by simpa using hhead _ hrel
  exact hname (heq ▸ hn)

private theorem nodup_namesIn (ending : String) (hes : (directory es).WellNamed) : (namesIn ending es).Nodup := by
  induction es using namesIn.induct with
  | case1 => simp [namesIn]
  | case2 name content rest ih =>
    obtain ⟨hname, _, hrest⟩ := hes.of_cons
    rw [namesIn]
    refine nodup_append_namesIn ?_ ?_ hname hrest (ih hrest)
    · split <;> simp
    · split <;> simp
  | case3 name ds rest ihdir ih =>
    obtain ⟨hname, hds, hrest⟩ := hes.of_cons
    have hmap : ((namesIn ending ds).map (name :: ·)).Nodup :=
      (ihdir hds).map fun _ _ heq => (List.cons.inj heq).2
    rw [namesIn]
    refine nodup_append_namesIn ?_ ?_ hname hrest (ih hrest)
    · split
      · simp
      · exact hmap
    · split <;> simp

/-- The paths of a search are the collected names, joined to the path of the directory. -/
theorem filesIn_eq {path : String} (hpath : path ≠ "") (ending : String) (hes : (directory es).WellNamed) :
    filesIn ending path es = (namesIn ending es).map fun rel => joinPath path ("/".intercalate rel) := by
  induction es using namesIn.induct generalizing path with
  | case1 => simp [namesIn, filesIn]
  | case2 name content rest ih =>
    obtain ⟨_, _, hrest⟩ := hes.of_cons
    rw [filesIn, filesBelow, namesIn, List.map_append, ih hpath hrest]
    split <;> simp
  | case3 name ds rest ihdir ih =>
    obtain ⟨_, hds, hrest⟩ := hes.of_cons
    have hname : IsName name := (((wellNamed_directory_iff _).1 hes).2 _ (List.mem_cons_self ..)).1
    have hnames : ∀ n ∈ [name], IsName n := by simpa using hname
    have hjoin : joinPath path name ≠ "" := by
      have := joinPath_ne_empty hpath hnames (by simp)
      rwa [String.intercalate_singleton] at this
    rw [filesIn, filesBelow, namesIn, List.map_append, ih hpath hrest, ihdir hjoin hds]
    congr 1
    split
    · rfl
    · -- The search goes on with the path of the inner directory, to which the names below it are joined.
      rw [List.map_map]
      apply List.map_congr_left
      intro rel hrel
      obtain ⟨content, hat⟩ := ((mem_namesIn_iff hds).1 hrel).isFile
      exact joinPath_joinPath hpath hname (hds.isName hat)

end Finds

/-! ### Texts in order -/

private theorem perm_insertSorted (s : String) (ss : List String) : (insertSorted s ss).Perm (s :: ss) := by
  induction ss with
  | nil => exact List.Perm.refl _
  | cons t rest ih =>
    unfold insertSorted
    split
    · exact List.Perm.refl _
    · exact (ih.cons t).trans (List.Perm.swap s t rest)

private theorem perm_sortTexts (ss : List String) : (sortTexts ss).Perm ss := by
  induction ss with
  | nil => exact List.Perm.refl _
  | cons s rest ih => exact (perm_insertSorted s _).trans (ih.cons s)

private theorem pairwise_insertSorted {s : String} {ss : List String} (h : ss.Pairwise (· ≤ ·)) :
    (insertSorted s ss).Pairwise (· ≤ ·) := by
  induction ss with
  | nil => simp [insertSorted]
  | cons t rest ih =>
    have hcons := List.pairwise_cons.1 h
    unfold insertSorted
    split
    · rename_i hlt
      have hle : s ≤ t := String.not_lt.1 (String.lt_asymm hlt)
      rw [List.pairwise_cons]
      refine ⟨?_, h⟩
      intro u hu
      rcases List.mem_cons.1 hu with rfl | hu
      · exact hle
      · exact String.le_trans hle (hcons.1 u hu)
    · rename_i hlt
      rw [List.pairwise_cons]
      refine ⟨?_, ih hcons.2⟩
      intro u hu
      rcases List.mem_cons.1 ((perm_insertSorted s rest).mem_iff.1 hu) with rfl | hu
      · exact String.not_lt.1 hlt
      · exact hcons.1 u hu

private theorem pairwise_sortTexts (ss : List String) : (sortTexts ss).Pairwise (· ≤ ·) := by
  induction ss with
  | nil => exact List.Pairwise.nil
  | cons s rest ih => exact pairwise_insertSorted ih

/-- Sorting different texts gives them in the strict order of their bytes. -/
private theorem pairwise_bytes_sortTexts {ss : List String} (h : ss.Nodup) :
    (sortTexts ss).Pairwise fun s t => Text.bytes s < Text.bytes t := by
  have hnodup : (sortTexts ss).Nodup := (perm_sortTexts ss).nodup_iff.2 h
  refine ((pairwise_sortTexts ss).and hnodup).imp ?_
  rintro s t ⟨hle, hne⟩
  exact Text.bytes_lt_of_lt (String.not_le.1 fun hge => hne (String.le_antisymm hle hge))

/-! ### The order of entries -/

/-- The same entries in another order, in the directory itself or in directories below it. -/
inductive SameEntries : List (String × Node) → List (String × Node) → Prop
  | refl (es) : SameEntries es es
  | swap (d e es) : SameEntries (d :: e :: es) (e :: d :: es)
  | cons (e) {es es'} (h : SameEntries es es') : SameEntries (e :: es) (e :: es')
  | inside (name es) {ds ds'} (h : SameEntries ds ds') :
    SameEntries ((name, directory ds) :: es) ((name, directory ds') :: es)
  | trans {es es' es''} (h : SameEntries es es') (h' : SameEntries es' es'') : SameEntries es es''

/-- The same file, or the same directory with its entries in another order. -/
inductive SameNode : Node → Node → Prop
  | file (content) : SameNode (file content) (file content)
  | directory {ds ds'} (h : SameEntries ds ds') : SameNode (directory ds) (directory ds')

private theorem SameNode.refl (node : Node) : SameNode node node := by
  cases node with
  | file content => exact .file content
  | directory ds => exact .directory (.refl ds)

private theorem SameNode.trans {node node' node'' : Node} (h : SameNode node node') (h' : SameNode node' node'') :
    SameNode node node'' := by
  cases h with
  | file content => exact h'
  | directory h =>
    cases h' with
    | directory h' => exact .directory (h.trans h')

section SameEntries

variable {es es' : List (String × Node)}

private theorem SameEntries.symm (h : SameEntries es es') : SameEntries es' es := by
  induction h with
  | refl es => exact .refl es
  | swap d e es => exact .swap e d es
  | cons e _ ih => exact .cons e ih
  | inside name es _ ih => exact .inside name es ih
  | trans _ _ ih ih' => exact .trans ih' ih

private theorem SameEntries.of_perm (h : es.Perm es') : SameEntries es es' := by
  induction h with
  | nil => exact .refl []
  | cons e _ ih => exact .cons e ih
  | swap d e es => exact .swap e d es
  | trans _ _ ih ih' => exact .trans ih ih'

private theorem SameEntries.perm_names (h : SameEntries es es') : (es.map Prod.fst).Perm (es'.map Prod.fst) := by
  induction h with
  | refl es => exact List.Perm.refl _
  | swap d e es => exact List.Perm.swap ..
  | cons e _ ih => exact ih.cons e.1
  | inside name es _ _ => exact List.Perm.refl _
  | trans _ _ ih ih' => exact ih.trans ih'

private theorem SameEntries.wellNamed (h : SameEntries es es') (hes : (directory es).WellNamed) :
    (directory es').WellNamed := by
  induction h with
  | refl es => exact hes
  | swap d e es =>
    rw [wellNamed_directory_iff] at hes ⊢
    refine ⟨(SameEntries.swap d e es).perm_names.nodup_iff.1 hes.1, fun f hf => hes.2 f ?_⟩
    exact (List.Perm.swap e d es).mem_iff.2 hf
  | cons e h ih =>
    obtain ⟨_, _, hrest⟩ := hes.of_cons
    rw [wellNamed_directory_iff] at hes ⊢
    refine ⟨(h.cons e).perm_names.nodup_iff.1 hes.1, ?_⟩
    rw [List.forall_mem_cons] at hes ⊢
    exact ⟨hes.2.1, ((wellNamed_directory_iff _).1 (ih hrest)).2⟩
  | inside name es h ih =>
    obtain ⟨_, hds, _⟩ := hes.of_cons
    rw [wellNamed_directory_iff, List.forall_mem_cons] at hes ⊢
    exact ⟨hes.1, ⟨hes.2.1.1, ih hds⟩, hes.2.2⟩
  | trans _ _ ih ih' => exact ih' (ih hes)

/-- With different names, the order of the entries does not matter for what a name leads to. -/
theorem SameEntries.entryNamed? (h : SameEntries es es') (hnodup : (es.map Prod.fst).Nodup) {name : String} {node : Node}
    (hnode : Node.entryNamed? name es = some node) :
    ∃ node', Node.entryNamed? name es' = some node' ∧ SameNode node node' := by
  induction h generalizing node with
  | refl es => exact ⟨node, hnode, .refl node⟩
  | swap d e es =>
    refine ⟨node, ?_, .refl node⟩
    apply entryNamed?_of_mem ((SameEntries.swap d e es).perm_names.nodup_iff.1 hnodup)
    exact (List.Perm.swap e d es).mem_iff.1 (mem_of_entryNamed? hnode)
  | cons e h ih =>
    obtain ⟨n, first⟩ := e
    rw [List.map_cons, List.nodup_cons] at hnodup
    rw [Node.entryNamed?] at hnode ⊢
    by_cases hn : n = name
    · rw [if_pos hn] at hnode ⊢
      exact ⟨node, hnode, .refl node⟩
    · rw [if_neg hn] at hnode ⊢
      exact ih hnodup.2 hnode
  | inside n es h _ =>
    rw [Node.entryNamed?] at hnode ⊢
    by_cases hn : n = name
    · rw [if_pos hn, Option.some.injEq] at hnode
      subst hnode
      exact ⟨_, if_pos hn, .directory h⟩
    · rw [if_neg hn] at hnode ⊢
      exact ⟨node, hnode, .refl node⟩
  | trans h _ ih ih' =>
    obtain ⟨mid, hmid, hsame⟩ := ih hnodup hnode
    obtain ⟨node', hnode', hsame'⟩ := ih' (h.perm_names.nodup_iff.1 hnodup) hmid
    exact ⟨node', hnode', hsame.trans hsame'⟩

private theorem SameNode.at? {root root' node : Node} {place : List String} (h : SameNode root root')
    (hroot : root.WellNamed)
    (hat : root.at? place = some node) : ∃ node', root'.at? place = some node' ∧ SameNode node node' := by
  induction place generalizing root root' with
  | nil =>
    have hroot' : ∀ r : Node, r.at? [] = some r := by
      intro r
      cases r <;> rfl
    rw [hroot', Option.some.injEq] at hat
    exact ⟨root', hroot' root', hat ▸ h⟩
  | cons name rest ih =>
    cases h with
    | file content => simp [Node.at?] at hat
    | directory h =>
      rw [at?_directory_cons] at hat ⊢
      obtain ⟨first, hfirst, hrest⟩ := Option.bind_eq_some_iff.1 hat
      obtain ⟨hnodup, hbelow⟩ := (wellNamed_directory_iff _).1 hroot
      obtain ⟨first', hfirst', hsame⟩ := h.entryNamed? hnodup hfirst
      obtain ⟨node', hnode', hsame'⟩ := ih hsame (hbelow _ (mem_of_entryNamed? hfirst)).2 hrest
      exact ⟨node', by rw [hfirst']; exact hnode', hsame'⟩

private theorem SameEntries.finds {ending : String} {rel : List String} (h : SameEntries es es')
    (hes : (directory es).WellNamed) (hfinds : Finds ending es rel) : Finds ending es' rel := by
  obtain ⟨content, hat⟩ := hfinds.isFile
  obtain ⟨node', hat', hsame⟩ := (SameNode.directory h).at? hes hat
  cases hsame with
  | file => exact ⟨⟨content, hat'⟩, hfinds.hasEnding, hfinds.visible⟩

private theorem SameEntries.finds_iff {ending : String} {rel : List String} (h : SameEntries es es')
    (hes : (directory es).WellNamed) : Finds ending es rel ↔ Finds ending es' rel :=
  ⟨h.finds hes, h.symm.finds (h.wellNamed hes)⟩

end SameEntries

/-! ### Listings -/

/-- The list has exactly the paths of the found files, one for each of them, in the strict order of their bytes. -/
structure Lists (ending path : String) (es : List (String × Node)) (files : List String) : Prop where
  increasing : files.Pairwise fun s t => Text.bytes s < Text.bytes t
  mem_iff : ∀ p, p ∈ files ↔ ∃ rel, Finds ending es rel ∧ p = joinPath path ("/".intercalate rel)
  apart : ∀ rel rel', Finds ending es rel → Finds ending es rel' →
    joinPath path ("/".intercalate rel) = joinPath path ("/".intercalate rel') → rel = rel'

section Listing

variable {ending path : String} {es es' : List (String × Node)}

private theorem findFrom_directory (es : List (String × Node)) (path ending : String) :
    (directory es).findFrom path ending = sortTexts (filesIn ending path es) := by
  rw [findFrom, filesBelow]

theorem isName_of_finds (hes : (directory es).WellNamed) {rel : List String} (h : Finds ending es rel) :
    (∀ n ∈ rel, IsName n) ∧ rel ≠ [] := by
  obtain ⟨content, hat⟩ := h.isFile
  obtain ⟨n, below, rfl, _⟩ := h.exists_cons
  exact ⟨hes.isName hat, by simp⟩

private theorem joinPath_inj_of_finds (hpath : path ≠ "") (hes : (directory es).WellNamed) {rel rel' : List String}
    (h : Finds ending es rel) (h' : Finds ending es rel')
    (heq : joinPath path ("/".intercalate rel) = joinPath path ("/".intercalate rel')) : rel = rel' := by
  obtain ⟨hnames, hne⟩ := isName_of_finds hes h
  obtain ⟨hnames', hne'⟩ := isName_of_finds hes h'
  exact joinPath_injective hpath hnames hnames' hne hne' heq

theorem lists_findFrom (hpath : path ≠ "") (hes : (directory es).WellNamed) :
    Lists ending path es ((directory es).findFrom path ending) := by
  rw [findFrom_directory, filesIn_eq hpath ending hes]
  refine ⟨pairwise_bytes_sortTexts ?_, ?_, fun _ _ => joinPath_inj_of_finds hpath hes⟩
  · apply (nodup_namesIn ending hes).map_on
    intro rel hrel rel' hrel' heq
    exact joinPath_inj_of_finds hpath hes ((mem_namesIn_iff hes).1 hrel) ((mem_namesIn_iff hes).1 hrel') heq
  · intro p
    rw [(perm_sortTexts _).mem_iff, List.mem_map]
    constructor
    · rintro ⟨rel, hrel, rfl⟩
      exact ⟨rel, (mem_namesIn_iff hes).1 hrel, rfl⟩
    · rintro ⟨rel, hrel, rfl⟩
      exact ⟨rel, (mem_namesIn_iff hes).2 hrel, rfl⟩

private theorem sortTexts_perm {ss ss' : List String} (h : ss.Perm ss') : sortTexts ss = sortTexts ss' := by
  have hperm : (sortTexts ss).Perm (sortTexts ss') := (perm_sortTexts ss).trans (h.trans (perm_sortTexts ss').symm)
  exact hperm.eq_of_pairwise (fun _ _ _ _ => String.le_antisymm) (pairwise_sortTexts ss) (pairwise_sortTexts ss')

private theorem SameEntries.findFrom_eq (h : SameEntries es es') (hpath : path ≠ "") (hes : (directory es).WellNamed) :
    (directory es').findFrom path ending = (directory es).findFrom path ending := by
  have hes' := h.wellNamed hes
  have hperm : (namesIn ending es').Perm (namesIn ending es) := by
    rw [List.perm_ext_iff_of_nodup (nodup_namesIn ending hes') (nodup_namesIn ending hes)]
    intro rel
    rw [mem_namesIn_iff hes', mem_namesIn_iff hes, h.finds_iff hes]
  rw [findFrom_directory, findFrom_directory, filesIn_eq hpath ending hes', filesIn_eq hpath ending hes]
  exact sortTexts_perm (hperm.map _)

end Listing

end Node

/-! ### File systems -/

namespace FileSystem

open Node

private theorem resolve_eq_directory_iff (files : FileSystem) (path : String) (es : List (String × Node)) :
    files.resolve path = .ok (directory es) ↔
      checkPath path = .ok () ∧ ∃ place, files.root.locate (files.start path) (pathComponents path) = .ok place ∧
        files.root.at? place.reverse = some (directory es) := by
  unfold resolve
  simp only [bind, Except.bind]
  cases checkPath path with
  | error e => simp
  | ok u =>
    cases files.root.locate (files.start path) (pathComponents path) with
    | error e => simp
    | ok place =>
      simp only [true_and, Except.ok.injEq, exists_eq_left']
      split
      · rename_i hat
        simp [hat]
      · rename_i content hat
        simp only [hat, Option.some.injEq, reduceCtorEq, iff_false]
        split <;> simp
      · rename_i node hfile hat
        simp [hat]

/-- A path leads to the same directory when entries are listed in another order. -/
private theorem exists_resolve_of_sameEntries {ds ds' es : List (String × Node)} {working : List String} {path : String}
    (h : SameEntries ds ds') (hds : (directory ds).WellNamed)
    (hpath : FileSystem.resolve ⟨directory ds, working⟩ path = .ok (directory es)) :
    ∃ es', FileSystem.resolve ⟨directory ds', working⟩ path = .ok (directory es') ∧ SameEntries es es' := by
  obtain ⟨hcheck, place, hlocate, hat⟩ := (resolve_eq_directory_iff ..).1 hpath
  have hkeep : ∀ p, (directory ds).IsDirectory p → (directory ds').IsDirectory p := by
    rintro p ⟨fs, hfs⟩
    obtain ⟨node', hnode', hsame⟩ := (SameNode.directory h).at? hds hfs
    cases hsame with
    | directory _ => exact ⟨_, hnode'⟩
  -- Every place on the way is still a directory, and so is the last one.
  obtain ⟨node', hnode', hsame⟩ := (SameNode.directory h).at? hds hat
  cases hsame with
  | directory hsame =>
    refine ⟨_, (resolve_eq_directory_iff ..).2 ⟨hcheck, place, ?_, hnode'⟩, hsame⟩
    exact locate_of_isDirectory hkeep hlocate ⟨es, hat⟩

private theorem find_of_resolve {ending path : String} {es : List (String × Node)} (hending : ending ≠ "")
    {files : FileSystem} (h : files.resolve path = .ok (directory es)) :
    files.find path ending = .ok ((directory es).findFrom path ending) := by
  rw [find, if_neg hending, h]

/-- A search below a directory lists the files that it has to find, in order, however the path is spelled and the
entries of the tree are listed. -/
theorem find_lists {ending path : String} {es : List (String × Node)} (hending : ending ≠ "") (hpath : path ≠ "")
    (hes : (directory es).WellNamed) :
    ∃ found, Lists ending path es found ∧
      (∀ es', SameEntries es es' → (directory es').findFrom path ending = found) ∧
      ∀ ds working, (directory ds).WellNamed →
        FileSystem.resolve ⟨directory ds, working⟩ path = .ok (directory es) →
        FileSystem.find ⟨directory ds, working⟩ path ending = .ok found ∧
        ∀ ds', SameEntries ds ds' → FileSystem.find ⟨directory ds', working⟩ path ending = .ok found := by
  refine ⟨(directory es).findFrom path ending, lists_findFrom hpath hes, fun es' h => h.findFrom_eq hpath hes, ?_⟩
  intro ds working hds hresolve
  refine ⟨find_of_resolve hending hresolve, ?_⟩
  intro ds' hsame
  obtain ⟨es', hresolve', hbelow⟩ := exists_resolve_of_sameEntries hsame hds hresolve
  rw [find_of_resolve hending hresolve', hbelow.findFrom_eq hpath hes]

/-- A directory in which the file `a.hcl` stands behind the directory `a` but sorts before what is in it. -/
def mixedEntries : List (String × Node) :=
  [("a", directory [("c.hcl", file ""), ("b.hcl", file "")]), ("a.hcl", file ""), (".x", directory [("d.hcl", file "")]),
    (".e.hcl", file ""), ("notes.txt", file "")]

theorem find_lists_mixed :
    FileSystem.find ⟨directory [(".d", directory mixedEntries)], [".d"]⟩ "./../.d/" ".hcl" =
      .ok ["../.d/.e.hcl", "../.d/a.hcl", "../.d/a/b.hcl", "../.d/a/c.hcl"] ∧
    FileSystem.find ⟨directory [(".d", directory mixedEntries.reverse)], [".d"]⟩ "./../.d/" ".hcl" =
      .ok ["../.d/.e.hcl", "../.d/a.hcl", "../.d/a/b.hcl", "../.d/a/c.hcl"] ∧
    Lists ".hcl" "./../.d/" mixedEntries ["../.d/.e.hcl", "../.d/a.hcl", "../.d/a/b.hcl", "../.d/a/c.hcl"] := by
  have hes : (directory mixedEntries).WellNamed := by
    simp only [mixedEntries, wellNamed_directory_iff, List.forall_mem_cons, wellNamed_file, List.not_mem_nil,
      false_implies, implies_true, and_true]
    decide
  have hds : (directory [(".d", directory mixedEntries)]).WellNamed := by
    rw [wellNamed_directory_iff, List.forall_mem_cons]
    exact ⟨by decide, ⟨by decide, hes⟩, by simp⟩
  have hfind : FileSystem.find ⟨directory [(".d", directory mixedEntries)], [".d"]⟩ "./../.d/" ".hcl" =
      .ok ["../.d/.e.hcl", "../.d/a.hcl", "../.d/a/b.hcl", "../.d/a/c.hcl"] := by
    decide
  have hreverse : SameEntries [(".d", directory mixedEntries)] [(".d", directory mixedEntries.reverse)] :=
    .inside ".d" [] (.of_perm (List.reverse_perm mixedEntries).symm)
  obtain ⟨found, hlists, _, hfound⟩ := find_lists (show ".hcl" ≠ "" by decide) (show "./../.d/" ≠ "" by decide) hes
  obtain ⟨heq, hother⟩ := hfound _ [".d"] hds rfl
  rw [hfind, Except.ok.injEq] at heq
  subst heq
  exact ⟨hfind, hother _ hreverse, hlists⟩

end FileSystem

end FibTiming
