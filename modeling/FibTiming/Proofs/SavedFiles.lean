import FibTiming.Files
import Mathlib.Data.List.Basic

/-!
# Files that have been written

A file that has been written can be read under the path it was written to, with the content that was written
(`FileSystem.read?_write`).  The path may lead up and down through the tree, from the root or from the working directory,
but every place on the way is a directory, and a write leaves the directories that are there (`Node.isDirectory_put`).
-/

namespace FibTiming

namespace Node

/-! ### Nodes in a tree -/

private theorem entryNamed?_putNamed (name other : String) (node : Node) (es : List (String × Node)) :
    entryNamed? other (putNamed name node es) = if name = other then some node else entryNamed? other es := by
  induction es with
  | nil => rfl
  | cons e rest ih =>
    obtain ⟨n, old⟩ := e
    unfold putNamed
    by_cases hlt : name < n
    · rw [if_pos hlt]
      rfl
    · rw [if_neg hlt]
      by_cases heq : name = n
      · rw [if_pos heq]
        subst heq
        by_cases ho : name = other <;> simp [entryNamed?, ho]
      · rw [if_neg heq, entryNamed?, entryNamed?, ih]
        by_cases ho : n = other
        · have hne : name ≠ other := fun h => heq (h.trans ho.symm)
          simp [ho, hne]
        · simp [ho]

theorem at?_directory_cons (es : List (String × Node)) (name : String) (rest : List String) :
    (directory es).at? (name :: rest) = (entryNamed? name es).bind (·.at? rest) := by
  rw [at?]
  cases entryNamed? name es <;> rfl

theorem at?_append (root : Node) (p q : List String) : root.at? (p ++ q) = (root.at? p).bind (·.at? q) := by
  induction p generalizing root with
  | nil => cases root <;> rfl
  | cons name rest ih =>
    cases root with
    | file content => rfl
    | directory es =>
      rw [List.cons_append, at?_directory_cons, at?_directory_cons]
      cases entryNamed? name es with
      | none => rfl
      | some node => exact ih node

private theorem at?_put (root node : Node) (names : List String) : (root.put node names).at? names = some node := by
  induction names generalizing root with
  | nil => cases root <;> cases node <;> rfl
  | cons name rest ih =>
    cases root with
    | file content =>
      rw [put, at?_directory_cons]
      simp [entryNamed?, ih]
    | directory es =>
      rw [put, at?_directory_cons, entryNamed?_putNamed]
      simp [ih]

/-! ### Directories -/

/-- There is a directory at the place. -/
def IsDirectory (root : Node) (names : List String) : Prop := ∃ es, root.at? names = some (directory es)

private theorem not_isDirectory_file (content : String) (names : List String) : ¬ (file content).IsDirectory names := by
  rintro ⟨es, h⟩
  cases names <;> simp [at?] at h

private theorem isDirectory_cons_iff (es : List (String × Node)) (name : String) (rest : List String) :
    (directory es).IsDirectory (name :: rest) ↔ ∃ node, entryNamed? name es = some node ∧ node.IsDirectory rest := by
  unfold IsDirectory
  rw [at?_directory_cons]
  cases entryNamed? name es <;> simp

/-- What is put where no directory was leaves all directories there. -/
theorem isDirectory_put {root : Node} {names : List String} (node : Node) (h : ¬ root.IsDirectory names)
    {p : List String} (hp : root.IsDirectory p) : (root.put node names).IsDirectory p := by
  induction names generalizing root p with
  | nil =>
    cases root with
    | file content => exact absurd hp (not_isDirectory_file content p)
    | directory es => exact absurd ⟨es, rfl⟩ h
  | cons name rest ih =>
    cases root with
    | file content => exact absurd hp (not_isDirectory_file content p)
    | directory es =>
      cases p with
      | nil => exact ⟨_, rfl⟩
      | cons c p =>
        rw [put, isDirectory_cons_iff, entryNamed?_putNamed]
        obtain ⟨old, hold, hbelow⟩ := (isDirectory_cons_iff es c p).1 hp
        by_cases hc : name = c
        · subst hc
          have hrest : ¬ old.IsDirectory rest := fun hr => h ((isDirectory_cons_iff es name rest).2 ⟨old, hold, hr⟩)
          refine ⟨_, if_pos rfl, ?_⟩
          rw [hold]
          exact ih hrest hbelow
        · exact ⟨old, by rw [if_neg hc, hold], hbelow⟩

/-! ### Paths

Places are lists of names in reverse, as `locate` keeps them. -/

/-- The component leads from one place to another. -/
inductive Leads (root : Node) : List String → String → List String → Prop
  | stay {here} : Leads root here "." here
  | up {here} : Leads root here ".." here.tail
  | down {here c} (hdot : c ≠ ".") (hdots : c ≠ "..") (hlength : c.utf8ByteSize ≤ maxNameLength)
    (hentry : (root.at? (c :: here).reverse).isSome) : Leads root here c (c :: here)

/-- The entry of a directory at a place. -/
private theorem at?_cons_reverse {root : Node} {here : List String} {es : List (String × Node)} (c : String)
    (h : root.at? here.reverse = some (directory es)) : root.at? (c :: here).reverse = entryNamed? c es := by
  rw [List.reverse_cons, at?_append, h]
  show (directory es).at? [c] = _
  rw [at?_directory_cons]
  cases entryNamed? c es with
  | none => rfl
  | some node => cases node <;> rfl

theorem locate_cons_eq_ok_iff (root : Node) (here : List String) (c : String) (rest place : List String) :
    locate root here (c :: rest) = .ok place ↔
      root.IsDirectory here.reverse ∧ ∃ next, Leads root here c next ∧ locate root next rest = .ok place := by
  have hentry : ∀ es, root.at? here.reverse = some (directory es) → root.at? (c :: here).reverse = entryNamed? c es :=
    fun es hes => at?_cons_reverse c hes
  unfold IsDirectory
  constructor
  · intro h
    rw [locate.eq_def] at h
    dsimp only at h
    split at h
    · cases h
    · cases h
    · rename_i es hes
      refine ⟨⟨es, hes⟩, ?_⟩
      by_cases hdot : c = "."
      · subst hdot
        exact ⟨here, .stay, by simpa using h⟩
      · by_cases hdots : c = ".."
        · subst hdots
          exact ⟨here.tail, .up, by simpa using h⟩
        · by_cases hlength : maxNameLength < c.utf8ByteSize
          · simp [hdot, hdots, hlength] at h
          · by_cases hsome : (entryNamed? c es).isSome
            · refine ⟨c :: here, .down hdot hdots (Nat.le_of_not_lt hlength) (by rwa [hentry es hes]), ?_⟩
              simpa [hdot, hdots, hlength, hsome] using h
            · simp [hdot, hdots, hlength, hsome] at h
  · rintro ⟨⟨es, hes⟩, next, hleads, hrest⟩
    rw [locate.eq_def]
    dsimp only
    rw [hes]
    dsimp only
    cases hleads with
    | stay => exact hrest
    | up => exact hrest
    | down hdot hdots hlength hsome =>
      rw [hentry es hes] at hsome
      simp [hdot, hdots, Nat.not_lt.2 hlength, hsome, hrest]

private theorem isDirectory_of_locate {root : Node} {here cs place : List String} (h : locate root here cs = .ok place)
    (hplace : root.IsDirectory place.reverse) : root.IsDirectory here.reverse := by
  cases cs with
  | nil =>
    cases h
    exact hplace
  | cons c rest => exact ((locate_cons_eq_ok_iff ..).1 h).1

/-- A path that leads to a directory leads there as long as the directories stay. -/
theorem locate_of_isDirectory {root root' : Node} (hkeep : ∀ p, root.IsDirectory p → root'.IsDirectory p)
    {here cs place : List String} (h : locate root here cs = .ok place) (hplace : root.IsDirectory place.reverse) :
    locate root' here cs = .ok place := by
  induction cs generalizing here with
  | nil => exact h
  | cons c rest ih =>
    obtain ⟨hhere, next, hleads, hrest⟩ := (locate_cons_eq_ok_iff ..).1 h
    -- Every place on the way is a directory, so the entry that is followed is still there.
    obtain ⟨es, hnext⟩ := hkeep _ (isDirectory_of_locate hrest hplace)
    refine (locate_cons_eq_ok_iff ..).2 ⟨hkeep _ hhere, next, ?_, ih hrest⟩
    cases hleads with
    | stay => exact .stay
    | up => exact .up
    | down hdot hdots hlength _ => exact .down hdot hdots hlength (by rw [hnext]; rfl)

private theorem locate_append_of_leads {root : Node} {here cs place : List String} (h : locate root here cs = .ok place)
    (hplace : root.IsDirectory place.reverse) {c : String} {next : List String} (hleads : Leads root place c next) :
    locate root here (cs ++ [c]) = .ok next := by
  induction cs generalizing here with
  | nil =>
    cases h
    exact (locate_cons_eq_ok_iff ..).2 ⟨hplace, next, hleads, rfl⟩
  | cons d rest ih =>
    obtain ⟨hhere, next', hleads', hrest⟩ := (locate_cons_eq_ok_iff ..).1 h
    exact (locate_cons_eq_ok_iff ..).2 ⟨hhere, next', hleads', ih hrest⟩

end Node

/-! ### Writing -/

namespace FileSystem

open Node

/-- The path leads to a file that can be written, below the place of its directory. -/
structure WritesTo (files : FileSystem) (path : String) (place : List String) (name : String) : Prop where
  check : checkPath path = .ok ()
  components : ∃ above, pathComponents path = above ++ [name] ∧ files.root.locate (files.start path) above = .ok place
  isDirectory : files.root.IsDirectory place.reverse
  dot : name ≠ "."
  dots : name ≠ ".."
  slash : endsInSlash path = false
  length : name.utf8ByteSize ≤ maxNameLength
  notDirectory : ¬ files.root.IsDirectory (name :: place).reverse

theorem write_eq_ok_iff (files : FileSystem) (path content : String) (files' : FileSystem) :
    files.write path content = .ok files' ↔
      ∃ place name, files.WritesTo path place name ∧
        files' = { files with root := files.root.put (file content) (name :: place).reverse } := by
  have hname : ∀ place es name, files.root.at? (List.reverse place) = some (directory es) →
      (¬ files.root.IsDirectory (name :: place).reverse ↔ ∀ ds, entryNamed? name es ≠ some (directory ds)) := by
    intro place es name hes
    rw [IsDirectory, at?_cons_reverse name hes, not_exists]
  constructor
  · intro h
    simp only [write, bind, Except.bind] at h
    -- Every other branch on the way is a refusal.
    split at h
    · cases h
    rename_i u hcheck
    split at h
    · cases h
    rename_i name above hcomponents
    split at h
    · cases h
    rename_i place hlocate
    split at h
    case h_2 => cases h
    case h_3 => cases h
    rename_i es hes
    split at h
    · cases h
    rename_i hgood
    obtain ⟨hdot, hdots, hslash⟩ : name ≠ "." ∧ name ≠ ".." ∧ endsInSlash path = false := by simpa using hgood
    split at h
    · cases h
    rename_i hlength
    split at h
    · cases h
    rename_i hfree
    have habove : pathComponents path = above.reverse ++ [name] := by
      rw [← List.reverse_reverse (pathComponents path), hcomponents, List.reverse_cons]
    exact ⟨place, name, ⟨hcheck, ⟨above.reverse, habove, hlocate⟩, ⟨es, hes⟩, hdot, hdots, hslash,
      Nat.le_of_not_lt hlength, (hname place es name hes).2 hfree⟩, (Except.ok.inj h).symm⟩
  · rintro ⟨place, name, hw, rfl⟩
    obtain ⟨es, hes⟩ := hw.isDirectory
    obtain ⟨above, hcomponents, hlocate⟩ := hw.components
    have hreverse : (pathComponents path).reverse = name :: above.reverse := by simp [hcomponents]
    have hfree := (hname place es name hes).1 hw.notDirectory
    simp only [write, bind, Except.bind, hw.check, hreverse, List.reverse_reverse, hlocate, hes, hw.dot, hw.dots, hw.slash,
      Nat.not_lt.2 hw.length, Bool.false_eq_true, or_false, ↓reduceIte]

/-- What has been written can be read. -/
theorem read?_write {files files' : FileSystem} {path content : String} (h : files.write path content = .ok files') :
    files'.read? path = some content := by
  obtain ⟨place, name, hw, rfl⟩ := (write_eq_ok_iff ..).1 h
  have hkeep : ∀ p, files.root.IsDirectory p → (files.root.put (file content) (name :: place).reverse).IsDirectory p :=
    fun p hp => isDirectory_put _ hw.notDirectory hp
  have hfile := at?_put files.root (file content) (name :: place).reverse
  obtain ⟨above, hcomponents, hlocate⟩ := hw.components
  have hlocate' := locate_append_of_leads (locate_of_isDirectory hkeep hlocate hw.isDirectory) (hkeep _ hw.isDirectory)
    (.down hw.dot hw.dots hw.length (by rw [hfile]; rfl))
  rw [← hcomponents] at hlocate'
  -- A write does not change the working directory, so the path still leads from the same place.
  have hresolve : FileSystem.resolve { files with root := files.root.put (file content) (name :: place).reverse } path =
      .ok (file content) := by
    simp only [resolve, start, hw.check, bind, Except.bind] at hlocate' ⊢
    simp only [hlocate', hfile, hw.slash, Bool.false_eq_true, ↓reduceIte]
  rw [read?, hresolve]

end FileSystem

end FibTiming
