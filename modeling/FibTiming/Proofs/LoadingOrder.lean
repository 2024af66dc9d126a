import FibTiming.Proofs.Acceptance
import FibTiming.Proofs.LocalValues

/-!
# The order of files does not matter

Paths can be given in any order: the same files are found (`discover_perm`), so the same documents are read and the
same benchmarks declared, up to their order (`loadSuite_perm`).  A block of local values can stand in any file, before
or behind the benchmarks that use it (`suiteOf_congr`, `DeclareSuite.move`).  Two loads may visit the local values in
different orders, so all of this needs that the `local` object does not depend on this order (`SettledIn`); where two
local values have the same composed name it does, and one load can succeed while the other one fails.
-/

namespace FibTiming

open SuiteFile

/-! ### Finding the files -/

theorem mem_addNew (known files : List String) (f : String) : f ∈ addNew known files ↔ f ∈ known ∨ f ∈ files := by
  induction files generalizing known with
  | nil => simp [addNew]
  | cons g files ih =>
    unfold addNew
    split
    · rename_i hg
      rw [ih, List.mem_cons]
      constructor
      · rintro (h | h)
        · exact .inl h
        · exact .inr (.inr h)
      · rintro (h | rfl | h)
        · exact .inl h
        · exact .inl hg
        · exact .inr h
    · rw [ih, List.mem_append, List.mem_singleton, List.mem_cons, or_assoc]

private theorem nodup_addNew {known : List String} (h : known.Nodup) (files : List String) :
    (addNew known files).Nodup := by
  induction files generalizing known with
  | nil => exact h
  | cons g files ih =>
    unfold addNew
    split
    · exact ih h
    · rename_i hg
      refine ih (List.nodup_append.2 ⟨h, by simp, ?_⟩)
      rintro f hf _ hg' rfl
      exact hg (List.mem_singleton.1 hg' ▸ hf)

/-- Files are found when every path can be looked up: all files that the paths stand for, each once. -/
theorem discover_eq_ok {lookup : Lookup} {found paths files : List String}
    (h : discover lookup found paths = .ok files) (hfound : found.Nodup) :
    files.Nodup ∧ (∀ p ∈ paths, ∃ fs, filesOf lookup p = .ok fs) ∧
      ∀ f, f ∈ files ↔ f ∈ found ∨ ∃ p ∈ paths, ∃ fs, filesOf lookup p = .ok fs ∧ f ∈ fs := by
  induction paths generalizing found with
  | nil =>
    cases h
    exact ⟨hfound, by simp, by simp⟩
  | cons p paths ih =>
    rw [discover] at h
    cases hp : filesOf lookup p with
    | error e =>
      rw [hp] at h
      cases h
    | ok fs =>
      rw [hp] at h
      obtain ⟨hnodup, hall, hmem⟩ := ih h (nodup_addNew hfound fs)
      refine ⟨hnodup, List.forall_mem_cons.2 ⟨⟨fs, hp⟩, hall⟩, fun f => ?_⟩
      rw [hmem, mem_addNew, or_assoc, List.exists_mem_cons_iff]
      simp only [hp, Except.ok.injEq, exists_eq_left']

private theorem exists_discover {lookup : Lookup} {paths : List String}
    (h : ∀ p ∈ paths, ∃ fs, filesOf lookup p = .ok fs)
    (found : List String) : ∃ files, discover lookup found paths = .ok files := by
  induction paths generalizing found with
  | nil => exact ⟨found, rfl⟩
  | cons p paths ih =>
    obtain ⟨fs, hp⟩ := h p (by simp)
    rw [discover, hp]
    exact ih (fun q hq => h q (by simp [hq])) _

/-- The same files are found in whatever order the paths are given. -/
theorem discover_perm {lookup : Lookup} {ps qs files : List String} (h : ps.Perm qs)
    (hfiles : discover lookup [] ps = .ok files) :
    ∃ files', discover lookup [] qs = .ok files' ∧ files.Perm files' := by
  obtain ⟨hnodup, hall, hmem⟩ := discover_eq_ok hfiles List.nodup_nil
  obtain ⟨files', hfiles'⟩ := exists_discover (fun q hq => hall q (h.mem_iff.2 hq)) []
  obtain ⟨hnodup', _, hmem'⟩ := discover_eq_ok hfiles' List.nodup_nil
  refine ⟨files', hfiles', (List.perm_ext_iff_of_nodup hnodup hnodup').2 fun f => ?_⟩
  simp only [hmem, hmem', h.mem_iff]

/-! ### From files to suites -/

theorem findDocuments_eq_ok_iff (lookup : Lookup) (paths : List String) (ds : List Document) :
    findDocuments lookup paths = .ok ds ↔ ∃ files, discover lookup [] paths = .ok files ∧ files ≠ [] ∧
      List.Forall₂ (fun f d => documentAt lookup f = .ok d) files ds := by
  unfold findDocuments
  cases discover lookup [] paths with
  | error e => simp
  | ok files =>
    cases files with
    | nil => simp
    | cons f files => simp [readDocuments_eq_ok_iff]

private theorem findDocuments_perm {lookup : Lookup} {ps qs : List String} {ds : List Document} (h : ps.Perm qs)
    (hds : findDocuments lookup ps = .ok ds) : ∃ ds', findDocuments lookup qs = .ok ds' ∧ ds.Perm ds' := by
  obtain ⟨files, hfiles, hne, hread⟩ := (findDocuments_eq_ok_iff _ _ _).1 hds
  obtain ⟨files', hfiles', hperm⟩ := discover_perm h hfiles
  obtain ⟨ds', hread', hds'⟩ := List.perm_comp_forall₂ hperm.symm hread
  refine ⟨ds', (findDocuments_eq_ok_iff _ _ _).2 ⟨files', hfiles', ?_, hread'⟩, hds'.symm⟩
  rintro rfl
  exact hne hperm.eq_nil

private theorem checkLoaded_perm {ps : List String} {bs bs' : List Benchmark} {s : Suite} (h : bs.Perm bs')
    (hs : checkLoaded ps bs = .ok s) (qs : List String) :
    ∃ t, checkLoaded qs bs' = .ok t ∧ s.benchmarks.Perm t.benchmarks := by
  obtain ⟨hne, hvalid, hnodup, rfl⟩ := (checkLoaded_eq_ok_iff _ _ _).1 hs
  refine ⟨⟨bs'.map (·.filledIn)⟩, (checkLoaded_eq_ok_iff _ _ _).2 ⟨?_, ?_, ?_, rfl⟩, h.map _⟩
  · rintro rfl
    exact hne h.eq_nil
  · exact fun b hb => hvalid b (h.mem_iff.2 hb)
  · exact (h.map _).nodup_iff.1 hnodup

section Suites

variable {visiting visiting' : Visiting} {lookup : Lookup} {ps qs : List String} {ds ds' : List Document} {s : Suite}

private theorem SettledIn.of_iff (h : SettledIn ds)
    (hlocals : ∀ locals, collectLocals ds = .ok locals ↔ collectLocals ds' = .ok locals) : SettledIn ds' :=
  fun locals hds' => h locals ((hlocals locals).2 hds')

/-- Documents in another order declare the same benchmarks in another order. -/
theorem suiteOf_perm (h : ds.Perm ds') (hsettled : SettledIn ds) (hs : suiteOf visiting ps ds = .ok s) :
    ∃ t, suiteOf visiting' qs ds' = .ok t ∧ s.benchmarks.Perm t.benchmarks := by
  obtain ⟨locals, bs, hlocals, hbs, hcheck⟩ := (suiteOf_eq_ok_iff _ _ _ _).1 hs
  have hlocals' : collectLocals ds' = .ok locals := (collectLocals_perm (h.flatMap_right _) locals).1 hlocals
  have hscope := (localScope_settled_iff locals).2 (hsettled locals hlocals) visiting visiting'
  obtain ⟨bs', hbs', hperm⟩ := List.perm_comp_forall₂ (h.flatMap_right (·.benchmarks)).symm hbs
  obtain ⟨t, ht, hst⟩ := checkLoaded_perm hperm.symm hcheck qs
  exact ⟨t, (suiteOf_eq_ok_iff _ _ _ _).2 ⟨locals, bs', hlocals', hscope ▸ hbs', ht⟩, hst⟩

theorem loadSuite_perm (h : ps.Perm qs) (hsettled : ∀ ds, findDocuments lookup ps = .ok ds → SettledIn ds)
    (hs : loadSuite visiting lookup ps = .ok s) :
    ∃ t, loadSuite visiting' lookup qs = .ok t ∧ s.benchmarks.Perm t.benchmarks := by
  obtain ⟨ds, hds, hs⟩ := (loadSuite_eq_ok_iff _ _ _ _).1 hs
  obtain ⟨ds', hds', hperm⟩ := findDocuments_perm h hds
  obtain ⟨t, ht, hst⟩ := suiteOf_perm hperm (hsettled ds hds) hs
  exact ⟨t, (loadSuite_eq_ok_iff _ _ _ _).2 ⟨ds', hds', ht⟩, hst⟩

private theorem settledIn_of_perm (h : ps.Perm qs) (hsettled : ∀ ds, findDocuments lookup ps = .ok ds → SettledIn ds) :
    ∀ ds, findDocuments lookup qs = .ok ds → SettledIn ds := by
  intro ds' hds'
  obtain ⟨ds, hds, hperm⟩ := findDocuments_perm h.symm hds'
  exact (hsettled ds hds).of_iff (collectLocals_perm (hperm.symm.flatMap_right _))

/-! ### Moving local values -/

/-- The suite depends on the local values of all documents together and on the sequence of the benchmarks; the paths only
matter for what is said about a suite without benchmarks. -/
theorem suiteOf_congr (hblocks : ds.flatMap (·.benchmarks) = ds'.flatMap (·.benchmarks))
    (hlocals : ∀ locals, collectLocals ds = .ok locals ↔ collectLocals ds' = .ok locals) (hsettled : SettledIn ds)
    (ps qs : List String) (s : Suite) :
    suiteOf visiting ps ds = .ok s ↔ suiteOf visiting' qs ds' = .ok s := by
  simp only [suiteOf_eq_ok_iff, checkLoaded_eq_ok_iff, hblocks, ← hlocals]
  refine exists_congr fun locals => exists_congr fun bs => and_congr_right fun hds => ?_
  rw [(localScope_settled_iff locals).2 (hsettled locals hds) visiting visiting']

end Suites

/-- The suite that bodies of suite files declare. -/
def DeclareSuite (visiting : Visiting) (paths : List String) (bodies : List Body) (s : Suite) : Prop :=
  ∃ ds, List.Forall₂ (fun b d => Document.ofBody b = .ok d) bodies ds ∧ suiteOf visiting paths ds = .ok s

namespace SuiteFile

theorem Document.ofBody_eq_ok_iff (b : Body) (d : Document) :
    Document.ofBody b = .ok d ↔ bodyFaults fileShape b = [] ∧
      (∀ k ∈ blocksOf benchmarkShape b, bodyFaults benchmarkBodyShape k.body = []) ∧
      d = ⟨(blocksOf localsShape b).map .ofBlock, (blocksOf benchmarkShape b).map .ofBlock⟩ := by
  unfold Document.ofBody
  simp only [List.isEmpty_iff, List.append_eq_nil_iff, List.flatMap_eq_nil_iff]
  split
  · rename_i h
    rw [Except.ok.injEq]
    exact ⟨fun hd => ⟨h.1, h.2, hd.symm⟩, fun hd => hd.2.2.symm⟩
  · rename_i h
    simp only [reduceCtorEq, false_iff]
    rintro ⟨hfile, hblocks, _⟩
    exact h ⟨hfile, hblocks⟩

variable {k : Block}

section Insert

variable (as : List Attribute) (xs ys : List Block)

private theorem bodyFaults_insert (hk : k.kind = localsShape.kind) :
    bodyFaults fileShape (.mk as (xs ++ k :: ys)) = [] ↔
      labelFault? localsShape k = none ∧ bodyFaults fileShape (.mk as (xs ++ ys)) = [] := by
  have hshape : fileShape.block? k.kind = some localsShape := by rw [hk]; rfl
  have harguments : argumentFaults fileShape (.mk as (xs ++ k :: ys)) = argumentFaults fileShape (.mk as (xs ++ ys)) :=
    rfl
  simp only [bodyFaults, List.append_eq_nil_iff, harguments, labelFaults, blockFaults, Body.blocks,
    List.filterMap_append, List.filterMap_cons, List.filter_append, List.filter_cons, List.map_append, hshape,
    Option.bind_some, Option.isNone_some, Bool.false_eq_true, ↓reduceIte]
  cases labelFault? localsShape k with
  | none => simp
  | some d => simp

private theorem blocksOf_benchmarkShape_insert (hk : k.kind = localsShape.kind) :
    blocksOf benchmarkShape (.mk as (xs ++ k :: ys)) = blocksOf benchmarkShape (.mk as (xs ++ ys)) := by
  have hkind : (k.kind == benchmarkShape.kind) = false := by rw [hk]; rfl
  simp [blocksOf, Body.blocks, hkind]

private theorem blocksOf_localsShape_insert (hk : k.kind = localsShape.kind)
    (hlabels : labelFault? localsShape k = none) :
    (blocksOf localsShape (.mk as (xs ++ k :: ys))).Perm (k :: blocksOf localsShape (.mk as (xs ++ ys))) := by
  have hkind : (k.kind == localsShape.kind) = true := by rw [hk]; rfl
  simp only [blocksOf, Body.blocks, List.filter_append, List.filter_cons, hkind, hlabels, Option.isNone_none,
    Bool.and_self, ↓reduceIte]
  exact List.perm_middle

end Insert

/-- The bodies of files with a block put in at some place. -/
inductive Inserted (k : Block) : List Body → List Body → Prop
  | here (as xs ys rest) : Inserted k (.mk as (xs ++ ys) :: rest) (.mk as (xs ++ k :: ys) :: rest)
  | there (b) {rest full} (h : Inserted k rest full) : Inserted k (b :: rest) (b :: full)

/-- The documents with a further block of local values in one of them. -/
structure OneMore (l : LocalsBlock) (rest full : List Document) : Prop where
  benchmarks : full.flatMap (·.benchmarks) = rest.flatMap (·.benchmarks)
  locals : (full.flatMap (·.locals)).Perm (l :: rest.flatMap (·.locals))

private theorem OneMore.cons {l : LocalsBlock} {rest full : List Document} (h : OneMore l rest full) (d : Document) :
    OneMore l (d :: rest) (d :: full) := by
  refine ⟨?_, ?_⟩
  · simp only [List.flatMap_cons, h.benchmarks]
  · simp only [List.flatMap_cons]
    exact (List.Perm.append_left _ h.locals).trans List.perm_middle

private theorem ofBody_of_insert (hk : k.kind = localsShape.kind) {as : List Attribute} {xs ys : List Block}
    {d : Document} (h : Document.ofBody (.mk as (xs ++ k :: ys)) = .ok d) (ds : List Document) :
    labelFault? localsShape k = none ∧
      ∃ d', Document.ofBody (.mk as (xs ++ ys)) = .ok d' ∧ OneMore (.ofBlock k) (d' :: ds) (d :: ds) := by
  obtain ⟨hfile, hblocks, rfl⟩ := (Document.ofBody_eq_ok_iff _ _).1 h
  obtain ⟨hlabels, hfile'⟩ := (bodyFaults_insert as xs ys hk).1 hfile
  rw [blocksOf_benchmarkShape_insert as xs ys hk] at hblocks ⊢
  refine ⟨hlabels, _, (Document.ofBody_eq_ok_iff _ _).2 ⟨hfile', hblocks, rfl⟩, rfl, ?_⟩
  exact ((blocksOf_localsShape_insert as xs ys hk hlabels).map _).append_right _

private theorem ofBody_insert (hk : k.kind = localsShape.kind) (hlabels : labelFault? localsShape k = none)
    {as : List Attribute} {xs ys : List Block} {d : Document} (h : Document.ofBody (.mk as (xs ++ ys)) = .ok d)
    (ds : List Document) :
    ∃ d', Document.ofBody (.mk as (xs ++ k :: ys)) = .ok d' ∧ OneMore (.ofBlock k) (d :: ds) (d' :: ds) := by
  obtain ⟨hfile, hblocks, rfl⟩ := (Document.ofBody_eq_ok_iff _ _).1 h
  have hfile' := (bodyFaults_insert as xs ys hk).2 ⟨hlabels, hfile⟩
  rw [← blocksOf_benchmarkShape_insert as xs ys hk] at hblocks
  refine ⟨_, (Document.ofBody_eq_ok_iff _ _).2 ⟨hfile', hblocks, rfl⟩, ?_, ?_⟩
  · rw [blocksOf_benchmarkShape_insert as xs ys hk]
    rfl
  · exact ((blocksOf_localsShape_insert as xs ys hk hlabels).map _).append_right _

namespace Inserted

variable {rest full : List Body} {ds : List Document}

/-- The block can be taken out again. -/
private theorem documents_rest (h : Inserted k rest full) (hk : k.kind = localsShape.kind)
    (hds : List.Forall₂ (fun b d => Document.ofBody b = .ok d) full ds) :
    labelFault? localsShape k = none ∧
      ∃ ds', List.Forall₂ (fun b d => Document.ofBody b = .ok d) rest ds' ∧ OneMore (.ofBlock k) ds' ds := by
  induction h generalizing ds with
  | here as xs ys rest =>
    cases hds with
    | cons hd hds =>
      obtain ⟨hlabels, d', hd', hmore⟩ := ofBody_of_insert hk hd _
      exact ⟨hlabels, _, .cons hd' hds, hmore⟩
  | there b _ ih =>
    cases hds with
    | cons hd hds =>
      obtain ⟨hlabels, ds', hds', hmore⟩ := ih hds
      exact ⟨hlabels, _, .cons hd hds', hmore.cons _⟩

/-- The block can be put in at any place. -/
private theorem documents_full (h : Inserted k rest full) (hk : k.kind = localsShape.kind)
    (hlabels : labelFault? localsShape k = none)
    (hds : List.Forall₂ (fun b d => Document.ofBody b = .ok d) rest ds) :
    ∃ ds', List.Forall₂ (fun b d => Document.ofBody b = .ok d) full ds' ∧ OneMore (.ofBlock k) ds ds' := by
  induction h generalizing ds with
  | here as xs ys rest =>
    cases hds with
    | cons hd hds =>
      obtain ⟨d', hd', hmore⟩ := ofBody_insert hk hlabels hd _
      exact ⟨_, .cons hd' hds, hmore⟩
  | there b _ ih =>
    cases hds with
    | cons hd hds =>
      obtain ⟨ds', hds', hmore⟩ := ih hds
      exact ⟨_, .cons hd hds', hmore.cons _⟩

/-- The block can stand at another place: the documents have the same sequence of benchmarks and, together, the same
blocks of local values. -/
private theorem documents_moved {full' : List Body} (h : Inserted k rest full) (h' : Inserted k rest full')
    (hk : k.kind = localsShape.kind) (hds : List.Forall₂ (fun b d => Document.ofBody b = .ok d) full ds) :
    ∃ ds', List.Forall₂ (fun b d => Document.ofBody b = .ok d) full' ds' ∧
      ds.flatMap (·.benchmarks) = ds'.flatMap (·.benchmarks) ∧
      (ds.flatMap (·.locals)).Perm (ds'.flatMap (·.locals)) := by
  obtain ⟨hlabels, dsRest, hrest, hmore⟩ := h.documents_rest hk hds
  obtain ⟨ds', hds', hmore'⟩ := h'.documents_full hk hlabels hrest
  exact ⟨ds', hds', hmore.benchmarks.trans hmore'.benchmarks.symm, hmore.locals.trans hmore'.locals.symm⟩

end Inserted

/-- The local values of the bodies of suite files are settled, if the bodies declare documents. -/
def BodiesSettled (bodies : List Body) : Prop :=
  ∀ ds, List.Forall₂ (fun b d => Document.ofBody b = .ok d) bodies ds → SettledIn ds

theorem BodiesSettled.move {rest full full' : List Body} (h : BodiesSettled full) (hk : k.kind = localsShape.kind)
    (hfull : Inserted k rest full) (hfull' : Inserted k rest full') : BodiesSettled full' := by
  intro ds' hds'
  obtain ⟨ds, hds, _, hlocals⟩ := hfull'.documents_moved hfull hk hds'
  exact (h ds hds).of_iff (collectLocals_perm hlocals.symm)

end SuiteFile

/-- Moving a block of local values keeps the suite. -/
theorem DeclareSuite.move {visiting : Visiting} {k : Block} {rest full full' : List Body} {paths : List String}
    {s : Suite} (h : DeclareSuite visiting paths full s) (hsettled : BodiesSettled full)
    (hk : k.kind = localsShape.kind) (hfull : Inserted k rest full) (hfull' : Inserted k rest full')
    (visiting' : Visiting) : DeclareSuite visiting' paths full' s := by
  obtain ⟨ds, hds, hs⟩ := h
  obtain ⟨ds', hds', hblocks, hlocals⟩ := hfull.documents_moved hfull' hk hds
  exact ⟨ds', hds', (suiteOf_congr hblocks (collectLocals_perm hlocals) (hsettled ds hds) paths paths s).1 hs⟩

/-- Loading does not depend on the order of things, in whatever orders two loads visit the local values, as long as these
are settled; and they are when their composed names differ.  Paths in another order load when the paths do, and then give
the same benchmarks, up to their order.  Documents that have the same sequence of benchmarks and together the same blocks
of local values, in whatever documents these stand and in whatever order their attributes are visited, declare the same
suite; and so do files in which a block of local values stands at different places, in whatever file, before or behind
other blocks. -/
theorem loading_order_irrelevant (visiting visiting' : Visiting) :
    (∀ locals : Locals,
      ((∀ visiting visiting', localScope visiting locals = localScope visiting' locals) ↔ locals.Settled) ∧
      ((locals.map fun l => Text.composed l.1).Nodup → locals.Settled)) ∧
    (∀ (lookup : Lookup) (ps qs : List String), ps.Perm qs →
      (∀ ds, findDocuments lookup ps = .ok ds → SettledIn ds) →
      ((∃ s, loadSuite visiting lookup ps = .ok s) ↔ ∃ t, loadSuite visiting' lookup qs = .ok t) ∧
      ∀ s t, loadSuite visiting lookup ps = .ok s → loadSuite visiting' lookup qs = .ok t →
        s.benchmarks.Perm t.benchmarks) ∧
    (∀ (paths : List String) (ds ds' : List Document) (blocks : List LocalsBlock),
      ds.flatMap (·.benchmarks) = ds'.flatMap (·.benchmarks) → (ds.flatMap (·.locals)).Perm blocks →
      List.Forall₂ LocalsBlock.Revisited blocks (ds'.flatMap (·.locals)) → SettledIn ds →
      ∀ s, suiteOf visiting paths ds = .ok s ↔ suiteOf visiting' paths ds' = .ok s) ∧
    ∀ (paths : List String) (k : Block) (rest full full' : List Body), k.kind = "locals" →
      Inserted k rest full → Inserted k rest full' → BodiesSettled full →
      ∀ s, DeclareSuite visiting paths full s ↔ DeclareSuite visiting' paths full' s := by
  refine ⟨fun locals => ⟨localScope_settled_iff locals, Locals.settled_of_nodup⟩,
    fun lookup ps qs h hsettled => ⟨⟨?_, ?_⟩, ?_⟩, ?_, ?_⟩
  · rintro ⟨s, hs⟩
    obtain ⟨t, ht, _⟩ := loadSuite_perm h hsettled hs
    exact ⟨t, ht⟩
  · rintro ⟨t, ht⟩
    obtain ⟨s, hs, _⟩ := loadSuite_perm h.symm (settledIn_of_perm h hsettled) ht
    exact ⟨s, hs⟩
  · intro s t hs ht
    obtain ⟨t', ht', hperm⟩ : ∃ t', loadSuite visiting' lookup qs = .ok t' ∧ s.benchmarks.Perm t'.benchmarks :=
      loadSuite_perm h hsettled hs
    rw [ht, Except.ok.injEq] at ht'
    exact ht' ▸ hperm
  · intro paths ds ds' blocks hblocks hlocals hvisited hsettled s
    exact suiteOf_congr hblocks (collectLocals_visited_iff hlocals hvisited) hsettled paths paths s
  · intro paths k rest full full' hk hfull hfull' hsettled s
    exact ⟨fun h => h.move hsettled hk hfull hfull' visiting',
      fun h => h.move (hsettled.move hk hfull hfull') hk hfull' hfull visiting⟩

/-- A block with one local value. -/
def fiveBlock : Block :=
  .mk "locals" default [] default (.mk [⟨"five", default, .literal (.number (Number.Extended.ofNat 5)) default⟩] [])

/-- A benchmark block that uses it. -/
def userBlock : Block :=
  .mk "benchmark" default [⟨"naive", default⟩, ⟨"user", default⟩] default
    (.mk [⟨"n", default, .named "local" default [.attribute "five" default] default⟩,
      ⟨"expect", default, .literal (.text "8") default⟩] [])

/-- The order opposite to that of the names. -/
def Visiting.backwards : Visiting := ⟨List.reverse, List.reverse_perm⟩

/-- The file with the local value comes last, and then its block moves behind the benchmark that uses it. -/
theorem loading_order_irrelevant_moved :
    (∃ t, loadSuite .backwards twoFiles ["b.hcl", "a.hcl"] = .ok t) ∧
      DeclareSuite .byName [] [.mk [] [fiveBlock], .mk [] [userBlock]] ⟨[⟨"user", "naive", 5, 8, "ms", 1⟩]⟩ ∧
      DeclareSuite .backwards [] [.mk [] [], .mk [] [userBlock, fiveBlock]]
        ⟨[⟨"user", "naive", 5, 8, "ms", 1⟩]⟩ := by
  obtain ⟨_, hpaths, _, hmove⟩ := loading_order_irrelevant .byName .backwards
  have hload : ∃ s, loadSuite .byName twoFiles ["a.hcl", "b.hcl"] = .ok s :=
    ⟨⟨[⟨"last", "naive", 92, 12200160415121876738, "ms", 1⟩]⟩, toOption_eq_some_iff.1 (by decide +kernel)⟩
  -- There is one local value in each case.
  have hnames : localNames? twoFiles ["a.hcl", "b.hcl"] = some ["top"] := by decide +kernel
  have hfound := settledIn_of_localNames hnames (List.nodup_singleton _)
  have hdeclared : List.Forall₂ (fun b d => Document.ofBody b = .ok d) [.mk [] [fiveBlock], .mk [] [userBlock]]
      [⟨[.ofBlock fiveBlock], []⟩, ⟨[], [.ofBlock userBlock]⟩] :=
    .cons rfl (.cons rfl .nil)
  have hsettled : BodiesSettled [.mk [] [fiveBlock], .mk [] [userBlock]] := by
    intro ds hds locals hlocals
    have hsame := List.left_unique_forall₂' (fun d b d' hd hd' => Except.ok.inj (hd.symm.trans hd')) hds.flip
      hdeclared.flip
    rw [hsame] at hlocals
    cases hlocals
    exact Locals.settled_of_nodup (List.nodup_singleton _)
  have hfirst : DeclareSuite .byName [] [.mk [] [fiveBlock], .mk [] [userBlock]]
      ⟨[⟨"user", "naive", 5, 8, "ms", 1⟩]⟩ :=
    ⟨_, hdeclared, toOption_eq_some_iff.1 (by decide +kernel)⟩
  refine ⟨(hpaths twoFiles ["a.hcl", "b.hcl"] ["b.hcl", "a.hcl"] (.swap ..) hfound).1.1 hload, hfirst, ?_⟩
  exact (hmove [] fiveBlock _ _ _ rfl (.here [] [] [] _) (.there _ (.here [] [userBlock] [] [])) hsettled _).1 hfirst

/-- A file of which the two local values have names that are composed to the same name. -/
def mergedFile : Lookup
  | "a.hcl" =>
    .ok (.file ("locals \x7b\n  é = 1\n  e\u0301 = 93\n\x7d\nbenchmark \"naive\" \"fib\" \x7b\n" ++
      "  n      = local.é\n  expect = 1\n\x7d\n"))
  | _ => .error .missing

/-- The same list of paths can be loaded when the value one stays, and cannot when the value 93 does. -/
theorem loading_order_irrelevant_merged :
    loadSuite .byName mergedFile ["a.hcl"] = .ok ⟨[⟨"fib", "naive", 1, 1, "ms", 1⟩]⟩ ∧
      ¬ ∃ s, loadSuite .backwards mergedFile ["a.hcl"] = .ok s := by
  refine ⟨toOption_eq_some_iff.1 (by decide +kernel), ?_⟩
  rintro ⟨s, hs⟩
  have hnone : (loadSuite .backwards mergedFile ["a.hcl"]).toOption = none := by decide +kernel
  rw [hs] at hnone
  cases hnone

end FibTiming
