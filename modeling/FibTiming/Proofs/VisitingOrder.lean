import FibTiming.Proofs.LoadingOrder

/-!
# The order in which local values are visited

The attributes of a block can be visited in any order, and so can the blocks and the files.  A block that is read from
a file names its attributes once (`namesOnce_of_readBody`, `namedOnce_of_readDocuments`), so the attributes of a block
never stand in each other's way: whether all local values can be collected and what they are does not depend on the
order (`exists_collectLocals_iff`, `collectLocals_congr`).  The error can depend on it, but it is always about the first
block that does not fit behind the blocks before it (`addLocalsBlocks_eq_error`).  `collectLocals_visited` puts this
together.
-/

namespace FibTiming

open SuiteFile

namespace SuiteFile

/-! ### Names in bodies -/

/-- The names of a list of attributes are all different. -/
def NamedOnce (as : List Attribute) : Prop := (as.map (·.name)).Nodup

/-- A body that names its attributes once, and so does each of its blocks. -/
structure Body.NamesOnce (b : Body) : Prop where
  attributes : NamedOnce b.attributes
  blocks : ∀ k ∈ b.blocks, NamedOnce k.body.attributes

private theorem Body.namesOnce_empty : Body.empty.NamesOnce := ⟨List.nodup_nil, by simp [Body.empty, Body.blocks]⟩

private theorem Body.NamesOnce.addAttribute {b c : Body} {a : Attribute} (h : b.NamesOnce)
    (hadd : b.addAttribute? a = some c) :
    c.NamesOnce := by
  obtain ⟨as, bs⟩ := b
  simp only [Body.addAttribute?, Option.ite_none_left_eq_some, Option.some.injEq] at hadd
  obtain ⟨hnew, rfl⟩ := hadd
  refine ⟨List.nodup_cons.2 ⟨?_, h.attributes⟩, h.blocks⟩
  simpa [Body.attributes] using hnew

private theorem Body.NamesOnce.addBlock {b : Body} {k : Block} (h : b.NamesOnce) (hk : NamedOnce k.body.attributes) :
    (b.addBlock k).NamesOnce := by
  obtain ⟨as, bs⟩ := b
  exact ⟨h.attributes, List.forall_mem_cons.2 ⟨hk, h.blocks⟩⟩

private theorem namesOnce_of_readLineBody {ts rest : List Token} {b : Body} (h : readLineBody ts = some (b, rest)) :
    b.NamesOnce := by
  unfold readLineBody at h
  repeat' split at h
  all_goals cases h
  exact ⟨List.nodup_singleton _, by simp [Body.blocks]⟩

theorem namesOnce_of_readBody {top : Bool} {fuel : Nat} {ts rest : List Token} {b : Body}
    (h : readBody top fuel ts = some (b, rest)) : b.NamesOnce := by
  fun_induction readBody top fuel ts generalizing b rest
  -- The body ends, a line is empty, an attribute is added, or a block with a body of its own; all else fails.
  case case2 | case6 =>
    cases h
    exact Body.namesOnce_empty
  case case4 ih => exact ih h
  case case10 hbody ih =>
    obtain ⟨c, hadd, hc⟩ := Option.map_eq_some_iff.1 h
    cases hc
    exact (ih hbody).addAttribute hadd
  case case15 inner _ _ hblock _ _ _ _ hbody ihBlock ih =>
    cases h
    refine (ih hbody).addBlock ?_
    simp only [inner] at hblock
    split at hblock
    · cases hblock
    · exact (ihBlock hblock).attributes
    · exact (ihBlock hblock).attributes
    · exact (namesOnce_of_readLineBody hblock).attributes
  all_goals cases h

private theorem Body.namesOnce_of_read? {file source : String} {b : Body} (h : Body.read? file source = some b) :
    b.NamesOnce := by
  unfold Body.read? at h
  split at h
  · cases h
  · obtain ⟨p, hread, rfl⟩ := Option.map_eq_some_iff.1 h
    exact namesOnce_of_readBody hread

private theorem namedOnce_of_ofBody {b : Body} (hb : b.NamesOnce) {d : Document} (h : Document.ofBody b = .ok d) :
    ∀ k ∈ d.locals, NamedOnce k.attributes := by
  obtain ⟨_, _, rfl⟩ := (Document.ofBody_eq_ok_iff b d).1 h
  intro k hk
  obtain ⟨block, hblock, rfl⟩ := List.mem_map.1 hk
  exact hb.blocks block (List.mem_of_mem_filter hblock)

private theorem namedOnce_of_documentAt {lookup : Lookup} {file : String} {d : Document}
    (h : documentAt lookup file = .ok d) :
    ∀ k ∈ d.locals, NamedOnce k.attributes := by
  unfold documentAt at h
  split at h
  · unfold readDocument at h
    split at h
    · cases h
    · rename_i b hread
      split at h
      · cases h
      · rename_i hbody
        cases h
        exact namedOnce_of_ofBody (Body.namesOnce_of_read? hread) hbody
  · cases h

/-- Documents that are read from files name the local values of a block once. -/
theorem namedOnce_of_readDocuments {lookup : Lookup} {files : List String} {ds : List Document}
    (h : readDocuments lookup files = .ok ds) : ∀ k ∈ ds.flatMap (·.locals), NamedOnce k.attributes := by
  have hread := ((readDocuments_eq_ok_iff lookup files ds).1 h).flip
  have hall := (List.forall₂_and_left ds files).1 (hread.imp fun d f hd => ⟨namedOnce_of_documentAt hd, hd⟩)
  intro k hk
  obtain ⟨d, hd, hkd⟩ := List.mem_flatMap.1 hk
  exact hall.1 d hd k hkd

/-! ### Visits -/

/-- The value of an attribute, which is found without any variables. -/
def Attribute.ownValue (a : Attribute) : Value := (a.value.eval .none).1

/-- The attribute has a value without any variables. -/
def Attribute.Evaluates (a : Attribute) : Prop := (a.value.eval .none).2 = []

/-- One of the blocks defines a local value of this name. -/
def DefinedIn (blocks : List LocalsBlock) (name : String) : Prop := ∃ k ∈ blocks, ∃ a ∈ k.attributes, a.name = name

private theorem definedIn_append (ks ls : List LocalsBlock) (name : String) :
    DefinedIn (ks ++ ls) name ↔ DefinedIn ks name ∨ DefinedIn ls name := by
  simp only [DefinedIn, List.mem_append, or_and_right, exists_or]

private theorem definedIn_singleton (k : LocalsBlock) (name : String) :
    DefinedIn [k] name ↔ ∃ a ∈ k.attributes, a.name = name := by
  simp [DefinedIn]

/-- The block can be added behind other blocks. -/
structure LocalsBlock.Fits (before : List LocalsBlock) (k : LocalsBlock) : Prop where
  nested : k.nested = none
  attributes : ∀ a ∈ k.attributes, ¬ DefinedIn before a.name ∧ a.Evaluates

/-- The errors about a block behind other blocks: it holds a block, or one of its attributes really is defined before or
really has no value. -/
inductive LocalsBlock.Blames (before : List LocalsBlock) (k : LocalsBlock) : LoadError → Prop
  | nested (kind region) (h : k.nested = some (kind, region)) : Blames before k
      (.nestedLocals ⟨region, s!"Unexpected {Text.quote kind} block", "Blocks are not allowed here."⟩)
  | duplicate (a) (ha : a ∈ k.attributes) (hnested : k.nested = none) (h : DefinedIn before a.name) :
      Blames before k (.duplicateLocal a.name a.nameRegion)
  | fault (a) (ha : a ∈ k.attributes) (hnested : k.nested = none) (h : ¬ a.Evaluates) :
      Blames before k (.localFault a.name (a.value.eval .none).2)

end SuiteFile

/-! ### Values -/

namespace SuiteFile.Value

/-- A new entry is put among the others. -/
private theorem perm_putEntry {key : String} {es : List (String × Value)} (h : key ∉ es.map (·.1)) (v : Value) :
    (putEntry key v es).Perm ((key, v) :: es) := by
  induction es with
  | nil => rfl
  | cons e es ih =>
    obtain ⟨hne, hrest⟩ := List.ne_and_not_mem_of_not_mem_cons h
    unfold putEntry
    rw [if_neg hne]
    split
    · rfl
    · exact ((ih hrest).cons e).trans (List.Perm.swap ..)

private theorem mem_of_mem_putEntry {key : String} {v : Value} {e : String × Value} {es : List (String × Value)}
    (h : e ∈ putEntry key v es) : e = (key, v) ∨ e ∈ es := by
  induction es with
  | nil => simpa [putEntry] using h
  | cons e' es ih =>
    unfold putEntry at h
    split at h
    · exact List.mem_cons.1 h
    · split at h
      · exact (List.mem_cons.1 h).imp_right (List.mem_cons_of_mem _)
      · rcases List.mem_cons.1 h with rfl | h
        · exact .inr List.mem_cons_self
        · exact (ih h).imp_right (List.mem_cons_of_mem _)

/-- Entries with different keys that are put one after the other are all there. -/
private theorem perm_foldl_putEntry {α : Type} (key : α → String) (value : α → Value) {as : List α}
    (hnodup : (as.map key).Nodup) {es : List (String × Value)} (hnew : ∀ a ∈ as, key a ∉ es.map (·.1)) :
    (as.foldl (fun es a => putEntry (key a) (value a) es) es).Perm (as.map (fun a => (key a, value a)) ++ es) := by
  induction as generalizing es with
  | nil => rfl
  | cons a as ih =>
    obtain ⟨hfirst, hnodup⟩ := List.nodup_cons.1 hnodup
    obtain ⟨ha, hnew⟩ := List.forall_mem_cons.1 hnew
    have hrest : ∀ b ∈ as, key b ∉ (putEntry (key a) (value a) es).map (·.1) := by
      intro b hb
      rw [mem_keys_putEntry, not_or]
      exact ⟨fun hkey => hfirst (List.mem_map.2 ⟨b, hb, hkey⟩), hnew b hb⟩
    refine (ih hnodup hrest).trans ?_
    exact ((perm_putEntry ha _).append_left _).trans List.perm_middle

/-- Whatever the keys are, all of them are there afterwards. -/
private theorem mem_keys_foldl_putEntry {α : Type} (key : α → String) (value : α → Value) (name : String) (as : List α)
    (es : List (String × Value)) :
    name ∈ (as.foldl (fun es a => putEntry (key a) (value a) es) es).map (·.1) ↔
      (∃ a ∈ as, key a = name) ∨ name ∈ es.map (·.1) := by
  induction as generalizing es with
  | nil => simp
  | cons a as ih =>
    rw [List.foldl_cons, ih, mem_keys_putEntry, List.exists_mem_cons_iff, or_left_comm, or_assoc, eq_comm]

private theorem mem_of_mem_foldl_putEntry {α : Type} (key : α → String) (value : α → Value) {e : String × Value}
    {as : List α} {es : List (String × Value)} (h : e ∈ as.foldl (fun es a => putEntry (key a) (value a) es) es) :
    (∃ a ∈ as, e = (key a, value a)) ∨ e ∈ es := by
  induction as generalizing es with
  | nil => exact .inr h
  | cons a as ih =>
    rw [List.exists_mem_cons_iff]
    rcases ih h with h | h
    · exact .inl (.inr h)
    · exact (mem_of_mem_putEntry h).imp_left .inl

end SuiteFile.Value

private theorem perm_addLocals {known locals : Locals} {as : List Attribute} (h : addLocals known as = .ok locals) :
    locals.Perm (as.map (fun a => (a.name, a.ownValue)) ++ known) := by
  obtain ⟨_, hnodup, hnew, rfl⟩ := (addLocals_eq_ok_iff _ _ _).1 h
  exact Value.perm_foldl_putEntry _ _ hnodup hnew

/-! ### Failures -/

/-- Attributes with different names fail at one that is known already or has no value. -/
private theorem addLocals_eq_error {known : Locals} {as : List Attribute} {e : LoadError} (honce : NamedOnce as)
    (h : addLocals known as = .error e) :
    ∃ a ∈ as, (a.name ∈ known.map (·.1) ∧ e = .duplicateLocal a.name a.nameRegion) ∨
      (¬ a.Evaluates ∧ e = .localFault a.name (a.value.eval .none).2) := by
  induction as generalizing known with
  | nil => cases h
  | cons a as ih =>
    obtain ⟨hfirst, honce⟩ := List.nodup_cons.1 honce
    rw [addLocals] at h
    simp only [Value.isSome_valueAt?_iff] at h
    split at h
    · rename_i hknown
      cases h
      exact ⟨a, List.mem_cons_self, .inl ⟨hknown, rfl⟩⟩
    · split at h
      · -- The attribute has been added, but no other one of the block has its name.
        obtain ⟨b, hb, hcause⟩ := ih honce h
        have hne : b.name ≠ a.name := fun hname => hfirst (List.mem_map.2 ⟨b, hb, hname⟩)
        rw [Value.mem_keys_putEntry, or_iff_right hne] at hcause
        exact ⟨b, List.mem_cons_of_mem _ hb, hcause⟩
      · rename_i ds hds heval
        cases h
        refine ⟨a, List.mem_cons_self, .inr ⟨?_, ?_⟩⟩
        · rw [Attribute.Evaluates, heval]
          exact hds
        · rw [heval]

/-- Blocks fail at the first one that does not fit, in whatever order its attributes and those of the others are
visited. -/
theorem addLocalsBlocks_eq_error {before blocks visited : List LocalsBlock} {known : Locals} {e : LoadError}
    (hknown : ∀ name, name ∈ known.map (·.1) ↔ DefinedIn before name) (honce : ∀ k ∈ blocks, NamedOnce k.attributes)
    (hvisited : List.Forall₂ LocalsBlock.Revisited blocks visited) (h : addLocalsBlocks known visited = .error e) :
    ∃ fitting k rest, blocks = fitting ++ k :: rest ∧
      (∀ pre l post, fitting = pre ++ l :: post → l.Fits (before ++ pre)) ∧ k.Blames (before ++ fitting) e := by
  -- By induction on the blocks: the names that are known are those defined in the blocks before.
  induction hvisited generalizing before known with
  | nil => cases h
  | @cons k k' blocks visited hk _ ih =>
    obtain ⟨hfirst, honce⟩ := List.forall_mem_cons.1 honce
    unfold addLocalsBlocks at h
    rw [hk.nested] at h
    cases hnested : k.nested with
    | some block =>
      rw [hnested] at h
      cases h
      refine ⟨[], k, blocks, rfl, by simp, ?_⟩
      exact .nested _ _ hnested
    | none =>
      rw [hnested] at h
      cases hadd : addLocals known k'.attributes with
      | error e' =>
        rw [hadd] at h
        cases h
        obtain ⟨a, ha, hcause⟩ := addLocals_eq_error ((hk.attributes.map _).nodup_iff.1 hfirst) hadd
        rw [← hk.attributes.mem_iff] at ha
        rw [hknown] at hcause
        refine ⟨[], k, blocks, rfl, by simp, ?_⟩
        rw [List.append_nil]
        rcases hcause with ⟨hdefined, rfl⟩ | ⟨hfails, rfl⟩
        · exact .duplicate a ha hnested hdefined
        · exact .fault a ha hnested hfails
      | ok known' =>
        rw [hadd] at h
        have hknown' : ∀ name, name ∈ known'.map (·.1) ↔ DefinedIn (before ++ [k]) name := by
          intro name
          rw [((perm_addLocals hadd).map _).mem_iff, List.map_append, List.mem_append, hknown, definedIn_append,
            definedIn_singleton, List.map_map, List.mem_map]
          simp only [hk.attributes.mem_iff, Function.comp_apply]
          exact or_comm
        obtain ⟨fitting, l, rest, rfl, hfits, hblames⟩ := ih hknown' honce h
        refine ⟨k :: fitting, l, rest, rfl, ?_, by simpa using hblames⟩
        intro pre m post hsplit
        cases pre with
        | nil =>
          cases hsplit
          obtain ⟨hvalues, _, hnew, _⟩ := (addLocals_eq_ok_iff _ _ _).1 hadd
          refine ⟨hnested, fun a ha => ?_⟩
          rw [hk.attributes.mem_iff] at ha
          rw [List.append_nil, ← hknown]
          exact ⟨hnew a ha, hvalues a ha⟩
        | cons k₀ pre =>
          cases hsplit
          simpa using hfits pre m post rfl

/-! ### All visits -/

/-- No block holds other blocks, no name is defined in two blocks, and all attributes have values. -/
structure Collectable (blocks : List LocalsBlock) : Prop where
  nested : ∀ k ∈ blocks, k.nested = none
  names : blocks.Pairwise fun k l => ∀ a ∈ k.attributes, ∀ b ∈ l.attributes, a.name ≠ b.name
  values : ∀ k ∈ blocks, ∀ a ∈ k.attributes, a.Evaluates

/-- Every attribute has an entry under its composed name and every entry is that of an attribute; there are as many
entries as attributes when the composed names are all different. -/
structure Unites (entries : List (String × Value)) (as : List Attribute) : Prop where
  names : ∀ a ∈ as, Text.composed a.name ∈ entries.map (·.1)
  values : ∀ e ∈ entries, ∃ a ∈ as, e = (Text.composed a.name, a.ownValue)
  all : (as.map fun a => Text.composed a.name).Nodup →
    entries.Perm (as.map fun a => (Text.composed a.name, a.ownValue))

theorem exists_collectLocals_iff {ds : List Document} (honce : ∀ k ∈ ds.flatMap (·.locals), NamedOnce k.attributes) :
    (∃ locals, collectLocals ds = .ok locals) ↔ Collectable (ds.flatMap (·.locals)) := by
  have hnames : (((ds.flatMap (·.locals)).flatMap (·.attributes)).map (·.name)).Nodup ↔
      (ds.flatMap (·.locals)).Pairwise fun k l => ∀ a ∈ k.attributes, ∀ b ∈ l.attributes, a.name ≠ b.name := by
    rw [List.map_flatMap, List.nodup_flatMap]
    refine (and_iff_right honce).trans (List.Pairwise.iff fun k l => ?_)
    rw [Function.onFun, List.disjoint_left, List.forall_mem_map]
    simp only [List.mem_map, not_exists, not_and, ne_eq, eq_comm]
  simp only [collectLocals, addLocalsBlocks_eq_ok_iff, addLocals_eq_ok_iff, hnames]
  constructor
  · rintro ⟨_, hnested, hvalues, hpairs, _⟩
    exact ⟨hnested, hpairs, fun k hk a ha => hvalues a (List.mem_flatMap.2 ⟨k, hk, ha⟩)⟩
  · intro h
    refine ⟨_, h.nested, fun a ha => ?_, h.names, by simp, rfl⟩
    obtain ⟨k, hk, hka⟩ := List.mem_flatMap.1 ha
    exact h.values k hk a hka

private theorem unites_localScope {locals : Locals} {as : List Attribute}
    (hlocals : locals.Perm (as.map fun a => (a.name, a.ownValue))) (visiting : Visiting) :
    ∃ entries, localScope visiting locals = { levels := [[("local", .object entries)]] } ∧ Unites entries as := by
  have h := (visiting.perm locals).trans hlocals
  refine ⟨_, rfl, fun a ha => ?_, fun e he => ?_, fun hnodup => ?_⟩
  · rw [Value.mem_keys_foldl_putEntry (fun l : String × Value => Text.composed l.1)]
    exact .inl ⟨(a.name, a.ownValue), h.mem_iff.2 (List.mem_map_of_mem ha), rfl⟩
  · rcases Value.mem_of_mem_foldl_putEntry (fun l : String × Value => Text.composed l.1) _ he with ⟨l, hl, rfl⟩ | hnil
    · obtain ⟨a, ha, rfl⟩ := List.mem_map.1 (h.mem_iff.1 hl)
      exact ⟨a, ha, rfl⟩
    · cases hnil
  · have hcomposed := h.map fun l => Text.composed l.1
    rw [List.map_map] at hcomposed
    have hnew : ∀ l ∈ visiting.order locals, Text.composed l.1 ∉ ([] : Locals).map (·.1) := by simp
    have hentries := Value.perm_foldl_putEntry (fun l : String × Value => Text.composed l.1) (·.2)
      (hcomposed.nodup_iff.2 hnodup) hnew
    rw [List.append_nil] at hentries
    have hall := h.map fun l => (Text.composed l.1, l.2)
    rw [List.map_map] at hall
    exact hentries.trans hall

/-- Local values do not depend on the order in which attributes, blocks and files are visited.  They can be collected
if and only if no block holds others, no name is defined in two blocks and every attribute has a value of its own; they
are then all attributes with their values, and so is the `local` object, in whatever order the local values are visited, up
to the composition of names.  In whatever order the attributes of blocks are visited, an error is about the first block
that does not fit. -/
theorem collectLocals_visited {lookup : Lookup} {files : List String} {ds : List Document}
    (hds : readDocuments lookup files = .ok ds) :
    let blocks := ds.flatMap (·.locals)
    let attributes := blocks.flatMap (·.attributes)
    (∀ ds' blocks', blocks.Perm blocks' → List.Forall₂ LocalsBlock.Revisited blocks' (ds'.flatMap (·.locals)) →
      ((∃ locals, collectLocals ds' = .ok locals) ↔ Collectable blocks) ∧
      ∀ locals, collectLocals ds' = .ok locals → collectLocals ds = .ok locals ∧
        locals.Perm (attributes.map fun a => (a.name, a.ownValue)) ∧
        ∀ visiting, ∃ entries, localScope visiting locals = { levels := [[("local", .object entries)]] } ∧
          Unites entries attributes) ∧
    ∀ ds' e, List.Forall₂ LocalsBlock.Revisited blocks (ds'.flatMap (·.locals)) → collectLocals ds' = .error e →
      ∃ fitting k rest, blocks = fitting ++ k :: rest ∧ (∀ pre l post, fitting = pre ++ l :: post → l.Fits pre) ∧
        k.Blames fitting e := by
  have honce := namedOnce_of_readDocuments hds
  refine ⟨fun ds' blocks' hblocks hvisited => ?_, fun ds' e hvisited herror => ?_⟩
  · simp only [← collectLocals_visited_iff hblocks hvisited]
    refine ⟨exists_collectLocals_iff honce, fun locals hlocals => ⟨hlocals, ?_⟩⟩
    have hperm := perm_addLocals ((addLocalsBlocks_eq_ok_iff _ _ _).1 hlocals).2
    rw [List.append_nil] at hperm
    exact ⟨hperm, unites_localScope hperm⟩
  · have hnone : ∀ name, name ∈ ([] : Locals).map (·.1) ↔ DefinedIn [] name := by simp [DefinedIn]
    simpa using addLocalsBlocks_eq_error hnone honce hvisited herror

/-- Two files with three local values, and a third file that defines two of them again. -/
def overlappingFiles : Lookup
  | "a.hcl" => .ok (.file "locals \x7b\n  x = 1\n  y = 2\n\x7d\n")
  | "b.hcl" => .ok (.file "locals \x7b\n  z = \"three\"\n\x7d\n")
  | "c.hcl" => .ok (.file "locals \x7b\n  y = 4\n  z = 5\n\x7d\n")
  | _ => .error .missing

/-- The first two files can be visited in any order, and all three in none. -/
theorem collectLocals_visited_files :
    (∃ ds, readDocuments overlappingFiles ["a.hcl", "b.hcl"] = .ok ds ∧
      ∀ ds' blocks', (ds.flatMap (·.locals)).Perm blocks' →
        List.Forall₂ LocalsBlock.Revisited blocks' (ds'.flatMap (·.locals)) →
        ∃ locals, collectLocals ds' = .ok locals ∧ collectLocals ds = .ok locals) ∧
    ∃ ds, readDocuments overlappingFiles ["a.hcl", "b.hcl", "c.hcl"] = .ok ds ∧
      ∀ ds', List.Forall₂ LocalsBlock.Revisited (ds.flatMap (·.locals)) (ds'.flatMap (·.locals)) →
        ∃ e fitting k rest, collectLocals ds' = .error e ∧ ds.flatMap (·.locals) = fitting ++ k :: rest ∧
          k.Blames fitting e := by
  have hsame : ∀ blocks : List LocalsBlock, List.Forall₂ LocalsBlock.Revisited blocks blocks :=
    fun blocks => List.forall₂_same.2 fun k _ => ⟨rfl, .refl _⟩
  refine ⟨?_, ?_⟩
  · have hread : ((readDocuments overlappingFiles ["a.hcl", "b.hcl"]).toOption.bind fun ds =>
        (collectLocals ds).toOption.map (·.map (·.1))) = some ["x", "y", "z"] := by decide +kernel
    simp only [Option.bind_eq_some_iff, Option.map_eq_some_iff, toOption_eq_some_iff] at hread
    obtain ⟨ds, hds, locals, hlocals, _⟩ := hread
    obtain ⟨hvisits, _⟩ := collectLocals_visited hds
    have hcollectable := (hvisits ds _ (.refl _) (hsame _)).1.1 ⟨locals, hlocals⟩
    refine ⟨ds, hds, fun ds' blocks' hblocks hvisited => ?_⟩
    obtain ⟨hiff, hlocals'⟩ := hvisits ds' blocks' hblocks hvisited
    obtain ⟨locals', h⟩ := hiff.2 hcollectable
    exact ⟨locals', h, (hlocals' locals' h).1⟩
  · have hread : ((readDocuments overlappingFiles ["a.hcl", "b.hcl", "c.hcl"]).toOption.map fun ds =>
        (collectLocals ds).isOk) = some false := by decide +kernel
    simp only [Option.map_eq_some_iff, toOption_eq_some_iff] at hread
    obtain ⟨ds, hds, hfails⟩ := hread
    obtain ⟨hvisits, herrors⟩ := collectLocals_visited hds
    have hnot : ¬ Collectable (ds.flatMap (·.locals)) := by
      intro h
      obtain ⟨locals, hlocals⟩ := (hvisits ds _ (.refl _) (hsame _)).1.2 h
      rw [hlocals] at hfails
      cases hfails
    refine ⟨ds, hds, fun ds' hvisited => ?_⟩
    cases herror : collectLocals ds' with
    | ok locals => exact absurd ((hvisits ds' _ (.refl _) hvisited).1.1 ⟨locals, herror⟩) hnot
    | error e =>
      obtain ⟨fitting, k, rest, hsplit, _, hblames⟩ := herrors ds' e hvisited herror
      exact ⟨e, fitting, k, rest, rfl, hsplit, hblames⟩

/-- Two attributes with different names that are composed to the same name: both are collected as local values, but the
`local` object has only one of them, so their difference is zero. -/
theorem collectLocals_visited_merged :
    let source := "locals \x7b\n  é = 1\n  e\u0301 = 2\n\x7d\nbenchmark \"naive\" \"fib\" \x7b\n" ++
      "  n      = 2 + local.e\u0301 - local.é\n  expect = 2\n\x7d\n"
    let lookup : Lookup := fun _ => .ok (.file source)
    (∃ ds locals entries, readDocuments lookup ["a.hcl"] = .ok ds ∧ collectLocals ds = .ok locals ∧
      locals.map (·.1) = ["e\u0301", "é"] ∧ localScope .byName locals = { levels := [[("local", .object entries)]] } ∧
      entries.length = 1) ∧
    loadSuite .byName lookup ["a.hcl"] = .ok ⟨[⟨"fib", "naive", 2, 2, "ms", 1⟩]⟩ := by
  intro source lookup
  have hread : ((readDocuments lookup ["a.hcl"]).toOption.bind fun ds => (collectLocals ds).toOption.map fun locals =>
      (locals.map (·.1), (locals.foldl (fun es l => Value.putEntry (Text.composed l.1) l.2 es) []).length)) =
      some (["e\u0301", "é"], 1) := by decide +kernel
  simp only [Option.bind_eq_some_iff, Option.map_eq_some_iff, toOption_eq_some_iff, Prod.mk.injEq] at hread
  obtain ⟨ds, hds, locals, hlocals, hnames, hlength⟩ := hread
  refine ⟨⟨ds, locals, _, hds, hlocals, hnames, rfl, hlength⟩, ?_⟩
  exact toOption_eq_some_iff.1 (by decide +kernel)

end FibTiming
