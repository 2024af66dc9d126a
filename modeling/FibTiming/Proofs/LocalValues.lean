import FibTiming.Loading
import Mathlib.Data.List.Nodup
import Mathlib.Data.List.Perm.Basic

/-!
# Collecting local values

The local values of all files make one map.  They can be collected when no block holds other blocks, every value can be
evaluated and no name occurs twice (`addLocals_eq_ok_iff`, `addLocalsBlocks_eq_ok_iff`).  Entries of different names can
be put in any order (`Value.putEntry_comm`), so the map does not depend on where the blocks stand
(`collectLocals_perm`).  The `local` object that is made of the map has composed names, and does not depend on the order in
which the map is visited exactly when values with the same composed name are the same (`localScope_settled_iff`).
-/

namespace FibTiming

open SuiteFile

namespace SuiteFile.Value

theorem putEntry_comm {k l : String} (h : k ≠ l) (v w : Value) (es : List (String × Value)) :
    putEntry k v (putEntry l w es) = putEntry l w (putEntry k v es) := by
  -- It is enough to look at the case in which `k` comes first.
  have hlt : ∀ {k l : String} (v w : Value), k < l →
      putEntry k v (putEntry l w es) = putEntry l w (putEntry k v es) := by
    intro k l v w hkl
    have hne : k ≠ l := fun he => String.lt_irrefl k (he ▸ hkl)
    have hlk : ¬ l < k := String.lt_asymm hkl
    induction es with
    | nil => simp [putEntry, hkl, hlk, hne.symm]
    | cons e es ih =>
      obtain ⟨m, x⟩ := e
      by_cases hkm : k < m
      · by_cases hlm : l < m
        · simp [putEntry, hkm, hlm, hkl, hlk, hne.symm]
        · by_cases hlm' : l = m
          · subst hlm'
            simp [putEntry, hkl, hlk, hne.symm]
          · simp [putEntry, hkm, hlm, hlm', hlk, hne.symm]
      · by_cases hkm' : k = m
        · subst hkm'
          simp [putEntry, hlk, hne.symm]
        · -- Both entries belong behind the first one.
          have hmk : m < k := by
            rcases String.le_total k m with hle | hle
            · exact absurd (String.le_antisymm hle (String.not_lt.1 hkm)) hkm'
            · exact String.not_le.1 fun hle' => hkm' (String.le_antisymm hle' hle)
          have hlm : ¬ l < m := String.lt_asymm (String.lt_trans hmk hkl)
          have hlm' : l ≠ m := fun he => hlk (he ▸ hmk)
          simp [putEntry, hkm, hkm', hlm, hlm', ih]
  by_cases hkl : k < l
  · exact hlt v w hkl
  · have hlk : l < k := String.not_le.1 fun hle => h (String.le_antisymm hle (String.not_lt.1 hkl))
    exact (hlt w v hlk).symm

theorem isSome_valueAt?_iff (name : String) (es : List (String × Value)) :
    (valueAt? name es).isSome ↔ name ∈ es.map (·.1) := by
  induction es with
  | nil => simp [valueAt?]
  | cons e es ih =>
    by_cases h : e.1 = name
    · simp [valueAt?, h]
    · simpa [valueAt?, h, Ne.symm h] using ih

theorem mem_keys_putEntry (name key : String) (v : Value) (es : List (String × Value)) :
    name ∈ (putEntry key v es).map (·.1) ↔ name = key ∨ name ∈ es.map (·.1) := by
  induction es with
  | nil => simp [putEntry]
  | cons e es ih =>
    unfold putEntry
    split
    · simp
    · split
      · rename_i hkey
        simp [hkey]
      · rw [List.map_cons, List.mem_cons, ih, List.map_cons, List.mem_cons]
        exact or_left_comm

private theorem valueAt?_putEntry_self (key : String) (v : Value) (es : List (String × Value)) :
    valueAt? key (putEntry key v es) = some v := by
  induction es with
  | nil => simp [putEntry, valueAt?]
  | cons e es ih =>
    unfold putEntry
    split
    · simp [valueAt?]
    · split
      · simp [valueAt?]
      · rename_i hkey
        rw [valueAt?, if_neg (Ne.symm hkey), ih]

end SuiteFile.Value

/-! ### Collecting -/

/-- Adds the values of attributes to the local values, whatever is known. -/
def putAttributes (known : Locals) (as : List Attribute) : Locals :=
  as.foldl (fun known a => Value.putEntry a.name (a.value.eval .none).1 known) known

/-- The attributes of a list can be added when they can be evaluated and bring only new names, each once. -/
theorem addLocals_eq_ok_iff (known : Locals) (as : List Attribute) (locals : Locals) :
    addLocals known as = .ok locals ↔
      (∀ a ∈ as, (a.value.eval .none).2 = []) ∧ (as.map (·.name)).Nodup ∧
      (∀ a ∈ as, a.name ∉ known.map (·.1)) ∧ locals = putAttributes known as := by
  induction as generalizing known with
  | nil =>
    rw [addLocals, Except.ok.injEq, eq_comm]
    simp [putAttributes]
  | cons a as ih =>
    rw [addLocals]
    simp only [Value.isSome_valueAt?_iff]
    by_cases hknown : a.name ∈ known.map (·.1)
    · simp only [hknown, ↓reduceIte, reduceCtorEq, false_iff]
      rintro ⟨_, _, hnew, _⟩
      exact hnew a (by simp) hknown
    · simp only [hknown, ↓reduceIte]
      split
      · rename_i v heval
        have hfirst : a.name ∉ as.map (·.name) ↔ ∀ b ∈ as, b.name ≠ a.name := by simp
        simp only [ih, Value.mem_keys_putEntry, not_or, List.forall_mem_cons, List.map_cons, List.nodup_cons, hfirst,
          putAttributes, List.foldl_cons, heval]
        constructor
        · rintro ⟨hvalues, hnodup, hnew, rfl⟩
          exact ⟨⟨trivial, hvalues⟩, ⟨fun b hb => (hnew b hb).1, hnodup⟩, ⟨hknown, fun b hb => (hnew b hb).2⟩, rfl⟩
        · rintro ⟨⟨_, hvalues⟩, ⟨hne, hnodup⟩, ⟨_, hnew⟩, rfl⟩
          exact ⟨hvalues, hnodup, fun b hb => ⟨hne b hb, hnew b hb⟩, rfl⟩
      · rename_i v ds hds heval
        simp only [reduceCtorEq, false_iff]
        rintro ⟨hvalues, _⟩
        have := hvalues a (by simp)
        rw [heval] at this
        exact hds this

private theorem addLocals_append (known : Locals) (as bs : List Attribute) :
    addLocals known (as ++ bs) = addLocals known as >>= fun known => addLocals known bs := by
  induction as generalizing known with
  | nil => rfl
  | cons a as ih =>
    rw [List.cons_append, addLocals, addLocals]
    split
    · rfl
    · split
      · exact ih _
      · rfl

/-- Blocks can be added when none of them holds other blocks and all their attributes can be added. -/
theorem addLocalsBlocks_eq_ok_iff (known : Locals) (blocks : List LocalsBlock) (locals : Locals) :
    addLocalsBlocks known blocks = .ok locals ↔
      (∀ k ∈ blocks, k.nested = none) ∧ addLocals known (blocks.flatMap (·.attributes)) = .ok locals := by
  induction blocks generalizing known with
  | nil => simp [addLocalsBlocks, addLocals]
  | cons k blocks ih =>
    rw [List.flatMap_cons, addLocals_append, List.forall_mem_cons, addLocalsBlocks]
    cases k.nested with
    | some p => simp
    | none =>
      cases addLocals known k.attributes with
      | error e => simp [bind, Except.bind]
      | ok known' => simpa [bind, Except.bind] using ih known'

/-- Attributes of different names can be put in any order. -/
private theorem putAttributes_perm {as bs : List Attribute} (h : as.Perm bs) (hnodup : (as.map (·.name)).Nodup)
    (known : Locals) : putAttributes known as = putAttributes known bs := by
  apply h.foldl_eq'
  intro a ha b hb known'
  by_cases hname : a.name = b.name
  · rw [List.inj_on_of_nodup_map hnodup ha hb hname]
  · exact Value.putEntry_comm (Ne.symm hname) _ _ _

/-- The block when its attributes are visited in another order. -/
structure SuiteFile.LocalsBlock.Revisited (k k' : LocalsBlock) : Prop where
  nested : k'.nested = k.nested
  attributes : k.attributes.Perm k'.attributes

/-- Blocks that are visited in another way have the same attributes together. -/
private theorem revisited_attributes {blocks visited : List LocalsBlock}
    (h : List.Forall₂ LocalsBlock.Revisited blocks visited) :
    ((∀ k ∈ blocks, k.nested = none) ↔ ∀ k ∈ visited, k.nested = none) ∧
      (blocks.flatMap (·.attributes)).Perm (visited.flatMap (·.attributes)) := by
  induction h with
  | nil => exact ⟨Iff.rfl, .refl _⟩
  | cons hk _ ih =>
    simp only [List.forall_mem_cons, hk.nested, ih.1, true_and]
    exact hk.attributes.append ih.2

/-- The local values depend on the attributes of all blocks together, in whatever blocks and documents they stand. -/
private theorem collectLocals_congr {ds ds' : List Document}
    (hnested : (∀ k ∈ ds.flatMap (·.locals), k.nested = none) ↔ ∀ k ∈ ds'.flatMap (·.locals), k.nested = none)
    (hattributes : ((ds.flatMap (·.locals)).flatMap (·.attributes)).Perm
      ((ds'.flatMap (·.locals)).flatMap (·.attributes)))
    (locals : Locals) : collectLocals ds = .ok locals ↔ collectLocals ds' = .ok locals := by
  have hnames := (hattributes.map (·.name)).nodup_iff
  simp only [collectLocals, addLocalsBlocks_eq_ok_iff, addLocals_eq_ok_iff, hnested, hattributes.mem_iff, hnames]
  constructor
  · rintro ⟨hnested, hvalues, hnodup, hnew, rfl⟩
    exact ⟨hnested, hvalues, hnodup, hnew, putAttributes_perm hattributes (hnames.2 hnodup) _⟩
  · rintro ⟨hnested, hvalues, hnodup, hnew, rfl⟩
    exact ⟨hnested, hvalues, hnodup, hnew, (putAttributes_perm hattributes (hnames.2 hnodup) _).symm⟩

/-- The local values do not depend on the order of the attributes and of the blocks, or on the files they stand in. -/
theorem collectLocals_visited_iff {ds ds' : List Document} {blocks : List LocalsBlock}
    (hblocks : (ds.flatMap (·.locals)).Perm blocks)
    (hvisited : List.Forall₂ LocalsBlock.Revisited blocks (ds'.flatMap (·.locals))) (locals : Locals) :
    collectLocals ds = .ok locals ↔ collectLocals ds' = .ok locals := by
  obtain ⟨hnested, hattributes⟩ := revisited_attributes hvisited
  refine collectLocals_congr ?_ ?_ locals
  · simp only [hblocks.mem_iff, hnested]
  · exact (hblocks.flatMap_right _).trans hattributes

theorem collectLocals_perm {ds ds' : List Document} (h : (ds.flatMap (·.locals)).Perm (ds'.flatMap (·.locals)))
    (locals : Locals) : collectLocals ds = .ok locals ↔ collectLocals ds' = .ok locals :=
  collectLocals_visited_iff h (List.forall₂_same.2 fun _ _ => ⟨rfl, .refl _⟩) locals

/-! ### The `local` object -/

/-- Local values with the same composed name are the same, so that it does not matter which of them stays. -/
def Locals.Settled (locals : Locals) : Prop :=
  ∀ l ∈ locals, ∀ m ∈ locals, Text.composed l.1 = Text.composed m.1 → l.2 = m.2

private theorem exists_visiting {locals visited : Locals} (h : visited.Perm locals) :
    ∃ visiting : Visiting, visiting.order locals = visited := by
  classical
  refine ⟨⟨fun ls => if ls = locals then visited else ls, fun ls => ?_⟩, if_pos rfl⟩
  split
  · rename_i heq
    exact heq ▸ h
  · rfl

/-- Every local value can be the one that is visited last. -/
private theorem exists_visiting_last {locals : Locals} {l : String × Value} (h : l ∈ locals) :
    ∃ visiting entries, localScope visiting locals =
      { levels := [[("local", .object (Value.putEntry (Text.composed l.1) l.2 entries))]] } := by
  obtain ⟨before, behind, rfl⟩ := List.append_of_mem h
  have hperm : (before ++ behind ++ [l]).Perm (before ++ l :: behind) := by
    rw [List.append_assoc]
    exact (List.perm_append_singleton l behind).append_left before
  obtain ⟨visiting, hvisiting⟩ := exists_visiting hperm
  refine ⟨visiting, (before ++ behind).foldl (fun es m => Value.putEntry (Text.composed m.1) m.2 es) [], ?_⟩
  rw [localScope, hvisiting, List.foldl_append]
  rfl

/-- The `local` object does not depend on the order in which local values are visited exactly when those with the same
composed name are the same. -/
theorem localScope_settled_iff (locals : Locals) :
    (∀ visiting visiting', localScope visiting locals = localScope visiting' locals) ↔ locals.Settled := by
  constructor
  · intro h l hl m hm hname
    obtain ⟨visiting, es, hlast⟩ := exists_visiting_last hl
    obtain ⟨visiting', es', hlast'⟩ := exists_visiting_last hm
    have hscope := h visiting visiting'
    rw [hlast, hlast', hname] at hscope
    simp only [Scope.mk.injEq, List.cons.injEq, Prod.mk.injEq, Value.object.injEq, true_and, and_true] at hscope
    have hvalue := congrArg (Value.valueAt? (Text.composed m.1)) hscope
    rw [Value.valueAt?_putEntry_self, Value.valueAt?_putEntry_self] at hvalue
    exact Option.some.inj hvalue
  · intro h visiting visiting'
    have hperm : (visiting.order locals).Perm (visiting'.order locals) :=
      (visiting.perm locals).trans (visiting'.perm locals).symm
    have hentries := hperm.foldl_eq' (f := fun es l => Value.putEntry (Text.composed l.1) l.2 es) ?_ []
    · rw [localScope, hentries]
      rfl
    · intro l hl m hm es
      rw [(visiting.perm locals).mem_iff] at hl hm
      by_cases hname : Text.composed l.1 = Text.composed m.1
      · rw [hname, h l hl m hm hname]
      · exact Value.putEntry_comm (Ne.symm hname) _ _ _

/-- Local values of which the names stay apart when they are composed. -/
theorem Locals.settled_of_nodup {locals : Locals} (h : (locals.map fun l => Text.composed l.1).Nodup) :
    locals.Settled := by
  intro l hl m hm hname
  rw [List.inj_on_of_nodup_map h hl hm hname]

/-- The local values of the documents are settled, if they can be collected. -/
def SettledIn (ds : List Document) : Prop := ∀ locals, collectLocals ds = .ok locals → locals.Settled

/-- The names of the local values in the files that paths lead to, if these can be read and collected. -/
def localNames? (lookup : Lookup) (paths : List String) : Option (List String) :=
  (findDocuments lookup paths).toOption.bind fun ds => (collectLocals ds).toOption.map (·.map (·.1))

/-- The names tell that the local values of the files are settled. -/
theorem settledIn_of_localNames {lookup : Lookup} {paths names : List String}
    (h : localNames? lookup paths = some names) (hnodup : (names.map Text.composed).Nodup) :
    ∀ ds, findDocuments lookup paths = .ok ds → SettledIn ds := by
  intro ds hds locals hlocals
  simp only [localNames?, hds, hlocals, Except.toOption, Option.bind_some, Option.map_some, Option.some.injEq] at h
  rw [← h, List.map_map] at hnodup
  exact Locals.settled_of_nodup hnodup

end FibTiming
