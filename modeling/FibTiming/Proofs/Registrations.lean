import FibTiming.Proofs.ByteOrder
import FibTiming.Proofs.Registry
import Mathlib.Data.List.Sort

/-!
# Histories of registrations

Registrations are attempted one after the other, and a refused one changes nothing.  The algorithm found under a name is
then the one of the first attempt that brought a computation for it (`find?_attemptAll`), and the names stay in order
(`Ordered.attemptAll`).  A registry in order is settled by what is found in it (`Ordered.ext`), so the order of attempts
does not matter as long as none of them is refused.
-/

namespace FibTiming.Registry

/-- The algorithm that an offer brings for a name, if it comes with a computation. -/
def brought (name : String) (offer : Option Offer) : Option Algorithm :=
  offer.bind fun o => o.computation.map fun c => ⟨name, o.description, c⟩

/-- The offer comes with a computation. -/
def Brings (offer : Option Offer) : Prop := ∃ o c, offer = some o ∧ o.computation = some c

private theorem brought_eq_some_iff {name : String} {offer : Option Offer} {a : Algorithm} :
    brought name offer = some a ↔ ∃ o c, offer = some o ∧ o.computation = some c ∧ a = ⟨name, o.description, c⟩ := by
  cases offer with
  | none => simp [brought]
  | some o => cases hc : o.computation <;> simp [brought, hc, eq_comm]

private theorem brought_eq_none_iff {name : String} {offer : Option Offer} :
    brought name offer = none ↔ ¬ Brings offer := by
  cases offer with
  | none => simp [brought, Brings]
  | some o => cases hc : o.computation <;> simp [brought, Brings, hc]

private theorem name_of_brought {name : String} {offer : Option Offer} {a : Algorithm}
    (h : brought name offer = some a) :
    a.name = name := by
  obtain ⟨o, c, _, _, rfl⟩ := brought_eq_some_iff.1 h
  rfl

/-- Attempts a registration; when it is refused the registry stays as it was. -/
def attempt (r : Registry) (call : String × Option Offer) : Except RegistrationError Unit × Registry :=
  match r.register call.1 call.2 with
  | .error e => (.error e, r)
  | .ok r' => (.ok (), r')

/-- The registry after a list of attempts. -/
def attemptAll (r : Registry) (calls : List (String × Option Offer)) : Registry :=
  calls.foldl (fun r call => (r.attempt call).2) r

/-- What can come of an attempt. -/
private theorem attempt_cases (r : Registry) (call : String × Option Offer) :
    ((call.1 ∈ r.names ∨ ¬ Brings call.2) ∧ ∃ e, r.attempt call = (.error e, r)) ∨
      ∃ a, call.1 ∉ r.names ∧ brought call.1 call.2 = some a ∧
        r.attempt call = (.ok (), ⟨insertByName a r.algorithms⟩) := by
  unfold attempt
  by_cases htaken : call.1 ∈ r.names
  · have hrefused : r.register call.1 call.2 = .error (.nameTaken call.1) := if_pos htaken
    rw [hrefused]
    exact .inl ⟨.inl htaken, _, rfl⟩
  · cases hb : brought call.1 call.2 with
    | none =>
      have hrefused : r.register call.1 call.2 = .error (.noComputation call.1) := by
        unfold brought at hb
        rw [register, if_neg htaken, hb]
      rw [hrefused]
      exact .inl ⟨.inr (brought_eq_none_iff.1 hb), _, rfl⟩
    | some a =>
      have hdone : r.register call.1 call.2 = .ok ⟨insertByName a r.algorithms⟩ := by
        unfold brought at hb
        rw [register, if_neg htaken, hb]
      rw [hdone]
      exact .inr ⟨a, htaken, rfl, rfl⟩

/-- An attempt is refused when the name is taken or nothing is brought. -/
theorem attempt_eq_error_iff (r : Registry) (call : String × Option Offer) :
    (∃ e, (r.attempt call).1 = .error e) ↔ call.1 ∈ r.names ∨ ¬ Brings call.2 := by
  rcases r.attempt_cases call with ⟨hwhy, e, he⟩ | ⟨a, hfree, hb, ha⟩
  · rw [he]
    exact ⟨fun _ => hwhy, fun _ => ⟨e, rfl⟩⟩
  · rw [ha]
    constructor
    · rintro ⟨e, he⟩
      cases he
    · rintro (htaken | hnone)
      · exact absurd htaken hfree
      · rw [brought_eq_none_iff.2 hnone] at hb
        cases hb

/-! ### What is found -/

private theorem lookup_eq_ok_iff (r : Registry) (name : String) (a : Algorithm) :
    r.lookup name = .ok a ↔ r.find? name = some a := by
  unfold lookup
  cases r.find? name <;> simp

private theorem mem_names_iff (r : Registry) (name : String) : name ∈ r.names ↔ ∃ a, r.find? name = some a := by
  simp only [← lookup_eq_ok_iff]
  constructor
  · intro h
    obtain ⟨a, _, ha⟩ := exists_lookup h
    exact ⟨a, ha⟩
  · rintro ⟨a, ha⟩
    exact mem_names_of_lookup ha

private theorem find?_insertByName {a : Algorithm} {as : List Algorithm} (h : a.name ∉ as.map (·.name))
    (name : String) : (insertByName a as).find? (·.name == name) =
      (as.find? (·.name == name)).or (if a.name = name then some a else none) := by
  induction as with
  | nil =>
    by_cases hn : a.name = name <;> simp [insertByName, hn]
  | cons b as ih =>
    rw [List.map_cons, List.mem_cons, not_or] at h
    unfold insertByName
    split
    · by_cases hn : a.name = name
      · -- The name is new, so nothing else is found under it.
        have hb : b.name ≠ name := fun hb => h.1 (hn.trans hb.symm)
        have hrest : as.find? (·.name == name) = none := by
          rw [List.find?_eq_none]
          intro x hx
          have hne : x.name ≠ name := fun he => h.2 (List.mem_map.2 ⟨x, hx, he.trans hn.symm⟩)
          simpa using hne
        simp [hn, hb, hrest]
      · simp [hn]
    · by_cases hb : b.name = name
      · simp [hb]
      · simp [hb, ih h.2]

/-- An attempt adds what it brings, unless something was found under the name before. -/
private theorem find?_attempt (r : Registry) (call : String × Option Offer) (name : String) :
    (r.attempt call).2.find? name =
      (r.find? name).or (if call.1 = name then brought call.1 call.2 else none) := by
  rcases r.attempt_cases call with ⟨hwhy, e, he⟩ | ⟨a, hfree, hb, ha⟩
  · rw [he]
    by_cases hn : call.1 = name
    · subst hn
      rcases hwhy with htaken | hnone
      · obtain ⟨a, ha⟩ := (r.mem_names_iff _).1 htaken
        simp [ha]
      · simp [brought_eq_none_iff.2 hnone]
    · simp [hn]
  · have hname := name_of_brought hb
    rw [ha, hb, ← hname]
    exact find?_insertByName (hname ▸ hfree) name

/-- The algorithm of the first attempt for a name that brings one. -/
def firstBrought (calls : List (String × Option Offer)) (name : String) : Option Algorithm :=
  calls.findSome? fun call => if call.1 = name then brought call.1 call.2 else none

/-- After a list of attempts, what was found before is still found, and else what was brought first. -/
theorem find?_attemptAll (r : Registry) (calls : List (String × Option Offer)) (name : String) :
    (r.attemptAll calls).find? name = (r.find? name).or (firstBrought calls name) := by
  induction calls generalizing r with
  | nil => simp [attemptAll, firstBrought]
  | cons call calls ih =>
    have hcons : r.attemptAll (call :: calls) = (r.attempt call).2.attemptAll calls := rfl
    rw [hcons, ih, find?_attempt, Option.or_assoc]
    congr 1
    unfold firstBrought
    rw [List.findSome?_cons]
    cases (if call.1 = name then brought call.1 call.2 else none) <;> rfl

private theorem find?_empty_attemptAll (calls : List (String × Option Offer)) (name : String) :
    (empty.attemptAll calls).find? name = firstBrought calls name := by
  rw [find?_attemptAll]
  rfl

private theorem firstBrought_eq_some_iff (calls : List (String × Option Offer)) (name : String) (a : Algorithm) :
    firstBrought calls name = some a ↔ ∃ before offer after, calls = before ++ (name, offer) :: after ∧
      brought name offer = some a ∧ ∀ call ∈ before, call.1 = name → ¬ Brings call.2 := by
  unfold firstBrought
  rw [List.findSome?_eq_some_iff]
  simp only [ite_eq_right_iff, brought_eq_none_iff]
  constructor
  · rintro ⟨before, ⟨n, offer⟩, after, hcalls, hb, hbefore⟩
    by_cases hn : n = name
    · subst hn
      rw [if_pos rfl] at hb
      exact ⟨before, offer, after, hcalls, hb, hbefore⟩
    · rw [if_neg hn] at hb
      cases hb
  · rintro ⟨before, offer, after, hcalls, hb, hbefore⟩
    exact ⟨before, (name, offer), after, hcalls, by rw [if_pos rfl, hb], hbefore⟩

/-- The names are those of attempts that were not refused. -/
theorem mem_names_attemptAll (r : Registry) (calls : List (String × Option Offer)) (name : String) :
    name ∈ (r.attemptAll calls).names ↔ name ∈ r.names ∨ ∃ before offer after,
      calls = before ++ (name, offer) :: after ∧ ((r.attemptAll before).attempt (name, offer)).1 = .ok () := by
  induction calls generalizing r with
  | nil => simp [attemptAll]
  | cons call calls ih =>
    have hstep : name ∈ (r.attempt call).2.names ↔
        name ∈ r.names ∨ call.1 = name ∧ (r.attempt call).1 = .ok () := by
      rcases r.attempt_cases call with ⟨_, e, he⟩ | ⟨a, _, hb, ha⟩
      · simp [he]
      · rw [mem_names_iff, mem_names_iff, find?_attempt, hb, ha]
        by_cases hn : call.1 = name
        · cases r.find? name <;> simp [hn]
        · simp [hn]
    have hcons : r.attemptAll (call :: calls) = (r.attempt call).2.attemptAll calls := rfl
    rw [hcons, ih, hstep, or_assoc]
    refine or_congr_right ?_
    constructor
    · rintro (⟨rfl, hok⟩ | ⟨before, offer, after, rfl, hok⟩)
      · exact ⟨[], call.2, calls, rfl, hok⟩
      · exact ⟨call :: before, offer, after, rfl, hok⟩
    · rintro ⟨before, offer, after, hcalls, hok⟩
      cases before with
      | nil =>
        cases hcalls
        exact .inl ⟨rfl, hok⟩
      | cons call' before =>
        cases hcalls
        exact .inr ⟨before, offer, after, rfl, hok⟩

/-! ### The order of names -/

/-- The names stand in order, each of them once. -/
def Ordered (r : Registry) : Prop := r.names.Pairwise (· < ·)

private theorem mem_insertByName {a x : Algorithm} {as : List Algorithm} :
    x ∈ insertByName a as ↔ x = a ∨ x ∈ as := by
  induction as with
  | nil => simp [insertByName]
  | cons b as ih =>
    unfold insertByName
    split
    · simp
    · simp only [List.mem_cons, ih]
      exact or_left_comm

private theorem pairwise_insertByName {a : Algorithm} {as : List Algorithm} (h : (as.map (·.name)).Pairwise (· < ·))
    (ha : a.name ∉ as.map (·.name)) : ((insertByName a as).map (·.name)).Pairwise (· < ·) := by
  rw [List.pairwise_map] at h ⊢
  induction as with
  | nil => simp [insertByName]
  | cons b as ih =>
    rw [List.pairwise_cons] at h
    rw [List.map_cons, List.mem_cons, not_or] at ha
    unfold insertByName
    split
    · rename_i hab
      rw [List.pairwise_cons, List.pairwise_cons]
      refine ⟨?_, h.1, h.2⟩
      intro x hx
      rcases List.mem_cons.1 hx with rfl | hx
      · exact hab
      · exact String.lt_trans hab (h.1 x hx)
    · rename_i hab
      have hba : b.name < a.name :=
        String.not_le.1 fun hle => ha.1 (String.le_antisymm hle (String.not_lt.1 hab))
      rw [List.pairwise_cons]
      refine ⟨?_, ih h.2 ha.2⟩
      intro x hx
      rcases mem_insertByName.1 hx with rfl | hx
      · exact hba
      · exact h.1 x hx

private theorem ordered_empty : empty.Ordered := List.Pairwise.nil

theorem Ordered.attempt {r : Registry} (h : r.Ordered) (call : String × Option Offer) : (r.attempt call).2.Ordered := by
  rcases r.attempt_cases call with ⟨_, e, he⟩ | ⟨a, hfree, hb, ha⟩
  · rw [he]
    exact h
  · rw [ha]
    exact pairwise_insertByName h (name_of_brought hb ▸ hfree)

theorem Ordered.attemptAll {r : Registry} (h : r.Ordered) (calls : List (String × Option Offer)) :
    (r.attemptAll calls).Ordered := by
  induction calls generalizing r with
  | nil => exact h
  | cons call calls ih => exact ih (h.attempt call)

private theorem Ordered.nodup {r : Registry} (h : r.Ordered) : r.names.Nodup := by
  refine h.imp ?_
  rintro s _ hlt rfl
  exact String.lt_irrefl s hlt

private theorem Ordered.find?_eq_some_iff {r : Registry} (h : r.Ordered) (a : Algorithm) :
    r.find? a.name = some a ↔ a ∈ r.algorithms := by
  constructor
  · exact List.mem_of_find?_eq_some
  · intro ha
    obtain ⟨b, hb⟩ := (r.mem_names_iff a.name).1 (List.mem_map.2 ⟨a, ha, rfl⟩)
    have hname : b.name = a.name := by simpa using List.find?_some hb
    have hba : b = a := List.inj_on_of_nodup_map h.nodup (List.mem_of_find?_eq_some hb) ha hname
    rw [hb, hba]

/-- A registry in order is settled by what is found in it. -/
theorem Ordered.ext {r r' : Registry} (h : r.Ordered) (h' : r'.Ordered) (hfind : ∀ name, r.find? name = r'.find? name) :
    r = r' := by
  have hperm : r.algorithms.Perm r'.algorithms := by
    rw [List.perm_ext_iff_of_nodup h.nodup.of_map h'.nodup.of_map]
    intro a
    rw [← h.find?_eq_some_iff, ← h'.find?_eq_some_iff, hfind]
  have hpair : ∀ {q : Registry}, q.Ordered → q.algorithms.Pairwise (fun a b => a.name < b.name) :=
    fun hq => List.pairwise_map.1 hq
  have heq : r.algorithms = r'.algorithms :=
    hperm.eq_of_pairwise (fun a b _ _ hab hba => absurd hba (String.lt_asymm hab)) (hpair h) (hpair h')
  cases r
  cases r'
  exact congrArg Registry.mk heq

/-! ### Registrations that are not refused -/

/-- Offers for different new names, all with computations, are all registered. -/
theorem registerAll_eq_ok {r : Registry} {offers : List (String × Option Offer)} (hnodup : (offers.map (·.1)).Nodup)
    (hbrings : ∀ call ∈ offers, Brings call.2) (hfree : ∀ call ∈ offers, call.1 ∉ r.names) :
    r.registerAll offers = .ok (r.attemptAll offers) := by
  induction offers generalizing r with
  | nil => rfl
  | cons call offers ih =>
    rw [List.map_cons, List.nodup_cons] at hnodup
    rw [List.forall_mem_cons] at hbrings hfree
    have hregister : r.register call.1 call.2 = .ok (r.attempt call).2 := by
      have haccepted : ¬ ∃ e, (r.attempt call).1 = .error e := by
        rw [attempt_eq_error_iff]
        rintro (htaken | hnone)
        · exact hfree.1 htaken
        · exact hnone hbrings.1
      unfold attempt at haccepted ⊢
      cases hr : r.register call.1 call.2 with
      | error e => exact absurd ⟨e, by rw [hr]⟩ haccepted
      | ok r' => rfl
    have hstillFree : ∀ other ∈ offers, other.1 ∉ (r.attempt call).2.names := by
      intro other hother htaken
      obtain ⟨a, ha⟩ := (mem_names_iff _ _).1 htaken
      have hne : call.1 ≠ other.1 := fun he => hnodup.1 (List.mem_map.2 ⟨other, hother, he.symm⟩)
      rw [find?_attempt, if_neg hne, Option.or_none] at ha
      exact hfree.2 other hother ((r.mem_names_iff _).2 ⟨a, ha⟩)
    have hcons : r.attemptAll (call :: offers) = (r.attempt call).2.attemptAll offers := rfl
    rw [hcons, registerAll]
    simp only [hregister]
    exact ih hnodup.2 hbrings.2 hstillFree

/-- With one offer for each name, what is brought first does not depend on the order. -/
private theorem firstBrought_perm {offers offers' : List (String × Option Offer)} (hperm : offers.Perm offers')
    (hnodup : (offers.map (·.1)).Nodup) (name : String) : firstBrought offers name = firstBrought offers' name := by
  have hmem : ∀ {calls : List (String × Option Offer)}, (calls.map (·.1)).Nodup → ∀ a,
      firstBrought calls name = some a ↔ ∃ offer, (name, offer) ∈ calls ∧ brought name offer = some a := by
    intro calls hcalls a
    rw [firstBrought_eq_some_iff]
    constructor
    · rintro ⟨before, offer, after, rfl, hb, _⟩
      exact ⟨offer, by simp, hb⟩
    · rintro ⟨offer, hoffer, hb⟩
      obtain ⟨before, after, rfl⟩ := List.append_of_mem hoffer
      refine ⟨before, offer, after, rfl, hb, fun call hcall hname => ?_⟩
      -- Another call for the name would be a second one.
      rw [List.map_append, List.map_cons] at hcalls
      exact absurd hname ((List.nodup_append.1 hcalls).2.2 _ (List.mem_map_of_mem hcall) _ (by simp))
  have hnodup' : (offers'.map (·.1)).Nodup := (hperm.map (·.1)).nodup_iff.1 hnodup
  ext a
  simp only [hmem hnodup, hmem hnodup', hperm.mem_iff]

/-- In every order, different names with computations make the same registry. -/
theorem registerAll_perm {offers offers' : List (String × Option Offer)} (hperm : offers.Perm offers')
    (hnodup : (offers.map (·.1)).Nodup) (hbrings : ∀ call ∈ offers, Brings call.2) :
    ∃ r, empty.registerAll offers = .ok r ∧ empty.registerAll offers' = .ok r := by
  have hnodup' : (offers'.map (·.1)).Nodup := (hperm.map (·.1)).nodup_iff.1 hnodup
  have hbrings' : ∀ call ∈ offers', Brings call.2 := fun call hcall => hbrings call (hperm.mem_iff.2 hcall)
  have hfree : ∀ name, name ∉ empty.names := by simp [empty, names]
  refine ⟨_, registerAll_eq_ok hnodup hbrings fun call _ => hfree call.1, ?_⟩
  have hsame : empty.attemptAll offers = empty.attemptAll offers' := by
    refine (ordered_empty.attemptAll offers).ext (ordered_empty.attemptAll offers') fun name => ?_
    rw [find?_empty_attemptAll, find?_empty_attemptAll, firstBrought_perm hperm hnodup]
  rw [hsame]
  exact registerAll_eq_ok hnodup' hbrings' fun call _ => hfree call.1

/-- After any attempts, refused ones among them: the names increase byte by byte and are those of the attempts that were
not refused; what is looked up under a name is there exactly when the name is, and comes from the first attempt that
brought a computation for it.  An attempt is refused when its name is taken or it brings no computation, and then changes
nothing.  Different names with computations make the same registry in every order. -/
theorem attemptAll_history (calls : List (String × Option Offer)) :
    let r := empty.attemptAll calls
    r.names.Pairwise (fun s t => Text.bytes s < Text.bytes t) ∧
    (∀ name, name ∈ r.names ↔ ∃ before offer after, calls = before ++ (name, offer) :: after ∧
      ((empty.attemptAll before).attempt (name, offer)).1 = .ok ()) ∧
    (∀ name, (∃ a, r.lookup name = .ok a) ↔ name ∈ r.names) ∧
    (∀ name a, r.lookup name = .ok a → a.name = name ∧ ∃ before o after, calls = before ++ (name, some o) :: after ∧
      o.computation = some a.computation ∧ o.description = a.description ∧
      ∀ call ∈ before, call.1 = name → ¬ Brings call.2) ∧
    (∀ name offer, (∃ e, (r.attempt (name, offer)).1 = .error e) ↔ name ∈ r.names ∨ ¬ Brings offer) ∧
    (∀ name offer e, (r.attempt (name, offer)).1 = .error e → (r.attempt (name, offer)).2 = r) ∧
    ∀ offers offers' : List (String × Option Offer), (offers.map (·.1)).Nodup → (∀ call ∈ offers, Brings call.2) →
      offers.Perm offers' → ∃ r', empty.registerAll offers = .ok r' ∧ empty.registerAll offers' = .ok r' := by
  intro r
  refine ⟨?_, ?_, ?_, ?_, ?_, ?_, ?_⟩
  · exact (ordered_empty.attemptAll calls).imp Text.bytes_lt_of_lt
  · intro name
    rw [mem_names_attemptAll]
    simp [empty, names]
  · intro name
    simp only [mem_names_iff, lookup_eq_ok_iff]
  · intro name a ha
    rw [lookup_eq_ok_iff, find?_empty_attemptAll, firstBrought_eq_some_iff] at ha
    obtain ⟨before, offer, after, hcalls, hb, hbefore⟩ := ha
    obtain ⟨o, c, rfl, hc, rfl⟩ := brought_eq_some_iff.1 hb
    exact ⟨rfl, before, o, after, hcalls, hc, rfl, hbefore⟩
  · intro name offer
    exact r.attempt_eq_error_iff (name, offer)
  · intro name offer e he
    rcases r.attempt_cases (name, offer) with ⟨_, e', hr⟩ | ⟨a, _, _, hr⟩
    · rw [hr]
    · rw [hr] at he
      cases he
  · intro offers offers' hnodup hbrings hperm
    exact registerAll_perm hperm hnodup hbrings

/-- Two offers without a computation, the one that counts, one too late, and one for a smaller name. -/
theorem attemptAll_history_second :
    let offer (description : String) (answer : UInt64) : Option Offer :=
      some ⟨description, some (.ofFunction fun _ => answer)⟩
    let calls := [("b", none), ("b", some ⟨"hollow", none⟩), ("b", offer "second" 2), ("b", offer "third" 3),
      ("a", offer "last" 1)]
    let r := empty.attemptAll calls
    r.names = ["a", "b"] ∧ r.names.Pairwise (fun s t => Text.bytes s < Text.bytes t) ∧
    r.lookup "b" = .ok ⟨"b", "second", .ofFunction fun _ => 2⟩ ∧
    (∃ before o after, calls = before ++ ("b", some o) :: after ∧ o.description = "second" ∧
      ∀ call ∈ before, call.1 = "b" → ¬ Brings call.2) ∧
    (∃ e, (r.attempt ("a", offer "again" 4)).1 = .error e) ∧ (r.attempt ("a", offer "again" 4)).2 = r ∧
    ∃ r', empty.registerAll [("b", offer "second" 2), ("a", offer "last" 1)] = .ok r' ∧
      empty.registerAll [("a", offer "last" 1), ("b", offer "second" 2)] = .ok r' := by
  intro offer calls r
  obtain ⟨hnames, _, _, hlookup, hrefused, hkept, horder⟩ := attemptAll_history calls
  have hb : r.lookup "b" = .ok ⟨"b", "second", .ofFunction fun _ => 2⟩ := by
    rw [lookup_eq_ok_iff, find?_empty_attemptAll]
    simp [firstBrought, brought, calls, offer]
  obtain ⟨_, before, o, after, hcalls, _, hdescription, hbefore⟩ := hlookup "b" _ hb
  have htaken : ∃ e, (r.attempt ("a", offer "again" 4)).1 = .error e := (hrefused "a" _).2 (.inl (by decide +kernel))
  obtain ⟨e, he⟩ := htaken
  refine ⟨by decide +kernel, hnames, hb, ⟨before, o, after, hcalls, hdescription, hbefore⟩, ⟨e, he⟩, hkept _ _ e he, ?_⟩
  refine horder _ _ (by decide) ?_ (.swap ..)
  intro call hcall
  rcases List.mem_pair.1 hcall with rfl | rfl <;> exact ⟨_, _, rfl, rfl⟩

end FibTiming.Registry
