import FibTiming.Rehearsal
import Mathlib.Data.List.Forall2

/-!
# Jobs

A run of a benchmark on any rig is a sequence of requests to the rig.  A `Job` has these requests as data, so that
several of them can be carried out in turns.  On every rig the benchmark does what its job asks for
(`Job.perform_runOn`), and what all its results have in common can be read off the job (`Job.Yields`).
-/

namespace FibTiming

/-- A computation as its requests, each with what follows on every reply. -/
inductive Job (α : Type) where
  | done (a : α)
  | now (k : ClockKind) (next : Except String Int64 → Job α)
  | call (a : Algorithm) (n : Int) (next : UInt64 → Job α)
  | cancelled (next : Bool → Job α)
  | log (r : Log.Record) (next : Job α)

/-- One round of the repetitions: a look at the signal to stop, except before the first call, and a measured call. -/
theorem repeatCalls_succ {m : Type → Type} [Monad m] (rig : Rig m) (clock : ClockKind) (a : Algorithm) (n : Int)
    (left : Nat) (t : Trial) :
    repeatCalls rig clock a n (left + 1) t =
      (if t.result.runs > 0 then rig.cancelled else pure false) >>= fun stop =>
        if stop then pure t.interrupt
        else measure (rig.now clock) (rig.call a n) >>= fun
          | .error cause => pure (t.abort cause)
          | .ok (elapsed, got) => repeatCalls rig clock a n left (t.record elapsed got) := by
  rw [repeatCalls]
  split <;> rfl

namespace Job

variable {α β : Type}

/-- The job that goes on with what a job ends with. -/
def bind : Job α → (α → Job β) → Job β
  | done a, f => f a
  | now k next, f => .now k fun x => (next x).bind f
  | call a n next, f => .call a n fun x => (next x).bind f
  | cancelled next, f => .cancelled fun c => (next c).bind f
  | log r next, f => .log r (next.bind f)

instance : Monad Job where
  pure := done
  bind := bind

/-- The rig of which every operation is a request. -/
def rig : Rig Job where
  now k := .now k done
  call a n := .call a n done
  cancelled := .cancelled done
  log r := .log r (done ())
  gather _ jobs := inOrder jobs

section Perform

variable {m : Type → Type} [Monad m]

/-- Lets a rig reply to the next request. -/
def step (rig : Rig m) : Job α → m (Job α)
  | done a => pure (done a)
  | now k next => do return next (← rig.now k)
  | call a n next => do return next (← rig.call a n)
  | cancelled next => do return next (← rig.cancelled)
  | log r next => do
    rig.log r
    return next

/-- Carries a job out on a rig. -/
def perform (rig : Rig m) : Job α → m α
  | done a => pure a
  | now k next => do (next (← rig.now k)).perform rig
  | call a n next => do (next (← rig.call a n)).perform rig
  | cancelled next => do (next (← rig.cancelled)).perform rig
  | log r next => do
    rig.log r
    next.perform rig

@[simp] theorem perform_pure (rig : Rig m) (a : α) : (pure a : Job α).perform rig = pure a := rfl

variable [LawfulMonad m]

@[simp] theorem perform_bind (rig : Rig m) (j : Job α) (f : α → Job β) :
    (j >>= f).perform rig = j.perform rig >>= fun a => (f a).perform rig := by
  show (j.bind f).perform rig = _
  induction j with
  | done a => simp [bind, perform]
  | now k next ih => simp [bind, perform, ih]
  | call a n next ih => simp [bind, perform, ih]
  | cancelled next ih => simp [bind, perform, ih]
  | log r next ih => simp [bind, perform, ih]

/-! ### Benchmarks as jobs -/

@[simp] theorem perform_rig_now (rig : Rig m) (k : ClockKind) : (Job.rig.now k).perform rig = rig.now k := by
  simp [Job.rig, perform]

@[simp] theorem perform_rig_call (rig : Rig m) (a : Algorithm) (n : Int) :
    (Job.rig.call a n).perform rig = rig.call a n := by
  simp [Job.rig, perform]

@[simp] theorem perform_rig_cancelled (rig : Rig m) : Job.rig.cancelled.perform rig = rig.cancelled := by
  simp [Job.rig, perform]

@[simp] theorem perform_rig_log (rig : Rig m) (r : Log.Record) : (Job.rig.log r).perform rig = rig.log r := by
  simp [Job.rig, perform]

private theorem perform_measure {ε : Type} (rig : Rig m) (now : Job (Except ε Int64)) (work : Job α) :
    (measure now work).perform rig = measure (now.perform rig) (work.perform rig) := by
  unfold measure
  rw [perform_bind]
  congr 1
  funext x
  cases x with
  | error e => rfl
  | ok start =>
    simp only [perform_bind]
    congr 1
    funext a
    congr 1
    funext y
    cases y <;> rfl

theorem perform_repeatCalls (rig : Rig m) (clock : ClockKind) (a : Algorithm) (n : Int) (left : Nat) (t : Trial) :
    (repeatCalls Job.rig clock a n left t).perform rig = repeatCalls rig clock a n left t := by
  induction left generalizing t with
  | zero => rfl
  | succ left ih =>
    -- Both sides are the same round; what differs is only where its requests go.
    rw [repeatCalls_succ, repeatCalls_succ, perform_bind]
    have hstop : (if t.result.runs > 0 then Job.rig.cancelled else pure false).perform rig =
        if t.result.runs > 0 then rig.cancelled else pure false := by
      split
      · exact perform_rig_cancelled rig
      · rfl
    rw [hstop]
    congr 1
    funext stop
    split
    · rfl
    · rw [perform_bind, perform_measure, perform_rig_now, perform_rig_call]
      congr 1
      funext x
      cases x with
      | error cause => rfl
      | ok p => exact ih (t.record p.1 p.2)

/-- On every rig a benchmark does what its job asks for. -/
theorem perform_runOn (rig : Rig m) (r : Runner) (b : Benchmark) (clock : String) :
    (r.runOn Job.rig b clock).perform rig = r.runOn rig b clock := by
  unfold Runner.runOn
  rw [perform_bind, perform_rig_cancelled]
  congr 1
  funext stop
  split
  · rw [perform_bind, perform_rig_log]
    rfl
  · split
    · rfl
    · rw [perform_bind, perform_rig_log]
      congr 1
      funext _
      rw [perform_bind, perform_repeatCalls]
      congr 1
      funext t
      split
      · rfl
      · rw [perform_bind, perform_rig_log]
        rfl

end Perform

end Job

/-! ### What jobs come to -/

/-- The algorithms that may be called, and the replies that requests can get. -/
structure Replies where
  callable : Algorithm → Prop
  now : ClockKind → Except String Int64 → Prop
  call : Algorithm → Int → UInt64 → Prop
  cancelled : Bool → Prop

/-- All algorithms may be called, and requests can get any reply. -/
def Replies.any : Replies := ⟨fun _ => True, fun _ _ => True, fun _ _ _ => True, fun _ => True⟩

namespace Job

variable {α β : Type} {R : Replies}

/-- The job calls only algorithms that may be called, and what it ends with has a property, whatever the replies. -/
def Yields (R : Replies) (P : α → Prop) : Job α → Prop
  | done a => P a
  | now k next => ∀ x, R.now k x → (next x).Yields R P
  | call a n next => R.callable a ∧ ∀ x, R.call a n x → (next x).Yields R P
  | cancelled next => ∀ c, R.cancelled c → (next c).Yields R P
  | log _ next => next.Yields R P

theorem Yields.mono {P Q : α → Prop} (hPQ : ∀ a, P a → Q a) {j : Job α} (h : j.Yields R P) : j.Yields R Q := by
  induction j with
  | done a => exact hPQ a h
  | now k next ih => exact fun x hx => ih x (h x hx)
  | call a n next ih => exact ⟨h.1, fun x hx => ih x (h.2 x hx)⟩
  | cancelled next ih => exact fun c hc => ih c (h c hc)
  | log r next ih => exact ih h

theorem Yields.bind {P : α → Prop} {Q : β → Prop} {j : Job α} {f : α → Job β} (h : j.Yields R P)
    (hf : ∀ a, P a → (f a).Yields R Q) : (j >>= f).Yields R Q := by
  show (j.bind f).Yields R Q
  induction j with
  | done a => exact hf a h
  | now k next ih => exact fun x hx => ih x (h x hx)
  | call a n next ih => exact ⟨h.1, fun x hx => ih x (h.2 x hx)⟩
  | cancelled next ih => exact fun c hc => ih c (h c hc)
  | log r next ih => exact ih h

theorem yields_any (j : Job α) : j.Yields .any fun _ => True := by
  induction j with
  | done a => trivial
  | now k next ih => exact fun x _ => ih x
  | call a n next ih => exact ⟨trivial, fun x _ => ih x⟩
  | cancelled next ih => exact fun c _ => ih c
  | log r next ih => exact ih

end Job

/-- The rig gives such replies only, and an invariant of its states stays true. -/
structure Rig.Keeps {σ : Type} (rig : Rig (StateM σ)) (R : Replies) (I : σ → Prop) : Prop where
  now : ∀ k s, I s → R.now k (rig.now k s).1 ∧ I (rig.now k s).2
  call : ∀ a n s, R.callable a → I s → R.call a n (rig.call a n s).1 ∧ I (rig.call a n s).2
  cancelled : ∀ s, I s → R.cancelled (rig.cancelled s).1 ∧ I (rig.cancelled s).2
  log : ∀ r s, I s → I (rig.log r s).2

namespace Job

variable {σ α : Type} {R : Replies} {I : σ → Prop} {rig : Rig (StateM σ)} {P : α → Prop}

/-- A reply leaves the rest of a job with the same property. -/
theorem Yields.step (hr : rig.Keeps R I) {j : Job α} (h : j.Yields R P) {s : σ} (hs : I s) :
    (j.step rig s).1.Yields R P ∧ I (j.step rig s).2 := by
  cases j with
  | done a => exact ⟨h, hs⟩
  | now k next => exact ⟨h _ (hr.now k s hs).1, (hr.now k s hs).2⟩
  | call a n next => exact ⟨h.2 _ (hr.call a n s h.1 hs).1, (hr.call a n s h.1 hs).2⟩
  | cancelled next => exact ⟨h _ (hr.cancelled s hs).1, (hr.cancelled s hs).2⟩
  | log r next => exact ⟨h, hr.log r s hs⟩

/-- A job that is carried out ends with a value of the property. -/
theorem Yields.perform (hr : rig.Keeps R I) {j : Job α} (h : j.Yields R P) {s : σ} (hs : I s) :
    P (j.perform rig s).1 ∧ I (j.perform rig s).2 := by
  induction j generalizing s with
  | done a => exact ⟨h, hs⟩
  | now k next ih => exact ih _ (h _ (hr.now k s hs).1) (hr.now k s hs).2
  | call a n next ih => exact ih _ (h.2 _ (hr.call a n s h.1 hs).1) (hr.call a n s h.1 hs).2
  | cancelled next ih => exact ih _ (h _ (hr.cancelled s hs).1) (hr.cancelled s hs).2
  | log r next ih => exact ih h (hr.log r s hs)

@[simp] theorem inOrder_nil (s : σ) : inOrder ([] : List (StateM σ α)) s = ([], s) := rfl

@[simp] theorem inOrder_cons (act : StateM σ α) (acts : List (StateM σ α)) (s : σ) :
    inOrder (act :: acts) s = ((act s).1 :: (inOrder acts (act s).2).1, (inOrder acts (act s).2).2) := rfl

/-- Jobs carried out in order end with values of their properties. -/
theorem inOrder_forall₂ {ι : Type} {Q : ι → α → Prop} (hr : rig.Keeps R I) (f : ι → StateM σ α) (job : ι → Job α)
    (hf : ∀ i, f i = (job i).perform rig) {is : List ι} (h : ∀ i ∈ is, (job i).Yields R (Q i)) {s : σ} (hs : I s) :
    List.Forall₂ Q is (inOrder (is.map f) s).1 ∧ I (inOrder (is.map f) s).2 := by
  induction is generalizing s with
  | nil => exact ⟨.nil, hs⟩
  | cons i is ih =>
    have hi := Yields.perform hr (h i (by simp)) hs
    rw [← hf i] at hi
    have hrest := ih (fun k hk => h k (by simp [hk])) hi.2
    exact ⟨.cons hi.1 hrest.1, hrest.2⟩

end Job

/-- On related states two rigs give the same replies, and leave related states behind. -/
structure Rig.Agree {σ : Type} (rig rig' : Rig (StateM σ)) (E : σ → σ → Prop) : Prop where
  now : ∀ k s s', E s s' → (rig.now k s).1 = (rig'.now k s').1 ∧ E (rig.now k s).2 (rig'.now k s').2
  call : ∀ a n s s', E s s' → (rig.call a n s).1 = (rig'.call a n s').1 ∧ E (rig.call a n s).2 (rig'.call a n s').2
  cancelled : ∀ s s', E s s' →
    (rig.cancelled s).1 = (rig'.cancelled s').1 ∧ E (rig.cancelled s).2 (rig'.cancelled s').2
  log : ∀ r s s', E s s' → E (rig.log r s).2 (rig'.log r s').2

namespace Job

variable {σ α : Type} {E : σ → σ → Prop} {rig rig' : Rig (StateM σ)}

/-- On such rigs a job ends with the same value. -/
private theorem perform_agree (h : rig.Agree rig' E) (j : Job α) {s s' : σ} (hs : E s s') :
    (j.perform rig s).1 = (j.perform rig' s').1 ∧ E (j.perform rig s).2 (j.perform rig' s').2 := by
  induction j generalizing s s' with
  | done a => exact ⟨rfl, hs⟩
  | now k next ih =>
    obtain ⟨hreply, hs'⟩ := h.now k s s' hs
    show ((next (rig.now k s).1).perform rig _).1 = _ ∧ E ((next (rig.now k s).1).perform rig _).2 _
    rw [hreply]
    exact ih _ hs'
  | call a n next ih =>
    obtain ⟨hreply, hs'⟩ := h.call a n s s' hs
    show ((next (rig.call a n s).1).perform rig _).1 = _ ∧ E ((next (rig.call a n s).1).perform rig _).2 _
    rw [hreply]
    exact ih _ hs'
  | cancelled next ih =>
    obtain ⟨hreply, hs'⟩ := h.cancelled s s' hs
    show ((next (rig.cancelled s).1).perform rig _).1 = _ ∧ E ((next (rig.cancelled s).1).perform rig _).2 _
    rw [hreply]
    exact ih _ hs'
  | log r next ih => exact ih (h.log r s s' hs)

theorem inOrder_agree {ι : Type} (h : rig.Agree rig' E) (f f' : ι → StateM σ α) (job : ι → Job α)
    (hf : ∀ i, f i = (job i).perform rig) (hf' : ∀ i, f' i = (job i).perform rig') (is : List ι) {s s' : σ}
    (hs : E s s') :
    (inOrder (is.map f) s).1 = (inOrder (is.map f') s').1 ∧ E (inOrder (is.map f) s).2 (inOrder (is.map f') s').2 := by
  induction is generalizing s s' with
  | nil => exact ⟨rfl, hs⟩
  | cons i is ih =>
    have hi := perform_agree h (job i) hs
    rw [← hf i, ← hf' i] at hi
    have hrest := ih hi.2
    simp only [List.map_cons, inOrder_cons]
    exact ⟨by rw [hi.1, hrest.1], hrest.2⟩

end Job

end FibTiming
