import FibTiming.Proofs.Job
import Mathlib.Data.List.Perm.Basic
import Mathlib.Logic.Relation

/-!
# Workers that share a list of jobs

At most a given number of workers carry out the jobs of a list.  A free worker takes the next job, the requests of
the jobs at hand are replied to in any order, and a worker stores the result of its job at the job's place.  The run
can be told to stop between any two steps.  When nothing is left to do, every place has been written once
(`Pool.Placed.written_once`) and holds what its job yields (`Pool.Reaches.results`).  Carrying the jobs out one
after the other is one of the possible orders (`Pool.reaches_inOrder`); what a pool can come to is what some schedule
leads to (`Pool.reaches_iff_follow`).
-/

namespace FibTiming

/-- The state of the workers of a run. -/
structure Pool where
  stage : Stage
  /-- The jobs that workers are at, with their places. -/
  active : List (Job Result × Nat)
  /-- The jobs that no worker has taken yet, with their places. -/
  waiting : List (Job Result × Nat)
  /-- The results that have been stored, by place. -/
  slots : List (Option Result)
  /-- The places in the order in which they were written. -/
  writes : List Nat

namespace Pool

/-- The pool before any worker has taken a job. -/
def start (s : Stage) (jobs : List (Job Result)) : Pool :=
  ⟨s, [], jobs.zipIdx, List.replicate jobs.length none, []⟩

/-- One step of a pool with at most the given number of workers. -/
inductive Step (rig : Rig (StateM Stage)) (workers : Nat) : Pool → Pool → Prop
  /-- A free worker takes the next job. -/
  | take {s active job waiting slots writes} (h : active.length < workers) :
    Step rig workers ⟨s, active, job :: waiting, slots, writes⟩ ⟨s, active ++ [job], waiting, slots, writes⟩
  /-- A worker gets the reply to its next request. -/
  | work {s before job i after waiting slots writes} (h : ∀ r, job ≠ .done r) :
    Step rig workers ⟨s, before ++ (job, i) :: after, waiting, slots, writes⟩
      ⟨(job.step rig s).2, before ++ ((job.step rig s).1, i) :: after, waiting, slots, writes⟩
  /-- A worker stores the result of its job. -/
  | store {s before r i after waiting slots writes} :
    Step rig workers ⟨s, before ++ (.done r, i) :: after, waiting, slots, writes⟩
      ⟨s, before ++ after, waiting, slots.set i (some r), writes ++ [i]⟩
  /-- The run is told to stop. -/
  | cancel {s active waiting slots writes} :
    Step rig workers ⟨s, active, waiting, slots, writes⟩ ⟨{ s with cancelled := true }, active, waiting, slots, writes⟩

/-- The pool can get from one state to another. -/
def Reaches (rig : Rig (StateM Stage)) (workers : Nat) : Pool → Pool → Prop :=
  Relation.ReflTransGen (Step rig workers)

/-- Nothing is left to do, so the run returns. -/
def Finished (p : Pool) : Prop := p.active = [] ∧ p.waiting = []

variable {rig : Rig (StateM Stage)} {workers : Nat}

/-! ### Places -/

/-- Every place below `n` has been written, or a worker is at its job, or its job waits; and only one of these. -/
structure Placed (n : Nat) (p : Pool) : Prop where
  perm : (p.writes ++ (p.active.map (·.2) ++ p.waiting.map (·.2))).Perm (List.range n)
  length : p.slots.length = n

theorem placed_start (s : Stage) (jobs : List (Job Result)) : (start s jobs).Placed jobs.length := by
  constructor
  · simp [start, List.zipIdx_map_snd, List.range_eq_range']
  · simp [start]

private theorem Step.placed {n : Nat} {p q : Pool} (h : Step rig workers p q) (hp : p.Placed n) : q.Placed n := by
  obtain ⟨hperm, hlen⟩ := hp
  cases h with
  | take h => exact ⟨by simpa using hperm, hlen⟩
  | work h => exact ⟨by simpa using hperm, hlen⟩
  | store =>
    -- The place moves from the jobs at hand to the end of the writes.
    refine ⟨?_, by simpa using hlen⟩
    refine List.Perm.trans ?_ hperm
    simp only [List.map_append, List.map_cons, List.append_assoc, List.cons_append, List.nil_append]
    exact List.Perm.append_left _ List.perm_middle.symm
  | cancel => exact ⟨hperm, hlen⟩

theorem Reaches.placed {n : Nat} {p q : Pool} (h : Reaches rig workers p q) (hp : p.Placed n) : q.Placed n := by
  induction h with
  | refl => exact hp
  | tail _ hstep ih => exact hstep.placed ih

/-- When the run returns, every place has been written once. -/
theorem Placed.written_once {n : Nat} {p : Pool} (hp : p.Placed n) (hf : p.Finished) :
    p.writes.Perm (List.range n) := by
  have := hp.perm
  rw [hf.1, hf.2] at this
  simpa using this

/-! ### Results -/

/-- As long as the stage has a property, the jobs at hand and those that wait yield what their places are for, and so
do the results that have been stored. -/
structure Holds (R : Replies) (I : Stage → Prop) (P : Nat → Result → Prop) (p : Pool) : Prop where
  active : I p.stage → ∀ x ∈ p.active, x.1.Yields R (P x.2)
  waiting : I p.stage → ∀ x ∈ p.waiting, x.1.Yields R (P x.2)
  slots : I p.stage → ∀ i ∈ p.writes, i < p.slots.length → ∃ r, p.slots[i]? = some (some r) ∧ P i r

variable {R : Replies} {I : Stage → Prop} {P : Nat → Result → Prop}

private theorem holds_start {s : Stage} {jobs : List (Job Result)}
    (h : ∀ (i : Nat) (job : Job Result), jobs[i]? = some job → job.Yields R (P i)) : (start s jobs).Holds R I P := by
  refine ⟨fun _ x hx => by simp [start] at hx, fun _ x hx => ?_, fun _ i hi => by simp [start] at hi⟩
  exact h x.2 x.1 (List.mem_zipIdx_iff_getElem?.1 hx)

/-- The property of the stage is kept by replies and never comes back once it is lost. -/
structure Lasting (rig : Rig (StateM Stage)) (R : Replies) (I : Stage → Prop) : Prop where
  keeps : rig.Keeps R I
  before_step : ∀ (j : Job Result) s, I (j.step rig s).2 → I s
  before_cancel : ∀ s : Stage, I { s with cancelled := true } → I s

theorem lasting_true (rig : Rig (StateM Stage)) : Lasting rig .any fun _ => True where
  keeps :=
    { now := fun _ _ _ => ⟨trivial, trivial⟩
      call := fun _ _ _ _ _ => ⟨trivial, trivial⟩
      cancelled := fun _ _ => ⟨trivial, trivial⟩
      log := fun _ _ _ => trivial }
  before_step _ _ _ := trivial
  before_cancel _ _ := trivial

theorem Step.holds (hI : Lasting rig R I) {p q : Pool} (h : Step rig workers p q) (hp : p.Holds R I P) :
    q.Holds R I P := by
  obtain ⟨hactive, hwaiting, hslots⟩ := hp
  cases h with
  | take h =>
    refine ⟨fun hs x hx => ?_, fun hs x hx => hwaiting hs x (by simp [hx]), hslots⟩
    rcases List.mem_append.1 hx with hx | hx
    · exact hactive hs x hx
    · exact hwaiting hs x (by simpa using Or.inl (List.mem_singleton.1 hx))
  | @work s before job i after waiting slots writes h =>
    -- The property held before the reply too, so what was known of the other jobs stays known.
    refine ⟨fun hs x hx => ?_, fun hs => hwaiting (hI.before_step _ _ hs), fun hs => hslots (hI.before_step _ _ hs)⟩
    have hs' := hI.before_step _ _ hs
    rcases List.mem_append.1 hx with hx | hx
    · exact hactive hs' x (by simp [hx])
    · rcases List.mem_cons.1 hx with rfl | hx
      · exact (Job.Yields.step hI.keeps (hactive hs' (job, i) (by simp)) hs').1
      · exact hactive hs' x (by simp [hx])
  | @store s before r i after waiting slots writes =>
    refine ⟨fun hs x hx => hactive hs x ?_, hwaiting, fun hs k hk hlt => ?_⟩
    · rcases List.mem_append.1 hx with hx | hx <;> simp [hx]
    · have hr : P i r := hactive hs (.done r, i) (by simp)
      rw [List.length_set] at hlt
      by_cases hki : i = k
      · subst hki
        exact ⟨r, List.getElem?_set_self hlt, hr⟩
      · rw [List.getElem?_set_ne hki]
        rcases List.mem_append.1 hk with hk | hk
        · exact hslots hs k hk hlt
        · exact absurd (List.mem_singleton.1 hk).symm hki
  | cancel =>
    exact ⟨fun hs => hactive (hI.before_cancel _ hs), fun hs => hwaiting (hI.before_cancel _ hs),
      fun hs => hslots (hI.before_cancel _ hs)⟩

theorem Reaches.holds (hI : Lasting rig R I) {p q : Pool} (h : Reaches rig workers p q) (hp : p.Holds R I P) :
    q.Holds R I P := by
  induction h with
  | refl => exact hp
  | tail _ hstep ih => exact hstep.holds hI ih

/-- When the run returns and the property of the stage has lasted, every place holds what its job yields. -/
theorem Reaches.results {ι : Type} {is : List ι} {job : ι → Job Result} {Q : ι → Result → Prop}
    (hI : Lasting rig R I) (hjob : ∀ i ∈ is, (job i).Yields R (Q i)) {s : Stage} {p : Pool}
    (h : Reaches rig workers (start s (is.map job)) p) (hf : p.Finished) (hs : I p.stage) :
    List.Forall₂ (fun i slot => ∃ r, slot = some r ∧ Q i r) is p.slots := by
  have hplaced := h.placed (placed_start s (is.map job))
  have hlen : p.slots.length = is.length := by rw [hplaced.length, List.length_map]
  have hholds : p.Holds R I fun k r => ∀ i, is[k]? = some i → Q i r := by
    apply h.holds hI
    apply holds_start
    intro k j hj
    rw [List.getElem?_map, Option.map_eq_some_iff] at hj
    obtain ⟨i, hi, rfl⟩ := hj
    apply (hjob i (List.mem_of_getElem? hi)).mono
    intro r hr i' hi'
    rw [hi, Option.some.injEq] at hi'
    exact hi' ▸ hr
  rw [List.forall₂_iff_get]
  refine ⟨hlen.symm, fun k hk hk' => ?_⟩
  have hw : k ∈ p.writes := by
    rw [(hplaced.written_once hf).mem_iff]
    simpa using hk
  obtain ⟨r, hr, hQ⟩ := hholds.slots hs k hw hk'
  rw [List.getElem?_eq_getElem hk', Option.some.injEq] at hr
  exact ⟨r, hr, hQ _ (List.getElem?_eq_getElem hk)⟩

/-! ### The stage -/

/-- An invariant that no reply and no signal to stop breaks. -/
theorem Step.keeps (hr : rig.Keeps .any I) (hcancel : ∀ s : Stage, I s → I { s with cancelled := true }) {p q : Pool}
    (h : Step rig workers p q) (hp : I p.stage) : I q.stage := by
  cases h with
  | take h => exact hp
  | work h => exact ((Job.yields_any _).step hr hp).2
  | store => exact hp
  | cancel => exact hcancel _ hp

theorem Reaches.keeps (hr : rig.Keeps .any I) (hcancel : ∀ s : Stage, I s → I { s with cancelled := true }) {p q : Pool}
    (h : Reaches rig workers p q) (hp : I p.stage) : I q.stage := by
  induction h with
  | refl => exact hp
  | tail _ hstep ih => exact hstep.keeps hr hcancel ih

/-! ### One job after the other -/

private theorem step_alone {job : Job Result} (h : ∀ r, job ≠ .done r) (i : Nat) (s : Stage)
    (waiting : List (Job Result × Nat)) (slots : List (Option Result)) (writes : List Nat) :
    Step rig workers ⟨s, [(job, i)], waiting, slots, writes⟩
      ⟨(job.step rig s).2, [((job.step rig s).1, i)], waiting, slots, writes⟩ :=
  @Step.work rig workers s [] job i [] waiting slots writes h

/-- A worker that is left alone gets to the end of its job. -/
theorem reaches_done (job : Job Result) (i : Nat) (s : Stage) (waiting : List (Job Result × Nat))
    (slots : List (Option Result)) (writes : List Nat) :
    Reaches rig workers ⟨s, [(job, i)], waiting, slots, writes⟩
      ⟨(job.perform rig s).2, [(.done (job.perform rig s).1, i)], waiting, slots, writes⟩ := by
  induction job generalizing s with
  | done r => exact .refl
  | now k next ih => exact .head (step_alone (by simp) ..) (ih _ _)
  | call a n next ih => exact .head (step_alone (by simp) ..) (ih _ _)
  | cancelled next ih => exact .head (step_alone (by simp) ..) (ih _ _)
  | log r next ih => exact .head (step_alone (by simp) ..) (ih _)

private theorem reaches_inOrder_from (hw : 0 < workers) (jobs : List (Job Result)) (s : Stage)
    (stored : List (Option Result)) (writes : List Nat) :
    Reaches rig workers ⟨s, [], jobs.zipIdx stored.length, stored ++ List.replicate jobs.length none, writes⟩
      ⟨(inOrder (jobs.map (Job.perform rig)) s).2, [], [],
        stored ++ (inOrder (jobs.map (Job.perform rig)) s).1.map some,
        writes ++ List.range' stored.length jobs.length⟩ := by
  induction jobs generalizing s stored writes with
  | nil =>
    simp only [List.zipIdx_nil, List.length_nil, List.replicate_zero, List.append_nil, List.map_nil, Job.inOrder_nil,
      List.range'_zero]
    exact .refl
  | cons job jobs ih =>
    -- One worker takes the job, gets to its end and stores the result.
    refine .head (.take hw) (.trans (reaches_done job _ s _ _ _) (.head (@Step.store rig workers _ [] _ _ [] _ _ _) ?_))
    have := ih (job.perform rig s).2 (stored ++ [some (job.perform rig s).1]) (writes ++ [stored.length])
    simpa [List.replicate_succ, List.range'_succ, Reaches] using this

/-- Carrying the jobs out in order is one way for a pool to finish. -/
theorem reaches_inOrder (hw : 0 < workers) (jobs : List (Job Result)) (s : Stage) :
    Reaches rig workers (start s jobs) ⟨(inOrder (jobs.map (Job.perform rig)) s).2, [], [],
      (inOrder (jobs.map (Job.perform rig)) s).1.map some, List.range jobs.length⟩ := by
  simpa [start, List.range_eq_range'] using reaches_inOrder_from hw jobs s [] []

/-! ### Schedules -/

/-- What happens next: the worker at a place gets on or, where no worker is, a free one takes the next job; or the run is
told to stop. -/
inductive Move where
  | worker (k : Nat)
  | cancel
deriving Repr, DecidableEq

/-- The schedule of two workers that take turns. -/
def turns (count : Nat) : List Move := (List.range count).map fun i => .worker (i % 2)

/-- The pool after a move.  A move that cannot be made changes nothing. -/
def next (rig : Rig (StateM Stage)) (workers : Nat) (p : Pool) : Move → Pool
  | .cancel => { p with stage := { p.stage with cancelled := true } }
  | .worker k =>
    match p.active[k]? with
    | some (.done r, i) =>
      { p with active := p.active.eraseIdx k, slots := p.slots.set i (some r), writes := p.writes ++ [i] }
    | some (job, i) =>
      { p with stage := (job.step rig p.stage).2, active := p.active.set k ((job.step rig p.stage).1, i) }
    | none =>
      match p.waiting with
      | [] => p
      | job :: waiting =>
        if p.active.length < workers then { p with active := p.active ++ [job], waiting := waiting } else p

/-- The pool after the moves of a schedule. -/
def follow (rig : Rig (StateM Stage)) (workers : Nat) (moves : List Move) (p : Pool) : Pool :=
  moves.foldl (next rig workers) p

private theorem exists_append_of_getElem? {α : Type} {as : List α} {k : Nat} {a : α} (h : as[k]? = some a) :
    ∃ before after, as = before ++ a :: after ∧ before.length = k := by
  obtain ⟨hk, rfl⟩ := List.getElem?_eq_some_iff.1 h
  exact ⟨as.take k, as.drop (k + 1), by simp, List.length_take_of_le (Nat.le_of_lt hk)⟩

private theorem next_work {before after : List (Job Result × Nat)} {job : Job Result} {i : Nat} {waiting} {slots}
    {writes} {s : Stage} (h : ∀ r, job ≠ .done r) :
    next rig workers ⟨s, before ++ (job, i) :: after, waiting, slots, writes⟩ (.worker before.length) =
      ⟨(job.step rig s).2, before ++ ((job.step rig s).1, i) :: after, waiting, slots, writes⟩ := by
  cases job with
  | done r => exact absurd rfl (h r)
  | _ => simp [next]

private theorem next_store {before after : List (Job Result × Nat)} {r : Result} {i : Nat} {waiting} {slots} {writes}
    {s : Stage} : next rig workers ⟨s, before ++ (.done r, i) :: after, waiting, slots, writes⟩ (.worker before.length) =
      ⟨s, before ++ after, waiting, slots.set i (some r), writes ++ [i]⟩ := by
  simp [next, List.eraseIdx_append_of_length_le]

/-- Every move is a step of the pool, or none. -/
theorem reaches_next (p : Pool) (move : Move) : Reaches rig workers p (p.next rig workers move) := by
  obtain ⟨s, active, waiting, slots, writes⟩ := p
  cases move with
  | cancel => exact .single .cancel
  | worker k =>
    cases hk : active[k]? with
    | some entry =>
      obtain ⟨before, after, rfl, rfl⟩ := exists_append_of_getElem? hk
      obtain ⟨job, i⟩ := entry
      by_cases hdone : ∃ r, job = .done r
      · obtain ⟨r, rfl⟩ := hdone
        rw [next_store]
        exact .single .store
      · have hjob : ∀ r, job ≠ .done r := fun r heq => hdone ⟨r, heq⟩
        rw [next_work hjob]
        exact .single (.work hjob)
    | none =>
      simp only [next, hk]
      cases waiting with
      | nil => exact .refl
      | cons job waiting =>
        dsimp only
        split
        · exact .single (.take ‹_›)
        · exact .refl

/-- Every step of a pool is a move. -/
theorem Step.exists_next {p q : Pool} (h : Step rig workers p q) : ∃ move, p.next rig workers move = q := by
  cases h with
  | @take s active job waiting slots writes hfree => exact ⟨.worker active.length, by simp [next, hfree]⟩
  | @work s before job i after waiting slots writes hjob => exact ⟨.worker before.length, next_work hjob⟩
  | @store s before r i after waiting slots writes => exact ⟨.worker before.length, next_store⟩
  | cancel => exact ⟨.cancel, rfl⟩

theorem reaches_follow (rig : Rig (StateM Stage)) (workers : Nat) (p : Pool) (moves : List Move) :
    Reaches rig workers p (p.follow rig workers moves) := by
  induction moves generalizing p with
  | nil => exact .refl
  | cons move moves ih => exact (reaches_next p move).trans (ih _)

/-- The stage has a property that replies to the jobs at hand and to those that wait keep. -/
structure Kept (R : Replies) (I : Stage → Prop) (p : Pool) : Prop where
  stage : I p.stage
  active : ∀ x ∈ p.active, x.1.Yields R fun _ => True
  waiting : ∀ x ∈ p.waiting, x.1.Yields R fun _ => True

private theorem Kept.next_worker (hr : rig.Keeps R I) {p : Pool} (h : p.Kept R I) (k : Nat) :
    (p.next rig workers (.worker k)).Kept R I := by
  obtain ⟨s, active, waiting, slots, writes⟩ := p
  obtain ⟨hs, hactive, hwaiting⟩ := h
  cases hk : active[k]? with
  | some entry =>
    obtain ⟨before, after, rfl, rfl⟩ := exists_append_of_getElem? hk
    obtain ⟨job, i⟩ := entry
    by_cases hdone : ∃ r, job = .done r
    · obtain ⟨r, rfl⟩ := hdone
      rw [next_store]
      refine ⟨hs, fun x hx => hactive x ?_, hwaiting⟩
      rcases List.mem_append.1 hx with hx | hx <;> simp [hx]
    · rw [next_work fun r heq => hdone ⟨r, heq⟩]
      obtain ⟨hjob, hs'⟩ := (hactive (job, i) (by simp)).step hr hs
      refine ⟨hs', fun x hx => ?_, hwaiting⟩
      rcases List.mem_append.1 hx with hx | hx
      · exact hactive x (by simp [hx])
      · rcases List.mem_cons.1 hx with rfl | hx
        · exact hjob
        · exact hactive x (by simp [hx])
  | none =>
    simp only [next, hk]
    cases waiting with
    | nil => exact ⟨hs, hactive, hwaiting⟩
    | cons job waiting =>
      obtain ⟨hjob, hrest⟩ := List.forall_mem_cons.1 hwaiting
      dsimp only
      split
      · refine ⟨hs, fun x hx => ?_, hrest⟩
        rcases List.mem_append.1 hx with hx | hx
        · exact hactive x hx
        · exact List.mem_singleton.1 hx ▸ hjob
      · exact ⟨hs, hactive, hwaiting⟩

/-- Schedules on which nobody tells the run to stop keep such a property. -/
theorem Kept.follow (hr : rig.Keeps R I) {p : Pool} (h : p.Kept R I) {moves : List Move} (hmoves : .cancel ∉ moves) :
    (p.follow rig workers moves).Kept R I := by
  induction moves generalizing p with
  | nil => exact h
  | cons move moves ih =>
    obtain ⟨hmove, hrest⟩ := List.ne_and_not_mem_of_not_mem_cons hmoves
    cases move with
    | worker k => exact ih (h.next_worker hr k) hrest
    | cancel => exact absurd rfl hmove

/-- A pool gets where schedules lead it. -/
theorem reaches_iff_follow {p q : Pool} :
    Reaches rig workers p q ↔ ∃ moves, p.follow rig workers moves = q := by
  constructor
  · intro h
    induction h with
    | refl => exact ⟨[], rfl⟩
    | tail _ hstep ih =>
      obtain ⟨moves, rfl⟩ := ih
      obtain ⟨move, rfl⟩ := hstep.exists_next
      exact ⟨moves ++ [move], by rw [follow, List.foldl_append]; rfl⟩
  · rintro ⟨moves, rfl⟩
    exact reaches_follow rig workers p moves

end Pool

end FibTiming
