import SessionHandoff.Proofs.Fork.History

/-!
# One main thread

A process knows its main thread twice: by the identity in its memory, and by the flag of the thread
itself. A fork copies the memory but keeps one thread, so in the child of another thread the
identity names a thread that is not there.

What a run says about main threads is a list of records (`ForkWorld.records`): the calls that
recorded a main thread, and the forks, which hand on what the creator knew. `ForkWorld.OnRecord`
reads from them which thread is the main one of a process. `ForkWorld.Identified` is what every
event preserves, and `ForkWorld.main_thread_consistent` says what it comes to: in every process the
flags agree with the identity, at most one thread takes itself for the main one, and a process that
has a main thread on record refuses to record another.
-/

set_option autoImplicit false

namespace SessionHandoff

/-! ## One process -/

namespace ForkProcess

variable {p : ForkProcess}

theorem initThread_of_none (unknown : p.mainThread = none) (thread : ThreadId) :
    p.initThread thread =
      (.ok (), { p with mainThread := some thread, flagged := thread :: p.flagged }) := by
  unfold ForkProcess.initThread
  rw [unknown]

theorem initThread_of_some {main : ThreadId} (known : p.mainThread = some main)
    (thread : ThreadId) : p.initThread thread = (.error .alreadyInitialized, p) := by
  unfold ForkProcess.initThread
  rw [known]

theorem isRecordedMain_iff {thread : ThreadId} :
    p.isRecordedMain thread = true ↔ p.mainThread = some thread := by
  simp [isRecordedMain]

/-- A thread whose flag is set exactly if it is the recorded one answers by its identity, and
nothing is logged. -/
theorem isMainThread_eq {thread : ThreadId}
    (agrees : thread ∈ p.flagged ↔ p.mainThread = some thread) :
    p.isMainThread thread = (p.isRecordedMain thread, []) := by
  have same : p.flagged.contains thread = p.isRecordedMain thread := by
    rw [Bool.eq_iff_iff, List.contains_iff_mem, isRecordedMain_iff]
    exact agrees
  unfold isMainThread
  simp only [same, if_true]

end ForkProcess

/-! ## What a run says about main threads -/

/-- A record of a run: a call that recorded the main thread of a process, or a fork. -/
inductive IdentityRecord where
  | recorded (process : Nat) (thread : ThreadId)
  | forked (fork : ForkRecord)

/-- The process that a record says something about. -/
def IdentityRecord.subject : IdentityRecord → Nat
  | .recorded process _ => process
  | .forked fork => fork.made

namespace ForkWorld

/-- The record of an event: a call is recorded if it succeeds, a fork always. -/
def recordOf? (w : ForkWorld) (e : ForkEvent) : Option IdentityRecord :=
  match w.processes[e.process]? with
  | none => none
  | some p =>
    if p.threads.contains e.thread then
      match e.action with
      | .initThread =>
        match (p.state.initThread e.thread).1 with
        | .ok _ => some (.recorded e.process e.thread)
        | .error _ => none
      | .fork => some (.forked ⟨e.process, e.thread, p.state, w.processes.length⟩)
      | .setupHandlers _ | .spawnThread => none
    else none

/-- The records of events, in their order. -/
def records (w : ForkWorld) : List ForkEvent → List IdentityRecord
  | [] => []
  | e :: rest => (w.recordOf? e).toList ++ (w.step e).records rest

/-- The records say that a thread is the main one of a process: it was recorded there, or it was on
record in the creator when that forked. `hands` says which main threads a forking thread hands on to
the process that it makes. -/
inductive OnRecord (hands : ThreadId → ThreadId → Prop) :
    List IdentityRecord → Nat → ThreadId → Prop where
  | recorded (earlier : List IdentityRecord) (i : Nat) (t : ThreadId) :
      OnRecord hands (earlier ++ [.recorded i t]) i t
  | inherited {earlier : List IdentityRecord} {f : ForkRecord} {t : ThreadId}
      (before : OnRecord hands earlier f.creator t) (handed : hands f.thread t) :
      OnRecord hands (earlier ++ [.forked f]) f.made t
  | later {earlier : List IdentityRecord} {i : Nat} {t : ThreadId} (r : IdentityRecord)
      (before : OnRecord hands earlier i t) : OnRecord hands (earlier ++ [r]) i t

/-- The call of a thread succeeded in the process, or in its creator before the fork that made it,
whoever forked, or in the creator of that one, and so on. -/
abbrev HasMain (records : List IdentityRecord) (i : Nat) (t : ThreadId) : Prop :=
  OnRecord (fun _ _ => True) records i t

/-- The call of a thread succeeded in the process, or in an ancestor from which the thread itself
made all forks that lead to the process, each after the call. -/
abbrev IsMain (records : List IdentityRecord) (i : Nat) (t : ThreadId) : Prop :=
  OnRecord (fun forking main => forking = main) records i t

section Records

variable {hands : ThreadId → ThreadId → Prop} {earlier : List IdentityRecord} {r : IdentityRecord}
variable {i : Nat} {t : ThreadId}

/-- What one more record adds. -/
theorem onRecord_concat_iff :
    OnRecord hands (earlier ++ [r]) i t ↔
      OnRecord hands earlier i t ∨ r = .recorded i t ∨
        ∃ f, r = .forked f ∧ f.made = i ∧ hands f.thread t ∧ OnRecord hands earlier f.creator t := by
  constructor
  · intro h
    generalize whole : earlier ++ [r] = all at h
    cases h with
    | recorded earlier' i t =>
      obtain ⟨rfl, last⟩ := List.append_inj' whole rfl
      exact .inr (.inl (List.singleton_injective last))
    | inherited before handed =>
      obtain ⟨rfl, last⟩ := List.append_inj' whole rfl
      exact .inr (.inr ⟨_, List.singleton_injective last, rfl, handed, before⟩)
    | later r' before =>
      obtain ⟨rfl, -⟩ := List.append_inj' whole rfl
      exact .inl before
  · rintro (before | rfl | ⟨f, rfl, rfl, handed, before⟩)
    · exact .later r before
    · exact .recorded earlier i t
    · exact .inherited before handed

/-- A record about another process adds nothing. -/
theorem onRecord_concat_of_ne (apart : r.subject ≠ i) :
    OnRecord hands (earlier ++ [r]) i t ↔ OnRecord hands earlier i t := by
  rw [onRecord_concat_iff]
  constructor
  · rintro (before | rfl | ⟨f, rfl, made, -, -⟩)
    · exact before
    · exact absurd rfl apart
    · exact absurd made apart
  · intro before
    exact .inl before

theorem onRecord_concat_recorded {u : ThreadId} :
    OnRecord hands (earlier ++ [.recorded i t]) i u ↔ OnRecord hands earlier i u ∨ t = u := by
  rw [onRecord_concat_iff]
  simp

theorem onRecord_concat_forked {f : ForkRecord} :
    OnRecord hands (earlier ++ [.forked f]) f.made t ↔
      OnRecord hands earlier f.made t ∨
        hands f.thread t ∧ OnRecord hands earlier f.creator t := by
  rw [onRecord_concat_iff]
  simp

/-- Nothing is on record for a process that no record is about. -/
theorem OnRecord.exists_subject (h : OnRecord hands earlier i t) :
    ∃ r ∈ earlier, r.subject = i := by
  induction h with
  | recorded earlier i t => exact ⟨_, List.mem_concat_self, rfl⟩
  | inherited before handed ih => exact ⟨_, List.mem_concat_self, rfl⟩
  | later r before ih =>
    obtain ⟨r', inside, about⟩ := ih
    exact ⟨r', List.mem_append_left _ inside, about⟩

/-- A main thread that handed itself on is the one that the process has on record. -/
theorem IsMain.hasMain (h : IsMain earlier i t) : HasMain earlier i t := by
  induction h with
  | recorded earlier i t => exact .recorded earlier i t
  | inherited before handed ih => exact .inherited ih trivial
  | later r before ih => exact .later r ih

end Records

/-! ## What every event preserves -/

/-- A process agrees with the records: its memory holds the thread that is on record, and of its
threads exactly that one is flagged, which is there only if it has made the forks itself. -/
structure Identified (records : List IdentityRecord) (i : Nat) (p : WorldProcess) : Prop where
  tracked : p.state.Tracked
  /-- A thread that is made next has a number of its own. -/
  fresh : ∀ t ∈ p.threads, t < p.nextThread
  /-- The thread on record was made before, here or in an ancestor. -/
  past : ∀ t, p.state.mainThread = some t → t < p.nextThread
  flagged : ∀ t, t ∈ p.state.flagged ↔ t ∈ p.threads ∧ p.state.mainThread = some t
  known : ∀ t, p.state.mainThread = some t ↔ HasMain records i t
  own : ∀ t ∈ p.threads, p.state.mainThread = some t → IsMain records i t

/-- All processes of a world agree with the records, which are about these processes only. -/
structure Coherent (records : List IdentityRecord) (w : ForkWorld) : Prop where
  about : ∀ r ∈ records, r.subject < w.processes.length
  identified : ∀ i p, w.processes[i]? = some p → Identified records i p

section Processes

variable {records more : List IdentityRecord} {i : Nat} {p : WorldProcess}

/-- Records about other processes change nothing. -/
theorem Identified.congr (identified : Identified records i p)
    (same : ∀ hands t, OnRecord hands more i t ↔ OnRecord hands records i t) :
    Identified more i p where
  tracked := identified.tracked
  fresh := identified.fresh
  past := identified.past
  flagged := identified.flagged
  known := fun t => (identified.known t).trans (same _ t).symm
  own := fun t alive main => (same _ t).2 (identified.own t alive main)

theorem Identified.concat_of_ne (identified : Identified records i p) {r : IdentityRecord}
    (apart : r.subject ≠ i) : Identified (records ++ [r]) i p := by
  apply identified.congr
  intro hands t
  exact onRecord_concat_of_ne apart

/-- Recording the main thread of a process that has none. -/
theorem Identified.recorded (identified : Identified records i p) {thread : ThreadId}
    (alive : thread ∈ p.threads) (unknown : p.state.mainThread = none) :
    Identified (records ++ [.recorded i thread]) i
      { p with state := (p.state.initThread thread).2 } := by
  have tracked := identified.tracked.initThread thread
  rw [ForkProcess.initThread_of_none unknown] at tracked ⊢
  -- nobody is flagged before, and nothing is on record
  have unflagged : ∀ t, t ∉ p.state.flagged := by
    intro t flagged
    have main := ((identified.flagged t).1 flagged).2
    rw [unknown] at main
    cases main
  have nobody : ∀ t, ¬ HasMain records i t := by
    intro t main
    have known := (identified.known t).2 main
    rw [unknown] at known
    cases known
  constructor
  · exact tracked
  · exact identified.fresh
  · intro t main
    obtain rfl := Option.some.inj main
    exact identified.fresh thread alive
  · intro t
    show t ∈ thread :: p.state.flagged ↔ t ∈ p.threads ∧ some thread = some t
    rw [List.mem_cons]
    constructor
    · rintro (rfl | flagged)
      · exact ⟨alive, rfl⟩
      · exact absurd flagged (unflagged t)
    · rintro ⟨-, same⟩
      exact .inl (Option.some.inj same).symm
  · intro t
    show some thread = some t ↔ _
    refine Iff.trans ?_ onRecord_concat_recorded.symm
    rw [Option.some.injEq]
    constructor
    · intro same
      exact .inr same
    · rintro (main | same)
      · exact absurd main (nobody t)
      · exact same
  · intro t _ main
    obtain rfl := Option.some.inj main
    exact .recorded records i thread

/-- Installing hooks changes nothing about the main thread. -/
theorem Identified.setupHandlers (identified : Identified records i p) (refusal : Option Errno) :
    Identified records i { p with state := (p.state.setupHandlers refusal).2 } := by
  have tracked := identified.tracked.setupHandlers refusal
  obtain ⟨offered, registrations, installed, same⟩ := p.state.setupHandlers_same refusal
  rw [same] at tracked ⊢
  exact ⟨tracked, identified.fresh, identified.past, identified.flagged, identified.known,
    identified.own⟩

/-- A new thread is not the main one: its number is new. -/
theorem Identified.spawnThread (identified : Identified records i p) :
    Identified records i
      { p with threads := p.threads ++ [p.nextThread], nextThread := p.nextThread + 1 } := by
  have other : p.state.mainThread ≠ some p.nextThread := by
    intro main
    exact Nat.lt_irrefl _ (identified.past _ main)
  constructor
  · exact identified.tracked
  · intro t inside
    rcases List.mem_append.1 inside with old | new
    · exact Nat.lt_succ_of_lt (identified.fresh t old)
    · rw [List.mem_singleton.1 new]
      exact Nat.lt_succ_self _
  · intro t main
    exact Nat.lt_succ_of_lt (identified.past t main)
  · intro t
    show _ ↔ t ∈ p.threads ++ [p.nextThread] ∧ _
    rw [identified.flagged t, List.mem_append, List.mem_singleton]
    constructor
    · rintro ⟨old, main⟩
      exact ⟨.inl old, main⟩
    · rintro ⟨old | rfl, main⟩
      · exact ⟨old, main⟩
      · exact absurd main other
  · exact identified.known
  · intro t inside main
    rcases List.mem_append.1 inside with old | new
    · exact identified.own t old main
    · rw [List.mem_singleton.1 new] at main
      exact absurd main other

/-- The creator of a process keeps its main thread. -/
theorem Identified.creator (identified : Identified records i p) (thread : ThreadId) :
    Identified records i { p with state := (p.state.fork thread).1 } := by
  have tracked := identified.tracked
  rw [tracked.fork_eq]
  exact ⟨tracked.of_same rfl rfl rfl, identified.fresh, identified.past,
    identified.flagged, identified.known, identified.own⟩

/-- The process that a fork makes remembers the main thread, and has it only if it forked. -/
theorem Identified.made {f : ForkRecord} {q : WorldProcess}
    (identified : Identified records f.creator q) (knew : q.state = f.knew)
    (alive : f.thread ∈ q.threads) (new : ∀ r ∈ records, r.subject ≠ f.made) :
    Identified (records ++ [.forked f]) f.made
      ⟨(f.knew.fork f.thread).2, [f.thread], q.nextThread⟩ := by
  have tracked := identified.tracked
  have nothing : ∀ t, ¬ HasMain records f.made t := by
    intro t main
    obtain ⟨r, inside, about⟩ := main.exists_subject
    exact new r inside about
  rw [← knew, tracked.fork_eq]
  constructor
  · exact tracked.of_same rfl rfl rfl
  · intro t inside
    rw [List.mem_singleton.1 inside]
    exact identified.fresh f.thread alive
  · exact identified.past
  · intro t
    show t ∈ q.state.flagged.filter (· == f.thread) ↔ t ∈ [f.thread] ∧ _
    rw [List.mem_filter, identified.flagged t, beq_iff_eq, List.mem_singleton]
    constructor
    · rintro ⟨⟨-, main⟩, rfl⟩
      exact ⟨rfl, main⟩
    · rintro ⟨rfl, main⟩
      exact ⟨⟨alive, main⟩, rfl⟩
  · intro t
    show q.state.mainThread = some t ↔ _
    refine (identified.known t).trans (Iff.trans ?_ onRecord_concat_forked.symm)
    constructor
    · intro main
      exact .inr ⟨trivial, main⟩
    · rintro (main | ⟨-, main⟩)
      · exact absurd main (nothing t)
      · exact main
  · intro t inside main
    obtain rfl := List.mem_singleton.1 inside
    exact .inherited (identified.own _ alive main) rfl

end Processes

section Worlds

variable {records : List IdentityRecord} {w : ForkWorld}

theorem coherent_initial : Coherent [] {} := by
  constructor
  · intro r none
    cases none
  · intro i p found
    -- the only process is the root, which has one thread and knows nothing
    have root : p = {} := by
      cases i with
      | zero => exact (Option.some.inj found).symm
      | succ i => cases found
    subst root
    have nobody : ∀ t, ¬ HasMain [] i t := by
      intro t main
      obtain ⟨r, none, -⟩ := main.exists_subject
      cases none
    constructor
    · exact ForkProcess.tracked_initial
    · intro t inside
      rw [List.mem_singleton.1 inside]
      exact Nat.zero_lt_one
    · nofun
    · simp
    · intro t
      simp [nobody t]
    · nofun

/-- One process is replaced, and the records are about no other. -/
theorem Coherent.set (coherent : Coherent records w) {i : Nat} {q : WorldProcess}
    (identified : Identified records i q) : Coherent records ⟨w.processes.set i q⟩ := by
  constructor
  · intro r inside
    rw [List.length_set]
    exact coherent.about r inside
  · intro j s found
    by_cases same : i = j
    · subst same
      rw [List.getElem?_set_self'] at found
      obtain ⟨_, -, rfl⟩ := Option.map_eq_some_iff.1 found
      exact identified
    · rw [List.getElem?_set_ne same] at found
      exact coherent.identified j s found

/-- A process records its main thread. -/
theorem Coherent.recorded (coherent : Coherent records w) {i : Nat} {p : WorldProcess}
    (found : w.processes[i]? = some p) {thread : ThreadId} (alive : thread ∈ p.threads)
    (unknown : p.state.mainThread = none) :
    Coherent (records ++ [.recorded i thread])
      ⟨w.processes.set i { p with state := (p.state.initThread thread).2 }⟩ := by
  have inside : i < w.processes.length := (List.getElem?_eq_some_iff.1 found).1
  constructor
  · intro r member
    rw [List.length_set]
    rcases List.mem_append.1 member with old | new
    · exact coherent.about r old
    · rw [List.mem_singleton.1 new]
      exact inside
  · intro j s reached
    by_cases same : i = j
    · subst same
      rw [List.getElem?_set_self inside] at reached
      obtain rfl := Option.some.inj reached
      exact (coherent.identified i p found).recorded alive unknown
    · rw [List.getElem?_set_ne same] at reached
      exact (coherent.identified j s reached).concat_of_ne same

/-- A process forks. -/
theorem Coherent.forked (coherent : Coherent records w) {i : Nat} {p : WorldProcess}
    (found : w.processes[i]? = some p) {thread : ThreadId} (alive : thread ∈ p.threads) :
    Coherent (records ++ [.forked ⟨i, thread, p.state, w.processes.length⟩])
      ⟨w.processes.set i { p with state := (p.state.fork thread).1 } ++
        [⟨(p.state.fork thread).2, [thread], p.nextThread⟩]⟩ := by
  have inside : i < w.processes.length := (List.getElem?_eq_some_iff.1 found).1
  have identified := coherent.identified i p found
  -- the record is about the new process, which no record before is about
  have apart : ∀ j, j < w.processes.length →
      (IdentityRecord.forked ⟨i, thread, p.state, w.processes.length⟩).subject ≠ j := by
    intro j old
    exact Nat.ne_of_gt old
  constructor
  · intro r member
    rw [List.length_append, List.length_set, List.length_singleton]
    rcases List.mem_append.1 member with old | new
    · exact Nat.lt_succ_of_lt (coherent.about r old)
    · rw [List.mem_singleton.1 new]
      exact Nat.lt_succ_self _
  · intro j s reached
    dsimp only at reached
    rcases Nat.lt_or_ge j w.processes.length with old | new
    · rw [List.getElem?_append_left (by rwa [List.length_set])] at reached
      by_cases same : i = j
      · -- the creator
        subst same
        rw [List.getElem?_set_self inside] at reached
        obtain rfl := Option.some.inj reached
        exact (identified.creator thread).concat_of_ne (apart i old)
      · -- a process that has no part in the fork
        rw [List.getElem?_set_ne same] at reached
        exact (coherent.identified j s reached).concat_of_ne (apart j old)
    · -- the new process
      rw [List.getElem?_append_right (by rwa [List.length_set]), List.length_set,
        List.getElem?_singleton] at reached
      obtain ⟨last, child⟩ := Option.ite_none_right_eq_some.1 reached
      obtain rfl := Option.some.inj child
      obtain rfl : j = w.processes.length := by omega
      apply Identified.made identified rfl alive
      intro r member
      exact Nat.ne_of_lt (coherent.about r member)

/-- The records so far and the record of an event agree with the world after the event. -/
theorem Coherent.step (coherent : Coherent records w) (e : ForkEvent) :
    Coherent (records ++ (w.recordOf? e).toList) (w.step e) := by
  have unchanged : Coherent (records ++ (none : Option IdentityRecord).toList) w := by
    rw [Option.toList_none, List.append_nil]
    exact coherent
  unfold recordOf? ForkWorld.step
  cases found : w.processes[e.process]? with
  | none => exact unchanged
  | some p =>
    by_cases alive : p.threads.contains e.thread = true
    · have identified := coherent.identified _ p found
      simp only [alive, if_true]
      rw [List.contains_iff_mem] at alive
      cases e.action with
      | initThread =>
        dsimp only [WorldProcess.act]
        rw [Option.toList_none, List.append_nil]
        cases known : p.state.mainThread with
        | none =>
          have after := coherent.recorded found alive known
          rw [ForkProcess.initThread_of_none known] at after ⊢
          exact after
        | some main =>
          rw [ForkProcess.initThread_of_some known]
          dsimp only
          rw [Option.toList_none, List.append_nil]
          exact coherent.set identified
      | setupHandlers refusal =>
        dsimp only [WorldProcess.act]
        rw [Option.toList_none, Option.toList_none, List.append_nil, List.append_nil]
        exact coherent.set (identified.setupHandlers refusal)
      | spawnThread =>
        dsimp only [WorldProcess.act]
        rw [Option.toList_none, Option.toList_none, List.append_nil, List.append_nil]
        exact coherent.set identified.spawnThread
      | fork => exact coherent.forked found alive
    · simp only [alive, Bool.false_eq_true, if_false]
      exact unchanged

/-- The records of a run agree with the world that it leads to. -/
theorem Coherent.run (coherent : Coherent records w) (events : List ForkEvent) :
    Coherent (records ++ w.records events) (w.run events) := by
  induction events generalizing records w with
  | nil => exact (List.append_nil records).symm ▸ coherent
  | cons e rest ih =>
    have after := ih (coherent.step e)
    rw [List.append_assoc] at after
    exact after

end Worlds

/-- A call that is refused leaves the world as it is. -/
theorem step_initThread_of_some {w : ForkWorld} {i : Nat} {p : WorldProcess}
    (found : w.processes[i]? = some p) {main : ThreadId} (known : p.state.mainThread = some main)
    (thread : ThreadId) : w.step ⟨i, thread, .initThread⟩ = w := by
  have inside : i < w.processes.length := (List.getElem?_eq_some_iff.1 found).1
  have same : w.processes[i] = p := (List.getElem?_eq_some_iff.1 found).2
  unfold ForkWorld.step
  dsimp only
  rw [found]
  dsimp only [WorldProcess.act]
  rw [ForkProcess.initThread_of_some known, Option.toList_none, List.append_nil]
  dsimp only
  rw [← same, List.set_getElem_self]
  exact ite_self w

/-- In every process that a run reaches, the flag of a thread agrees with its identity, so that no
disagreement is ever logged; the threads that take themselves for the main one are those whose call
succeeded in the process, or in an ancestor from which they made all forks themselves, and they are
at most one. Once a call has succeeded in the process, or in its creator before the fork, every call
is refused and changes nothing, and until then a call succeeds. -/
theorem main_thread_consistent (events : List ForkEvent) {i : Nat} {p : WorldProcess}
    (found : (run {} events).processes[i]? = some p) :
    (∀ t ∈ p.threads, p.state.isMainThread t = (p.state.isRecordedMain t, [])) ∧
      (∀ t ∈ p.threads, (p.state.isMainThread t).1 = true ↔ IsMain (records {} events) i t) ∧
      (∀ t ∈ p.threads, ∀ u ∈ p.threads,
        (p.state.isMainThread t).1 = true → (p.state.isMainThread u).1 = true → t = u) ∧
      (∀ m, HasMain (records {} events) i m → ∀ t,
        p.state.initThread t = (.error .alreadyInitialized, p.state) ∧
          (run {} events).step ⟨i, t, .initThread⟩ = run {} events) ∧
      ((∀ m, ¬ HasMain (records {} events) i m) → ∀ t, (p.state.initThread t).1 = .ok ()) := by
  have coherent : Coherent (records {} events) (run {} events) := coherent_initial.run events
  have identified := coherent.identified i p found
  have answer : ∀ t ∈ p.threads, p.state.isMainThread t = (p.state.isRecordedMain t, []) := by
    intro t alive
    apply ForkProcess.isMainThread_eq
    rw [identified.flagged t]
    exact and_iff_right alive
  have main : ∀ t ∈ p.threads,
      (p.state.isMainThread t).1 = true ↔ p.state.mainThread = some t := by
    intro t alive
    rw [answer t alive]
    exact ForkProcess.isRecordedMain_iff
  refine ⟨answer, ?_, ?_, ?_, ?_⟩
  · intro t alive
    rw [main t alive]
    constructor
    · exact identified.own t alive
    · intro own
      exact (identified.known t).2 own.hasMain
  · intro t alive u alive' first second
    rw [main t alive] at first
    rw [main u alive', first] at second
    exact Option.some.inj second
  · intro m has t
    have known := (identified.known m).2 has
    exact ⟨ForkProcess.initThread_of_some known t, step_initThread_of_some found known t⟩
  · intro nobody t
    have unknown : p.state.mainThread = none := by
      cases known : p.state.mainThread with
      | none => rfl
      | some m => exact absurd ((identified.known m).1 known) (nobody m)
    rw [ForkProcess.initThread_of_none unknown]

/-- A run in which process 1 is made before the main thread of the root is recorded, process 2 by
another thread, and process 3 by the main thread. Calls follow in all of them. -/
def callsAfterForks : List ForkEvent :=
  [⟨0, 0, .fork⟩, ⟨0, 0, .initThread⟩, ⟨0, 0, .spawnThread⟩, ⟨0, 1, .fork⟩, ⟨0, 0, .fork⟩,
    ⟨0, 1, .initThread⟩, ⟨1, 0, .spawnThread⟩, ⟨1, 1, .initThread⟩, ⟨2, 1, .initThread⟩,
    ⟨3, 0, .spawnThread⟩, ⟨3, 2, .initThread⟩]

theorem main_thread_consistent_made_by_main :
    ∃ p, (run {} callsAfterForks).processes[3]? = some p ∧ p.threads = [0, 2] ∧
      IsMain (records {} callsAfterForks) 3 0 ∧
      (∀ t ∈ p.threads, p.state.isMainThread t = (p.state.isRecordedMain t, [])) ∧
      (∀ t ∈ p.threads,
        (p.state.isMainThread t).1 = true ↔ IsMain (records {} callsAfterForks) 3 t) ∧
      (∀ t ∈ p.threads, ∀ u ∈ p.threads,
        (p.state.isMainThread t).1 = true → (p.state.isMainThread u).1 = true → t = u) ∧
      (∀ m, HasMain (records {} callsAfterForks) 3 m → ∀ t,
        p.state.initThread t = (.error .alreadyInitialized, p.state) ∧
          (run {} callsAfterForks).step ⟨3, t, .initThread⟩ = run {} callsAfterForks) ∧
      ((∀ m, ¬ HasMain (records {} callsAfterForks) 3 m) →
        ∀ t, (p.state.initThread t).1 = .ok ()) := by
  have result := main_thread_consistent callsAfterForks (i := 3) rfl
  exact ⟨_, rfl, rfl, (result.2.1 0 List.mem_cons_self).1 rfl, result⟩

end ForkWorld

end SessionHandoff
