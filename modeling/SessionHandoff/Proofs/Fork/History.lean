import Mathlib.Data.List.Nodup
import SessionHandoff.Fork.World

/-!
# What forks leave behind

The forks of a run are recorded with what the forking process knew at that moment. They are the
edges of a tree: one path of forks leads from the root to every process (`ForkWorld.Descends`).

The platform takes the hooks once, however often they are offered to it and whatever it refuses
(`ForkProcess.Tracked`). So one fork marks the child exactly if the hooks were installed, and counts in the parent exactly if
the main thread made it (`ForkProcess.Tracked.fork_eq`). `ForkWorld.fork_history_exact` says what
this comes to in every run: a process is marked by the forks on its path and by nothing else, for
good, and its count is the one that its creator had, with its own forks added.
-/

set_option autoImplicit false

namespace SessionHandoff

/-! ## One process -/

namespace ForkProcess

variable {p : ForkProcess}

/-- What is done with hooks: nothing if some are installed, and otherwise what the platform answers.
The hooks that were offered first are kept in both cases, and a refusal is recorded. -/
theorem offerHooks_cases (p : ForkProcess) (hooks : ForkHooks) (refusal : Option Errno) :
    (p.installed = true ∧ p.offerHooks hooks refusal = ((.ok (), []), p)) ∨
      (p.installed = false ∧ ∃ e, refusal = some e ∧ p.offerHooks hooks refusal =
        ((.error (.process (.hooksRefused e)),
          [⟨.error, "Failed to install fork handlers: " ++ e.withNumber⟩]),
          { p with offered := some (p.offered.getD hooks) })) ∨
      (p.installed = false ∧ refusal = none ∧ p.offerHooks hooks refusal =
        ((.ok (), []), { p with
          offered := some (p.offered.getD hooks)
          registrations := p.registrations + 1
          installed := true })) := by
  unfold offerHooks
  cases installed : p.installed with
  | true => exact .inl ⟨rfl, rfl⟩
  | false =>
    cases refusal with
    | some e => exact .inr (.inl ⟨rfl, e, rfl, rfl⟩)
    | none => exact .inr (.inr ⟨rfl, rfl, rfl⟩)

theorem setupHandlers_snd (p : ForkProcess) (refusal : Option Errno) :
    (p.setupHandlers refusal).2 = (p.offerHooks .tracker refusal).2 := rfl

/-- Installing hooks touches nothing but what is known of hooks. -/
theorem setupHandlers_same (p : ForkProcess) (refusal : Option Errno) :
    ∃ offered registrations installed,
      (p.setupHandlers refusal).2 = { p with offered, registrations, installed } := by
  rw [setupHandlers_snd]
  rcases p.offerHooks_cases .tracker refusal with ⟨-, done⟩ | ⟨-, e, -, done⟩ | ⟨-, -, done⟩
  · rw [done]
    exact ⟨_, _, _, rfl⟩
  · rw [done]
    exact ⟨_, _, _, rfl⟩
  · rw [done]
    exact ⟨_, _, _, rfl⟩

/-- The hooks of the tracker are the only ones, and the platform has taken them once if they are
installed, and not at all if they are not. -/
structure Tracked (p : ForkProcess) : Prop where
  only : ∀ hooks ∈ p.offered, hooks = .tracker
  offered : p.installed = true → p.offered = some .tracker
  registrations : p.registrations = if p.installed then 1 else 0

theorem tracked_initial : Tracked {} := ⟨nofun, nofun, rfl⟩

/-- A process that knows the same about the hooks. -/
theorem Tracked.of_same {q : ForkProcess} (tracked : p.Tracked) (offered : q.offered = p.offered)
    (registrations : q.registrations = p.registrations) (installed : q.installed = p.installed) :
    q.Tracked := by
  constructor
  · rw [offered]
    exact tracked.only
  · rw [offered, installed]
    exact tracked.offered
  · rw [registrations, installed]
    exact tracked.registrations

theorem Tracked.initThread (tracked : p.Tracked) (thread : ThreadId) :
    (p.initThread thread).2.Tracked := by
  unfold ForkProcess.initThread
  cases p.mainThread with
  | none => exact tracked.of_same rfl rfl rfl
  | some main => exact tracked

/-- The hooks of the tracker are the ones that are offered, the first time as well as later. -/
theorem Tracked.getD_offered (tracked : p.Tracked) : p.offered.getD .tracker = .tracker := by
  cases offered : p.offered with
  | none => rfl
  | some hooks => exact tracked.only hooks offered

/-- The platform takes no hooks after those that it has taken. -/
theorem Tracked.setupHandlers (tracked : p.Tracked) (refusal : Option Errno) :
    (p.setupHandlers refusal).2.Tracked := by
  have first := tracked.getD_offered
  have registrations := tracked.registrations
  have only : ∀ hooks ∈ some ForkHooks.tracker, hooks = .tracker := by
    intro hooks inside
    exact (Option.some.inj inside).symm
  rw [setupHandlers_snd]
  rcases p.offerHooks_cases .tracker refusal with
    ⟨-, done⟩ | ⟨missing, e, -, done⟩ | ⟨missing, -, done⟩
  · rw [done]
    exact tracked
  · -- what was offered stays, but there is no registration
    rw [done, first]
    exact ⟨only, fun _ => rfl, registrations⟩
  · rw [missing] at registrations
    rw [done, first]
    exact ⟨only, fun _ => rfl, congrArg (· + 1) registrations⟩

/-- Neither recording the main thread nor installing the hooks is a fork. -/
theorem initThread_kept (p : ForkProcess) (thread : ThreadId) :
    (p.initThread thread).2.wasForked = p.wasForked ∧
      (p.initThread thread).2.forksObserved = p.forksObserved := by
  unfold ForkProcess.initThread
  cases p.mainThread with
  | none => exact ⟨rfl, rfl⟩
  | some main => exact ⟨rfl, rfl⟩

theorem setupHandlers_kept (p : ForkProcess) (refusal : Option Errno) :
    (p.setupHandlers refusal).2.wasForked = p.wasForked ∧
      (p.setupHandlers refusal).2.forksObserved = p.forksObserved := by
  obtain ⟨offered, registrations, installed, same⟩ := p.setupHandlers_same refusal
  rw [same]
  exact ⟨rfl, rfl⟩

/-- Hooks that are not installed do not run. -/
theorem Tracked.runHook_of_not_installed (tracked : p.Tracked) (not : p.installed = false)
    (hook : ForkProcess → ForkProcess) : p.runHook hook = p := by
  rw [runHook, tracked.registrations, not]
  rfl

/-- Hooks that are installed run once, and are those of the tracker. -/
theorem Tracked.runHook_of_installed (tracked : p.Tracked) (installed : p.installed = true)
    (hook : ForkProcess → ForkProcess) : p.runHook hook = hook p := by
  rw [runHook, tracked.registrations, installed]
  rfl

/-- Whether a fork on the thread is counted: the hooks are installed and the thread is the main
one. -/
def observes (p : ForkProcess) (thread : ThreadId) : Bool :=
  p.installed && p.isRecordedMain thread

theorem Tracked.runBefore_eq (tracked : p.Tracked) (thread : ThreadId) :
    p.runHook (·.hookBefore thread) = p := by
  cases installed : p.installed with
  | false => exact tracked.runHook_of_not_installed installed _
  | true =>
    rw [tracked.runHook_of_installed installed, hookBefore, tracked.offered installed]
    rfl

theorem Tracked.runParent_eq (tracked : p.Tracked) (thread : ThreadId) :
    p.runHook (·.hookParent thread) =
      { p with forksObserved := p.forksObserved + (p.observes thread).toNat } := by
  by_cases installed : p.installed = true
  · have seen : p.observes thread = p.isRecordedMain thread := by
      rw [observes, installed, Bool.true_and]
    have run : p.runHook (·.hookParent thread) = p.trackParent thread := by
      rw [tracked.runHook_of_installed installed, hookParent, tracked.offered installed]
    rw [run, seen, trackParent]
    cases p.isRecordedMain thread with
    | true => rfl
    | false => rfl
  · have not : p.installed = false := Bool.eq_false_iff.2 installed
    have unseen : p.observes thread = false := by rw [observes, not, Bool.false_and]
    rw [tracked.runHook_of_not_installed not, unseen]
    rfl

theorem Tracked.runChild_eq (tracked : p.Tracked) :
    p.runHook hookChild = { p with wasForked := p.wasForked || p.installed } := by
  by_cases installed : p.installed = true
  · have marked : (p.wasForked || p.installed) = true := by rw [installed, Bool.or_true]
    have run : p.runHook hookChild = p.trackChild := by
      rw [tracked.runHook_of_installed installed, hookChild, tracked.offered installed]
    rw [run, marked]
    rfl
  · have not : p.installed = false := Bool.eq_false_iff.2 installed
    have kept : (p.wasForked || p.installed) = p.wasForked := by rw [not, Bool.or_false]
    rw [tracked.runHook_of_not_installed not, kept]

/-- A fork is counted in the parent if it is observed, and marks the child if the hooks are
installed; both are otherwise what the process was, the child with the forking thread alone. -/
theorem Tracked.fork_eq (tracked : p.Tracked) (thread : ThreadId) :
    p.fork thread =
      ({ p with forksObserved := p.forksObserved + (p.observes thread).toNat },
        { p with
          flagged := p.flagged.filter (· == thread)
          wasForked := p.wasForked || p.installed }) := by
  have copied : Tracked { p with flagged := p.flagged.filter (· == thread) } :=
    tracked.of_same rfl rfl rfl
  rw [fork, tracked.runBefore_eq]
  exact Prod.ext (tracked.runParent_eq thread) copied.runChild_eq

end ForkProcess

/-! ## The forks of a run -/

/-- A fork: the process and the thread that forked, what that process knew at that moment, and the
process that was made. -/
structure ForkRecord where
  creator : Nat
  thread : ThreadId
  knew : ForkProcess
  made : Nat

namespace ForkWorld

/-- The fork that an event is, if it is one. -/
def forkOf? (w : ForkWorld) (e : ForkEvent) : Option ForkRecord :=
  match w.processes[e.process]? with
  | none => none
  | some p =>
    if p.threads.contains e.thread ∧ e.action = .fork then
      some ⟨e.process, e.thread, p.state, w.processes.length⟩
    else none

/-- The forks among events, in their order. -/
def forks (w : ForkWorld) : List ForkEvent → List ForkRecord
  | [] => []
  | e :: rest => (w.forkOf? e).toList ++ (w.step e).forks rest

/-- The forks that lead from the root to a process, in their order. -/
inductive Descends (forks : List ForkRecord) : Nat → List ForkRecord → Prop where
  | root : Descends forks 0 []
  | forked {f : ForkRecord} {path : List ForkRecord} (inside : f ∈ forks)
      (above : Descends forks f.creator path) : Descends forks f.made (path ++ [f])

/-- The count that a process starts with: the one that its creator had when it forked. -/
def inherited (path : List ForkRecord) : Nat :=
  (path.getLast?.map (·.knew.forksObserved)).getD 0

/-- How many forks the main thread of a process made while the hooks were installed. -/
def observedIn (forks : List ForkRecord) (process : Nat) : Nat :=
  forks.countP fun f =>
    f.creator = process ∧ f.knew.installed = true ∧ f.knew.mainThread = some f.thread

section Records

variable {forks more : List ForkRecord} {i : Nat} {path : List ForkRecord}

/-- A path is empty and leads to the root, or ends with the fork that made its process. -/
theorem descends_iff :
    Descends forks i path ↔
      (i = 0 ∧ path = []) ∨
        ∃ f ∈ forks, ∃ above, f.made = i ∧ Descends forks f.creator above ∧
          path = above ++ [f] := by
  constructor
  · intro descends
    cases descends with
    | root => exact .inl ⟨rfl, rfl⟩
    | forked inside above => exact .inr ⟨_, inside, _, rfl, above, rfl⟩
  · rintro (⟨rfl, rfl⟩ | ⟨f, inside, above, rfl, descends, rfl⟩)
    · exact .root
    · exact .forked inside descends

/-- Later forks change no path. -/
theorem Descends.append (descends : Descends forks i path) (more : List ForkRecord) :
    Descends (forks ++ more) i path := by
  induction descends with
  | root => exact .root
  | forked inside above ih => exact .forked (List.mem_append_left _ inside) ih

theorem observedIn_append (forks more : List ForkRecord) (i : Nat) :
    observedIn (forks ++ more) i = observedIn forks i + observedIn more i :=
  List.countP_append

/-- What one fork adds to the count of a process. -/
theorem observedIn_singleton (f : ForkRecord) (i : Nat) :
    observedIn [f] i = if f.creator = i then (f.knew.observes f.thread).toNat else 0 := by
  rw [observedIn, List.countP_singleton, ForkProcess.observes, ForkProcess.isRecordedMain]
  by_cases same : f.creator = i
  · by_cases main : f.knew.mainThread = some f.thread
    · cases f.knew.installed <;> simp [same, main]
    · simp [same, main, beq_eq_false_iff_ne.2 main]
  · simp [same]

/-- A process whose forks all came later has no count of its own. -/
theorem observedIn_eq_zero (absent : ∀ f ∈ forks, f.creator ≠ i) : observedIn forks i = 0 := by
  refine List.countP_eq_zero.2 fun f inside => ?_
  simp [absent f inside]

end Records

/-! ## Runs -/

/-- What is known of a process is what the forks account for. -/
structure Accounts (forks : List ForkRecord) (i : Nat) (p : ForkProcess) : Prop where
  tracked : p.Tracked
  path : ∃ path, Descends forks i path ∧
    (p.wasForked = true ↔ ∃ f ∈ path, f.knew.installed = true) ∧
    p.forksObserved = inherited path + observedIn forks i

/-- The processes of a world are those that the forks have made, the root apart, and the forks
account for each of them. -/
structure Explains (forks : List ForkRecord) (w : ForkWorld) : Prop where
  made : forks.map ForkRecord.made = List.range' 1 forks.length
  older : ∀ f ∈ forks, f.creator < f.made
  size : w.processes.length = forks.length + 1
  accounts : ∀ i p, w.processes[i]? = some p → Accounts forks i p.state

section Runs

variable {forks : List ForkRecord} {w : ForkWorld}

theorem explains_initial : Explains [] {} := by
  refine ⟨rfl, fun f none => absurd none List.not_mem_nil, rfl, fun i p found => ?_⟩
  -- the only process is the root
  have root : i = 0 ∧ p = {} := by
    cases i with
    | zero => exact ⟨rfl, (Option.some.inj found).symm⟩
    | succ i => cases found
  obtain ⟨rfl, rfl⟩ := root
  refine ⟨ForkProcess.tracked_initial, [], .root, ?_, rfl⟩
  constructor
  · intro marked
    cases marked
  · rintro ⟨f, none, -⟩
    cases none

theorem Explains.made_bounds (explains : Explains forks w) {f : ForkRecord} (inside : f ∈ forks) :
    0 < f.made ∧ f.made < w.processes.length := by
  have numbered : f.made ∈ List.range' 1 forks.length :=
    explains.made ▸ List.mem_map_of_mem inside
  have size := explains.size
  obtain ⟨k, below, made⟩ := List.mem_range'.1 numbered
  omega

/-- No two forks make the same process. -/
theorem Explains.eq_of_made (explains : Explains forks w) {f g : ForkRecord} (hf : f ∈ forks)
    (hg : g ∈ forks) (same : f.made = g.made) : f = g := by
  have nodup : (forks.map ForkRecord.made).Nodup := by
    rw [explains.made]
    exact List.nodup_range'
  exact List.inj_on_of_nodup_map nodup hf hg same

/-- One path leads to a process. -/
theorem Explains.path_unique (explains : Explains forks w) {i : Nat} {path other : List ForkRecord}
    (descends : Descends forks i path) (also : Descends forks i other) : other = path := by
  induction descends generalizing other with
  | root =>
    rcases descends_iff.1 also with ⟨-, rfl⟩ | ⟨f, inside, above, made, -, -⟩
    · rfl
    · have bounds := explains.made_bounds inside
      omega
  | @forked f path inside above ih =>
    rcases descends_iff.1 also with ⟨root, -⟩ | ⟨g, inside', above', made, descends', rfl⟩
    · have bounds := explains.made_bounds inside
      omega
    · obtain rfl := explains.eq_of_made inside' inside made
      rw [ih descends']

/-- A process that is put in the place of another with the same marks and counts is accounted
for. -/
theorem Accounts.of_kept {i : Nat} {p q : ForkProcess} (accounts : Accounts forks i p)
    (tracked : q.Tracked)
    (kept : q.wasForked = p.wasForked ∧ q.forksObserved = p.forksObserved) :
    Accounts forks i q := by
  obtain ⟨-, path, descends, marked, count⟩ := accounts
  exact ⟨tracked, path, descends, kept.1 ▸ marked, kept.2 ▸ count⟩

/-- A world in which one process is replaced by one that is accounted for. -/
theorem Explains.set (explains : Explains forks w) {i : Nat} {q : WorldProcess}
    (accounts : Accounts forks i q.state) : Explains forks ⟨w.processes.set i q⟩ := by
  refine ⟨explains.made, explains.older, ?_, fun j r found => ?_⟩
  · rw [List.length_set]
    exact explains.size
  · by_cases same : i = j
    · subst same
      rw [List.getElem?_set_self'] at found
      obtain ⟨_, -, rfl⟩ := Option.map_eq_some_iff.1 found
      exact accounts
    · rw [List.getElem?_set_ne same] at found
      exact explains.accounts j r found

/-- What an event does: nothing, an action that makes no process, or a fork. -/
theorem step_cases (w : ForkWorld) (e : ForkEvent) :
    (w.forkOf? e = none ∧ w.step e = w) ∨
      (∃ p, w.processes[e.process]? = some p ∧ w.forkOf? e = none ∧ e.action ≠ .fork ∧
        w.step e = ⟨w.processes.set e.process (p.act e.thread e.action).1⟩) ∨
      ∃ p, w.processes[e.process]? = some p ∧
        w.forkOf? e = some ⟨e.process, e.thread, p.state, w.processes.length⟩ ∧
        w.step e = ⟨w.processes.set e.process { p with state := (p.state.fork e.thread).1 } ++
          [⟨(p.state.fork e.thread).2, [e.thread], p.nextThread⟩]⟩ := by
  unfold forkOf? step
  cases w.processes[e.process]? with
  | none => exact .inl ⟨rfl, rfl⟩
  | some p =>
    by_cases alive : p.threads.contains e.thread = true
    · simp only [alive, true_and, if_true]
      cases e.action with
      | fork => exact .inr (.inr ⟨p, rfl, rfl, rfl⟩)
      | initThread =>
        exact .inr (.inl ⟨p, rfl, rfl, nofun, congrArg _ (List.append_nil _)⟩)
      | setupHandlers refusal =>
        exact .inr (.inl ⟨p, rfl, rfl, nofun, congrArg _ (List.append_nil _)⟩)
      | spawnThread =>
        exact .inr (.inl ⟨p, rfl, rfl, nofun, congrArg _ (List.append_nil _)⟩)
    · exact .inl ⟨if_neg fun both => alive both.1, if_neg alive⟩

/-- An action that makes no process leaves a process accounted for. -/
theorem Accounts.act {i : Nat} {p : WorldProcess} (accounts : Accounts forks i p.state)
    (thread : ThreadId) {action : ForkAction} (quiet : action ≠ .fork) :
    Accounts forks i (p.act thread action).1.state := by
  cases action with
  | initThread =>
    exact accounts.of_kept (accounts.tracked.initThread thread) (p.state.initThread_kept thread)
  | setupHandlers refusal =>
    exact accounts.of_kept (accounts.tracked.setupHandlers refusal)
      (p.state.setupHandlers_kept refusal)
  | spawnThread => exact accounts
  | fork => exact absurd rfl quiet

/-- A fork adds to the count of its creator, and leaves what is known of every process else as it
is. -/
theorem Accounts.after_fork {i : Nat} {p q : ForkProcess} (accounts : Accounts forks i p)
    (f : ForkRecord) (tracked : q.Tracked) (marked : q.wasForked = p.wasForked)
    (counted : q.forksObserved = p.forksObserved + observedIn [f] i) :
    Accounts (forks ++ [f]) i q := by
  obtain ⟨-, path, descends, marks, count⟩ := accounts
  refine ⟨tracked, path, descends.append [f], marked ▸ marks, ?_⟩
  rw [counted, count, observedIn_append, Nat.add_assoc]

/-- The process that a fork makes has one fork more on its path, and none of its own. -/
theorem Accounts.made {f : ForkRecord} (accounts : Accounts forks f.creator f.knew)
    (older : ∀ g ∈ forks ++ [f], g.creator ≠ f.made) :
    Accounts (forks ++ [f]) f.made (f.knew.fork f.thread).2 := by
  obtain ⟨tracked, path, descends, marks, -⟩ := accounts
  have last : f ∈ forks ++ [f] := List.mem_append_right _ (List.mem_singleton_self f)
  rw [tracked.fork_eq]
  refine ⟨tracked.of_same rfl rfl rfl, path ++ [f],
    .forked last (descends.append [f]), ?_, ?_⟩
  · rw [Bool.or_eq_true, marks]
    simp only [List.mem_append, List.mem_singleton, or_and_right, exists_or, exists_eq_left]
  · rw [observedIn_eq_zero older, inherited, List.getLast?_concat]
    rfl

/-- A fork of a process of the world. -/
theorem Explains.fork (explains : Explains forks w) {i : Nat} {p : WorldProcess}
    (found : w.processes[i]? = some p) (thread : ThreadId) :
    Explains (forks ++ [⟨i, thread, p.state, w.processes.length⟩])
      ⟨w.processes.set i { p with state := (p.state.fork thread).1 } ++
        [⟨(p.state.fork thread).2, [thread], p.nextThread⟩]⟩ := by
  have accounts := explains.accounts i p found
  have size := explains.size
  have inside : i < w.processes.length := (List.getElem?_eq_some_iff.1 found).1
  have older (g : ForkRecord) (member : g ∈ forks ++ [⟨i, thread, p.state, w.processes.length⟩]) :
      g.creator < g.made ∧ g.creator < w.processes.length := by
    rcases List.mem_append.1 member with before | last
    · have younger := explains.older g before
      have bounds := explains.made_bounds before
      omega
    · obtain rfl := List.mem_singleton.1 last
      exact ⟨inside, inside⟩
  refine ⟨?_, fun g member => (older g member).1, ?_, fun j r reached => ?_⟩
  · rw [List.map_append, explains.made, List.length_append, List.length_singleton,
      List.range'_1_concat, List.map_singleton, size, Nat.add_comm]
  · rw [List.length_append, List.length_set, List.length_singleton, List.length_append, size]
    rfl
  · dsimp only at reached
    rcases Nat.lt_or_ge j w.processes.length with old | new
    · rw [List.getElem?_append_left (by rwa [List.length_set])] at reached
      by_cases same : i = j
      · -- the parent
        subst same
        rw [List.getElem?_set_self inside] at reached
        obtain rfl := Option.some.inj reached
        refine accounts.after_fork _ ?_ ?_ ?_
        · rw [accounts.tracked.fork_eq]
          exact accounts.tracked.of_same rfl rfl rfl
        · rw [accounts.tracked.fork_eq]
        · rw [accounts.tracked.fork_eq, observedIn_singleton, if_pos rfl]
      · -- a process that has no part in the fork
        rw [List.getElem?_set_ne same] at reached
        have others := explains.accounts j r reached
        refine others.after_fork _ others.tracked rfl ?_
        rw [observedIn_singleton, if_neg same, Nat.add_zero]
    · -- the child
      rw [List.getElem?_append_right (by rwa [List.length_set]), List.length_set,
        List.getElem?_singleton] at reached
      obtain ⟨last, child⟩ := Option.ite_none_right_eq_some.1 reached
      obtain rfl := Option.some.inj child
      obtain rfl : j = w.processes.length := by omega
      exact accounts.made fun g member => Nat.ne_of_lt (older g member).2

/-- The forks so far and the fork that an event is account for the world after the event. -/
theorem Explains.step (explains : Explains forks w) (e : ForkEvent) :
    Explains (forks ++ (w.forkOf? e).toList) (w.step e) := by
  rcases step_cases w e with ⟨same, after⟩ | ⟨p, found, same, quiet, after⟩ |
    ⟨p, found, fork, after⟩
  · rw [same, after, Option.toList_none, List.append_nil]
    exact explains
  · rw [same, after, Option.toList_none, List.append_nil]
    exact explains.set ((explains.accounts _ p found).act e.thread quiet)
  · rw [fork, after, Option.toList_some]
    exact explains.fork found e.thread

/-- The forks of a run account for the world that it leads to. -/
theorem Explains.run (explains : Explains forks w) (events : List ForkEvent) :
    Explains (forks ++ w.forks events) (w.run events) := by
  induction events generalizing forks w with
  | nil => exact (List.append_nil forks).symm ▸ explains
  | cons e rest ih =>
    have after := ih (explains.step e)
    rw [List.append_assoc] at after
    exact after

end Runs

theorem forks_append (w : ForkWorld) (events more : List ForkEvent) :
    w.forks (events ++ more) = w.forks events ++ (w.run events).forks more := by
  induction events generalizing w with
  | nil => rfl
  | cons e rest ih => exact (congrArg _ (ih (w.step e))).trans (List.append_assoc _ _ _).symm

/-- In every run, whatever the platform refuses in it, one path of forks leads to a process. The
process is marked as forked exactly if some process on that path had the hooks installed when it
forked, and stays marked whatever happens then. It has observed the forks that its creator had
observed when it forked, none if it is the root, and the forks that its own main thread made while
the hooks were installed. -/
theorem fork_history_exact (events : List ForkEvent) {i : Nat} {p : WorldProcess}
    (found : (run {} events).processes[i]? = some p) :
    ∃ path, Descends (forks {} events) i path ∧
      (∀ other, Descends (forks {} events) i other → other = path) ∧
      (p.state.wasForked = true ↔ ∃ f ∈ path, f.knew.installed = true) ∧
      p.state.forksObserved = inherited path + observedIn (forks {} events) i ∧
      ∀ more, ∃ q, (run {} (events ++ more)).processes[i]? = some q ∧
        (p.state.wasForked = true → q.state.wasForked = true) := by
  have explains : Explains (forks {} events) (run {} events) := explains_initial.run events
  obtain ⟨-, path, descends, marked, count⟩ := explains.accounts i p found
  refine ⟨path, descends, fun other also => explains.path_unique descends also, marked, count,
    fun more => ?_⟩
  have later : Explains (forks {} (events ++ more)) (run {} (events ++ more)) :=
    explains_initial.run (events ++ more)
  have inside : i < (run {} (events ++ more)).processes.length := by
    have before := (List.getElem?_eq_some_iff.1 found).1
    have size := explains.size
    have size' := later.size
    rw [forks_append, List.length_append] at size'
    omega
  refine ⟨_, List.getElem?_eq_getElem inside, fun forked => ?_⟩
  -- the path of the process has not changed
  obtain ⟨-, path', descends', marked', -⟩ :=
    later.accounts i _ (List.getElem?_eq_getElem inside)
  have kept := descends.append ((run {} events).forks more)
  rw [← forks_append] at kept
  obtain rfl := later.path_unique kept descends'
  exact marked'.2 (marked.1 forked)

/-- A run in which the platform refuses the hooks before process 1 is made, and takes them after
that, although they are offered twice more. Process 2 is made by a thread that is not the main one.
Process 4 is made after the root has observed a fork, and forks in turn. -/
def mixedRun : List ForkEvent :=
  [⟨0, 0, .initThread⟩, ⟨0, 0, .setupHandlers (some .outOfMemory)⟩, ⟨0, 0, .fork⟩,
    ⟨0, 0, .setupHandlers none⟩, ⟨0, 0, .setupHandlers none⟩, ⟨0, 0, .spawnThread⟩, ⟨0, 1, .fork⟩, ⟨0, 0, .fork⟩, ⟨0, 0, .fork⟩, ⟨4, 0, .fork⟩,
    ⟨1, 0, .fork⟩]

theorem fork_history_exact_mixed :
    ∃ p, (run {} mixedRun).processes[4]? = some p ∧ p.state.wasForked = true ∧
      p.state.forksObserved = 2 ∧
      ∃ path, Descends (forks {} mixedRun) 4 path ∧
        (∀ other, Descends (forks {} mixedRun) 4 other → other = path) ∧
        (p.state.wasForked = true ↔ ∃ f ∈ path, f.knew.installed = true) ∧
        p.state.forksObserved = inherited path + observedIn (forks {} mixedRun) 4 ∧
        ∀ more, ∃ q, (run {} (mixedRun ++ more)).processes[4]? = some q ∧
          (p.state.wasForked = true → q.state.wasForked = true) :=
  ⟨_, rfl, rfl, rfl, fork_history_exact mixedRun rfl⟩

end ForkWorld

end SessionHandoff
