import Mathlib.Data.List.Nodup
import SessionHandoff.Proofs.Children.Run

/-!
# Collected statuses

What is collected between two tables of children is a list of statuses, each of a child of its own
(`ChildTable.Collects`). Such lists are appended where two steps follow each other
(`ChildTable.Collects.trans`), so no status is collected twice along a run
(`ChildRegistry.collects_steps`).

Polling the children that are held keeps those that run and collects the others
(`ChildRegistry.pollAll_held`, `ChildRegistry.collected_pollAll`). Waiting for them collects them
all, provided that none has been collected before (`ChildRegistry.waitEach_of_owed`).
-/

set_option autoImplicit false

namespace SessionHandoff

/-! ## One child -/

namespace ChildPhase

/-- The status that the child exits with, or has exited with. -/
def status : ChildPhase → ExitStatus
  | .running s | .exited s | .collected _ s => s

end ChildPhase

namespace ChildTable

variable {table : ChildTable} {child other : ChildId}

/-- The child was started, and nobody has collected its status. -/
def Owed (table : ChildTable) (child : ChildId) : Prop :=
  child < table.length ∧ ¬ table.Collected child

/-- Whether the child runs. -/
def runs (table : ChildTable) (child : ChildId) : Bool :=
  table[child]?.any ChildPhase.isRunning

theorem runs_iff : table.runs child = true ↔ ∃ fate, table[child]? = some (.running fate) := by
  unfold runs
  cases table[child]? with
  | none => simp
  | some phase => cases phase <;> simp [ChildPhase.isRunning]

theorem owed_of_found {phase : ChildPhase} (found : table[child]? = some phase)
    (uncollected : ∀ who status, phase ≠ .collected who status) : table.Owed child := by
  refine ⟨(List.getElem?_eq_some_iff.1 found).1, ?_⟩
  rintro ⟨who, status, collected⟩
  rw [found] at collected
  exact uncollected who status (Option.some.inj collected)

theorem owed_of_exited {status : ExitStatus} (found : table[child]? = some (.exited status)) :
    table.Owed child := by
  apply owed_of_found found
  intro who s same
  cases same

/-- A child that runs is owed. -/
theorem owed_of_runs (running : table.runs child = true) : table.Owed child := by
  obtain ⟨fate, found⟩ := runs_iff.1 running
  apply owed_of_found found
  intro who s same
  cases same

/-- What waiting for a child answers. -/
theorem wait_answer (table : ChildTable) (child : ChildId) :
    (¬ table.Owed child ∧ table.wait child = (.error .noChild, table)) ∨
      ∃ phase, table[child]? = some phase ∧ table.Owed child ∧
        table.wait child =
          (.ok phase.status, table.modify child (ChildPhase.collectedBy .registry)) := by
  unfold wait Owed Collected
  cases found : table[child]? with
  | none =>
    refine .inl ⟨?_, rfl⟩
    rintro ⟨known, -⟩
    exact Nat.not_le_of_lt known (List.getElem?_eq_none_iff.1 found)
  | some phase =>
    have known : child < table.length := (List.getElem?_eq_some_iff.1 found).1
    cases phase with
    | running s => exact .inr ⟨_, rfl, ⟨known, by simp⟩, rfl⟩
    | exited s => exact .inr ⟨_, rfl, ⟨known, by simp⟩, rfl⟩
    | collected who s => exact .inl ⟨by simp, rfl⟩

/-- What polling a child answers. -/
theorem poll_answer (table : ChildTable) (child : ChildId) :
    (table.runs child = true ∧ table.poll child = (.ok none, table)) ∨
      (∃ s, table[child]? = some (.exited s) ∧ table.poll child =
        (.ok (some s), table.modify child (ChildPhase.collectedBy .registry))) ∨
      (table.runs child = false ∧ ¬ table.Owed child ∧
        table.poll child = (.error .noChild, table)) := by
  unfold poll runs Owed Collected
  cases found : table[child]? with
  | none =>
    refine .inr (.inr ⟨rfl, ?_, rfl⟩)
    rintro ⟨known, -⟩
    exact Nat.not_le_of_lt known (List.getElem?_eq_none_iff.1 found)
  | some phase =>
    cases phase with
    | running s => exact .inl ⟨rfl, rfl⟩
    | exited s => exact .inr (.inl ⟨s, rfl, rfl⟩)
    | collected who s => exact .inr (.inr ⟨rfl, by simp, rfl⟩)

/-! ## What is collected between two tables -/

/-- Somebody has collected this status of the child. -/
def CollectedAs (table : ChildTable) (child : ChildId) (status : ExitStatus) : Prop :=
  ∃ who, table[child]? = some (.collected who status)

theorem collected_iff : table.Collected child ↔ ∃ status, table.CollectedAs child status :=
  exists_comm

theorem CollectedAs.collected {status : ExitStatus} (done : table.CollectedAs child status) :
    table.Collected child :=
  collected_iff.2 ⟨status, done⟩

theorem CollectedAs.eq {s s' : ExitStatus} (one : table.CollectedAs child s)
    (other : table.CollectedAs child s') : s = s' := by
  obtain ⟨who, found⟩ := one
  obtain ⟨who', found'⟩ := other
  rw [found] at found'
  cases found'
  rfl

/-- From one table to another these statuses were collected, each of a child of its own, and
statuses that had been collected before stayed as they were. -/
structure Collects (before after : ChildTable) (taken : List (ChildId × ExitStatus)) : Prop where
  nodup : (taken.map Prod.fst).Nodup
  mem_iff : ∀ child status,
    (child, status) ∈ taken ↔ ¬ before.Collected child ∧ after.CollectedAs child status
  keeps : ∀ child status, before.CollectedAs child status → after.CollectedAs child status

theorem Collects.collected {before after : ChildTable} {taken : List (ChildId × ExitStatus)}
    (collects : Collects before after taken) (done : before.Collected child) :
    after.Collected child := by
  obtain ⟨status, found⟩ := collected_iff.1 done
  exact (collects.keeps child status found).collected

/-- Where nothing was collected, the same children are collected before and after. -/
theorem Collects.collected_iff_of_nil {before after : ChildTable}
    (collects : Collects before after []) : after.Collected child ↔ before.Collected child := by
  constructor
  · intro done
    by_contra owed
    obtain ⟨status, found⟩ := collected_iff.1 done
    cases (collects.mem_iff child status).2 ⟨owed, found⟩
  · exact collects.collected

/-- Nothing is collected where the same statuses are collected before and after. -/
theorem collects_nil {before after : ChildTable}
    (same : ∀ child status, after.CollectedAs child status ↔ before.CollectedAs child status) :
    Collects before after [] := by
  constructor
  · exact List.nodup_nil
  · intro child status
    constructor
    · intro none
      cases none
    · rintro ⟨owed, done⟩
      exact absurd ((same child status).1 done).collected owed
  · intro child status done
    exact (same child status).2 done

/-- What is collected on the way to a table and from there on. -/
theorem Collects.trans {first second third : ChildTable}
    {taken more : List (ChildId × ExitStatus)} (one : Collects first second taken)
    (two : Collects second third more) : Collects first third (taken ++ more) := by
  constructor
  · rw [List.map_append]
    refine List.nodup_append.2 ⟨one.nodup, two.nodup, ?_⟩
    -- a child whose status is taken first is not owed when the rest is taken
    rintro child inside other inside' rfl
    obtain ⟨⟨child, status⟩, member, rfl⟩ := List.mem_map.1 inside
    obtain ⟨⟨child', status'⟩, member', same⟩ := List.mem_map.1 inside'
    obtain rfl : child' = child := same
    have done := ((one.mem_iff child' status).1 member).2
    have owed := ((two.mem_iff child' status').1 member').1
    exact owed done.collected
  · intro child status
    rw [List.mem_append, one.mem_iff, two.mem_iff]
    constructor
    · rintro (⟨owed, done⟩ | ⟨owed, done⟩)
      · exact ⟨owed, two.keeps child status done⟩
      · exact ⟨fun already => owed (one.collected already), done⟩
    · rintro ⟨owed, done⟩
      by_cases between : second.Collected child
      · obtain ⟨status', found⟩ := collected_iff.1 between
        obtain rfl := (two.keeps child status' found).eq done
        exact .inl ⟨owed, found⟩
      · exact .inr ⟨between, done⟩
  · intro child status done
    exact two.keeps child status (one.keeps child status done)

/-- A change of one child that neither makes nor changes a collected status. -/
theorem collects_modify {change : ChildPhase → ChildPhase}
    (same : ∀ phase who status,
      change phase = .collected who status ↔ phase = .collected who status) :
    Collects table (table.modify child change) [] := by
  apply collects_nil
  intro other status
  unfold CollectedAs
  rw [List.getElem?_modify]
  split
  · simp [same]
  · simp

/-- A new child that runs. -/
theorem collects_start (fate : ExitStatus) : Collects table (table.start fate).2 [] := by
  apply collects_nil
  intro other status
  unfold CollectedAs start
  dsimp only
  rw [List.getElem?_append]
  split
  · exact Iff.rfl
  · rename_i beyond
    rw [List.getElem?_eq_none (Nat.not_lt.1 beyond), List.getElem?_singleton]
    split <;> simp

/-- Somebody collects a child that is owed. -/
theorem collects_collect {phase : ChildPhase} (found : table[child]? = some phase)
    (owed : table.Owed child) (who : Collector) :
    Collects table (table.modify child (ChildPhase.collectedBy who)) [(child, phase.status)] := by
  have collectedNow : CollectedAs (table.modify child (ChildPhase.collectedBy who)) child
      phase.status := by
    unfold CollectedAs
    rw [List.getElem?_modify_eq, found]
    cases phase with
    | running s => exact ⟨who, rfl⟩
    | exited s => exact ⟨who, rfl⟩
    | collected who' s => exact ⟨who', rfl⟩
  constructor
  · exact List.nodup_singleton child
  · intro other status
    rw [List.mem_singleton]
    constructor
    · intro same
      cases same
      exact ⟨owed.2, collectedNow⟩
    · rintro ⟨owed', done⟩
      by_cases same : child = other
      · subst same
        rw [done.eq collectedNow]
      · have before := (collected_modify_of_ne _ same).1 done.collected
        exact absurd before owed'
  · intro other status done
    have apart : child ≠ other := by
      rintro rfl
      exact owed.2 done.collected
    unfold CollectedAs
    rw [List.getElem?_modify_ne _ _ apart]
    exact done

/-- Nobody can collect a child that is not owed. -/
theorem modify_of_not_owed (not : ¬ table.Owed child) (who : Collector) :
    table.modify child (ChildPhase.collectedBy who) = table := by
  apply List.ext_getElem?
  intro i
  rw [List.getElem?_modify]
  split
  · rename_i same
    subst same
    cases found : table[child]? with
    | none => rfl
    | some phase =>
      cases phase with
      | running s =>
        have runs : table.runs child = true := runs_iff.2 ⟨s, found⟩
        exact absurd (owed_of_runs runs) not
      | exited s => exact absurd (owed_of_exited found) not
      | collected who' s => rfl
  · simp

end ChildTable

/-! ## What the registry collects -/

namespace ChildRegistry

open ChildTable

variable {table : ChildTable} {child : ChildId}

/-- The statuses that polling children in order collects. -/
def statusesPolled (table : ChildTable) : List ChildId → List (ChildId × ExitStatus)
  | [] => []
  | child :: rest =>
    let polled := table.poll child
    let others := statusesPolled polled.2 rest
    match polled.1 with
    | .ok (some status) => (child, status) :: others
    | _ => others

/-- The statuses that waiting for children in order collects. -/
def statusesWaited (table : ChildTable) : List ChildId → List (ChildId × ExitStatus)
  | [] => []
  | child :: rest =>
    match table.wait child with
    | (.error _, _) => []
    | (.ok status, table') => (child, status) :: statusesWaited table' rest

theorem collects_pollAll (table : ChildTable) (held : List ChildId) :
    Collects table (pollAll table held).2.1 (statusesPolled table held) := by
  induction held generalizing table with
  | nil => exact collects_nil fun _ _ => Iff.rfl
  | cons child rest ih =>
    unfold pollAll statusesPolled
    rcases poll_answer table child with ⟨-, answered⟩ | ⟨s, found, answered⟩ | ⟨-, -, answered⟩
    · rw [answered]
      exact ih table
    · rw [answered]
      have owed : table.Owed child := owed_of_exited found
      exact (collects_collect found owed .registry).trans (ih _)
    · rw [answered]
      exact ih table

theorem collects_waitEach (table : ChildTable) (held : List ChildId) :
    Collects table (waitEach table held).2 (statusesWaited table held) := by
  induction held generalizing table with
  | nil => exact collects_nil fun _ _ => Iff.rfl
  | cons child rest ih =>
    unfold waitEach statusesWaited
    rcases wait_answer table child with ⟨-, answered⟩ | ⟨phase, found, owed, answered⟩
    · rw [answered]
      exact collects_nil fun _ _ => Iff.rfl
    · rw [answered]
      exact (collects_collect found owed .registry).trans (ih _)

/-- The statuses that are collected when an event happens. -/
def collected (r : ChildRegistry) : RegistryEvent → List (ChildId × ExitStatus)
  | .counted | .asked => statusesPolled r.table r.held
  | .waited => statusesWaited r.table r.held
  | .reaped child => statusesWaited r.table [child]
  | .registered _ | .finished _ | .killed _ _ => []

/-- The statuses that are collected along events, in their order. -/
def collections (r : ChildRegistry) : List RegistryEvent → List (ChildId × ExitStatus)
  | [] => []
  | e :: rest => r.collected e ++ (r.step e).collections rest

theorem collects_step (r : ChildRegistry) (e : RegistryEvent) :
    Collects r.table (r.step e).table (r.collected e) := by
  cases e with
  | registered fate => exact collects_start fate
  | counted => exact collects_pollAll r.table r.held
  | asked => exact collects_pollAll r.table r.held
  | waited => exact collects_waitEach r.table r.held
  | finished child =>
    apply collects_modify
    intro phase who status
    cases phase <;> simp [ChildPhase.finished]
  | killed child signal =>
    apply collects_modify
    intro phase who status
    cases phase <;> simp [ChildPhase.killed]
  | reaped child =>
    show Collects r.table (r.table.modify child (ChildPhase.collectedBy .other))
      (statusesWaited r.table [child])
    unfold statusesWaited
    rcases wait_answer r.table child with ⟨not, answered⟩ | ⟨phase, found, owed, answered⟩
    · rw [answered, modify_of_not_owed not]
      exact collects_nil fun _ _ => Iff.rfl
    · rw [answered]
      exact collects_collect found owed .other

/-- Along every run each status is collected once, and those are the statuses collected in the
end. -/
theorem collects_steps (r : ChildRegistry) (events : List RegistryEvent) :
    Collects r.table (events.foldl step r).table (r.collections events) := by
  induction events generalizing r with
  | nil => exact collects_nil fun _ _ => Iff.rfl
  | cons e rest ih => exact (collects_step r e).trans (ih (r.step e))

/-! ## Polling and waiting for those held -/

/-- Polling a child leaves running what runs, and nothing else. -/
theorem runs_poll (table : ChildTable) (child other : ChildId) :
    (table.poll child).2.runs other = table.runs other := by
  rcases poll_answer table child with ⟨-, answered⟩ | ⟨s, found, answered⟩ | ⟨-, -, answered⟩
  · rw [answered]
  · rw [answered]
    unfold runs
    dsimp only
    rw [List.getElem?_modify]
    split
    · rename_i same
      subst same
      rw [found]
      rfl
    · simp
  · rw [answered]

theorem length_waitEach (table : ChildTable) (held : List ChildId) :
    (waitEach table held).2.length = table.length := by
  induction held generalizing table with
  | nil => rfl
  | cons child rest ih =>
    unfold waitEach
    rcases wait_answer table child with ⟨-, answered⟩ | ⟨phase, -, -, answered⟩
    · rw [answered]
    · rw [answered]
      exact (ih _).trans (List.length_modify ..)

/-- Polling keeps those that run. -/
theorem pollAll_held (table : ChildTable) (held : List ChildId) :
    (pollAll table held).1 = held.filter table.runs := by
  induction held generalizing table with
  | nil => rfl
  | cons child rest ih =>
    have others := ih (table.poll child).2
    have same : (table.poll child).2.runs = table.runs := funext (runs_poll table child)
    rw [same] at others
    unfold pollAll
    rw [List.filter_cons]
    rcases poll_answer table child with
      ⟨running, answered⟩ | ⟨s, found, answered⟩ | ⟨ended, -, answered⟩
    · rw [running, if_pos rfl, ← others, answered]
    · have ended : table.runs child = false := by
        unfold runs
        rw [found]
        rfl
      rw [ended, if_neg Bool.false_ne_true, ← others, answered]
    · rw [ended, if_neg Bool.false_ne_true, ← others, answered]

theorem runs_pollAll (table : ChildTable) (held : List ChildId) :
    (pollAll table held).2.1.runs = table.runs := by
  induction held generalizing table with
  | nil => rfl
  | cons child rest ih =>
    have others := (ih (table.poll child).2).trans (funext (runs_poll table child))
    unfold pollAll
    rcases poll_answer table child with ⟨-, answered⟩ | ⟨s, -, answered⟩ | ⟨-, -, answered⟩
    · rw [answered] at others ⊢
      exact others
    · rw [answered] at others ⊢
      exact others
    · rw [answered] at others ⊢
      exact others

/-- After polling, a polled child runs or has been collected. -/
theorem collected_pollAll {held : List ChildId} (inside : child ∈ held)
    (known : child < table.length) (ended : table.runs child = false) :
    (pollAll table held).2.1.Collected child := by
  induction held generalizing table with
  | nil => cases inside
  | cons first rest ih =>
    have others := collects_pollAll (table.poll first).2 rest
    have later : child ∈ rest → (pollAll (table.poll first).2 rest).2.1.Collected child := by
      intro inside
      refine ih inside ?_ ?_
      · rw [length_poll]
        exact known
      · rw [runs_poll]
        exact ended
    unfold pollAll
    rcases poll_answer table first with
      ⟨running, answered⟩ | ⟨s, -, answered⟩ | ⟨-, not, answered⟩
    · rw [answered] at later ⊢
      rcases List.mem_cons.1 inside with rfl | inside
      · rw [running] at ended
        cases ended
      · exact later inside
    · rw [answered] at others later ⊢
      rcases List.mem_cons.1 inside with rfl | inside
      · exact others.collected (collected_collect .registry known)
      · exact later inside
    · rw [answered] at others later ⊢
      rcases List.mem_cons.1 inside with rfl | inside
      · by_contra owed
        exact not ⟨known, fun done => owed (others.collected done)⟩
      · exact later inside

/-- Waiting for children of whom all are owed, each once, collects all of them and returns their
statuses in order. -/
theorem waitEach_of_owed {held : List ChildId} (nodup : held.Nodup)
    (owed : ∀ child ∈ held, table.Owed child) :
    ∃ statuses, (waitEach table held).1 = .ok statuses ∧
      statuses.map some = held.map (fun child => table[child]?.map ChildPhase.status) ∧
      statusesWaited table held = held.zip statuses ∧
      ∀ child ∈ held, (waitEach table held).2.Collected child := by
  induction held generalizing table with
  | nil => exact ⟨[], rfl, rfl, rfl, fun _ none => absurd none List.not_mem_nil⟩
  | cons child rest ih =>
    rw [List.nodup_cons] at nodup
    have first := owed child List.mem_cons_self
    unfold waitEach statusesWaited
    rcases wait_answer table child with ⟨not, -⟩ | ⟨phase, found, -, answered⟩
    · exact absurd first not
    · rw [answered]
      have apart : ∀ other ∈ rest, child ≠ other := by
        rintro other inside rfl
        exact nodup.1 inside
      have stillOwed : ∀ other ∈ rest,
          Owed (table.modify child (ChildPhase.collectedBy .registry)) other := by
        intro other inside
        obtain ⟨known, uncollected⟩ := owed other (List.mem_cons_of_mem _ inside)
        rw [← collected_modify_of_ne (ChildPhase.collectedBy .registry) (apart other inside)]
          at uncollected
        exact ⟨by rwa [List.length_modify], uncollected⟩
      obtain ⟨statuses, result, same, taken, done⟩ := ih nodup.2 stillOwed
      refine ⟨phase.status :: statuses, ?_, ?_, ?_, ?_⟩
      · exact congrArg (Except.map (phase.status :: ·)) result
      · rw [List.map_cons, List.map_cons, found, same]
        refine congrArg _ (List.map_congr_left fun other inside => ?_)
        rw [List.getElem?_modify_ne _ _ (apart other inside)]
      · exact congrArg ((child, phase.status) :: ·) taken
      · intro other inside
        rcases List.mem_cons.1 inside with rfl | inside
        · exact (collects_waitEach _ rest).collected (collected_collect .registry first.1)
        · exact done other inside

end ChildRegistry

end SessionHandoff
