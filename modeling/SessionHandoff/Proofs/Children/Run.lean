import SessionHandoff.Children.Registry

/-!
# Runs of the registry

A registry and the children it draws on change by events: the owner registers, counts or waits, a
child comes to its end or is ended by a signal, and somebody else collects a status. A run is a list
of events from the empty registry.

`ChildRegistry.Sound.run`: a registry that a run reaches holds no child twice, and only children
that were started. What a run does to a table of children never takes back that a status was
collected (`ChildTable.Collected.modify`).
-/

set_option autoImplicit false

namespace SessionHandoff

/-! ## Collected children -/

namespace ChildTable

/-- Somebody has collected the status of the child. -/
def Collected (table : ChildTable) (child : ChildId) : Prop :=
  ∃ who status, table[child]? = some (.collected who status)

variable {table : ChildTable} {child other : ChildId}

theorem collectedBy_cases (who : Collector) (phase : ChildPhase) :
    ∃ who' status, phase.collectedBy who = .collected who' status := by
  cases phase with
  | running status => exact ⟨who, status, rfl⟩
  | exited status => exact ⟨who, status, rfl⟩
  | collected who' status => exact ⟨who', status, rfl⟩

/-- Whoever collects the status of a child that was started, it is collected then. -/
theorem collected_collect (who : Collector) (known : child < table.length) :
    Collected (table.modify child (ChildPhase.collectedBy who)) child := by
  obtain ⟨who', status, found⟩ := collectedBy_cases who table[child]
  refine ⟨who', status, ?_⟩
  rw [List.getElem?_modify_eq, List.getElem?_eq_getElem known]
  exact congrArg some found

theorem collected_modify_of_ne (change : ChildPhase → ChildPhase) (apart : child ≠ other) :
    Collected (table.modify child change) other ↔ table.Collected other := by
  unfold Collected
  rw [List.getElem?_modify_ne change table apart]

/-- A change of one child that keeps what is collected keeps it for all of them. -/
theorem Collected.modify {change : ChildPhase → ChildPhase}
    (keeps : ∀ who status, change (.collected who status) = .collected who status)
    (collected : table.Collected other) (child : ChildId) :
    Collected (table.modify child change) other := by
  by_cases same : child = other
  · subst same
    obtain ⟨who, status, found⟩ := collected
    refine ⟨who, status, ?_⟩
    rw [List.getElem?_modify_eq, found]
    exact congrArg some (keeps who status)
  · exact (collected_modify_of_ne change same).2 collected

/-! ## Polling and waiting for one child -/

theorem length_poll (table : ChildTable) (child : ChildId) :
    (table.poll child).2.length = table.length := by
  unfold poll
  split
  · rfl
  · exact List.length_modify ..
  · rfl

/-- Waiting for a child collects its status, unless that has been done, which is an error. -/
theorem wait_cases (known : child < table.length) :
    (table.Collected child ∧ table.wait child = (.error .noChild, table)) ∨
      ∃ status, ¬ table.Collected child ∧
        table.wait child =
          (.ok status, table.modify child (ChildPhase.collectedBy .registry)) := by
  have found := List.getElem?_eq_getElem known
  unfold wait Collected
  cases phase : table[child] with
  | running status =>
    rw [phase] at found
    rw [found]
    exact .inr ⟨status, by simp, rfl⟩
  | exited status =>
    rw [phase] at found
    rw [found]
    exact .inr ⟨status, by simp, rfl⟩
  | collected who status =>
    rw [phase] at found
    rw [found]
    exact .inl ⟨⟨who, status, rfl⟩, rfl⟩

end ChildTable

/-! ## Events -/

/-- What can happen to a registry or to a child it may draw on. -/
inductive RegistryEvent where
  | registered (fate : ExitStatus)
  | counted
  | asked
  | waited
  | finished (child : ChildId)
  | killed (child : ChildId) (signal : Nat)
  | reaped (child : ChildId)
deriving DecidableEq, Repr

namespace ChildRegistry

/-- The registry after an event. -/
def step (r : ChildRegistry) : RegistryEvent → ChildRegistry
  | .registered fate => (r.register fate).2
  | .counted => r.activeCount.2
  | .asked => r.hasActiveChildren.2
  | .waited => r.waitAll.2
  | .finished child => r.outside fun table => table.finish child
  | .killed child signal => r.outside fun table => table.kill child signal
  | .reaped child => r.outside fun table => table.reap child

/-- The registry after events, from the one that holds nothing. -/
def run (events : List RegistryEvent) : ChildRegistry :=
  events.foldl step {}

/-- No child is held twice, and each was started. -/
structure Sound (r : ChildRegistry) : Prop where
  nodup : r.held.Nodup
  known : ∀ child ∈ r.held, child < r.table.length

theorem pollAll_sublist (table : ChildTable) (held : List ChildId) :
    (pollAll table held).1.Sublist held := by
  induction held generalizing table with
  | nil => exact .slnil
  | cons child rest ih =>
    have others := ih (table.poll child).2
    simp only [pollAll]
    split
    · exact others.cons_cons child
    · exact others.cons child
    · exact others.cons child
    · exact others.cons_cons child

theorem length_pollAll (table : ChildTable) (held : List ChildId) :
    (pollAll table held).2.1.length = table.length := by
  induction held generalizing table with
  | nil => rfl
  | cons child rest ih =>
    have others := (ih (table.poll child).2).trans (ChildTable.length_poll table child)
    simp only [pollAll]
    split
    · exact others
    · exact others
    · exact others
    · exact others

theorem Sound.register {r : ChildRegistry} (sound : r.Sound) (fate : ExitStatus) :
    (r.register fate).2.Sound := by
  have grown : (r.register fate).2.table.length = r.table.length + 1 := List.length_append
  constructor
  · -- the new child is the length of the table, which bounds the ones held
    refine List.nodup_append.2 ⟨sound.nodup, List.pairwise_singleton .., ?_⟩
    intro child held new isNew
    rw [List.mem_singleton.1 isNew]
    exact Nat.ne_of_lt (sound.known child held)
  · intro child held
    rw [grown]
    rcases List.mem_append.1 held with old | new
    · exact Nat.lt_succ_of_lt (sound.known child old)
    · rw [List.mem_singleton.1 new]
      exact Nat.lt_succ_self _

theorem Sound.activeCount {r : ChildRegistry} (sound : r.Sound) : r.activeCount.2.Sound := by
  have kept := pollAll_sublist r.table r.held
  constructor
  · exact sound.nodup.sublist kept
  · intro child held
    rw [show r.activeCount.2.table.length = r.table.length from length_pollAll ..]
    exact sound.known child (kept.subset held)

theorem Sound.outside {r : ChildRegistry} (sound : r.Sound) {change : ChildTable → ChildTable}
    (same : (change r.table).length = r.table.length) : (r.outside change).Sound := by
  constructor
  · exact sound.nodup
  · intro child held
    rw [show (r.outside change).table.length = r.table.length from same]
    exact sound.known child held

theorem Sound.waitAll {r : ChildRegistry} : r.waitAll.2.Sound :=
  ⟨List.nodup_nil, fun _ held => absurd held List.not_mem_nil⟩

/-- Every event keeps a registry sound. -/
theorem Sound.step {r : ChildRegistry} (sound : r.Sound) (event : RegistryEvent) :
    (r.step event).Sound := by
  cases event with
  | registered fate => exact sound.register fate
  | counted => exact sound.activeCount
  | asked => exact sound.activeCount
  | waited => exact Sound.waitAll
  | finished child => exact sound.outside (List.length_modify ..)
  | killed child signal => exact sound.outside (List.length_modify ..)
  | reaped child => exact sound.outside (List.length_modify ..)

/-- Every registry that a run reaches is sound. -/
theorem Sound.run (events : List RegistryEvent) : (run events).Sound := by
  have along (r : ChildRegistry) (sound : r.Sound) : (events.foldl ChildRegistry.step r).Sound := by
    induction events generalizing r with
    | nil => exact sound
    | cons event rest ih => exact ih _ (sound.step event)
  exact along {} ⟨List.nodup_nil, fun _ held => absurd held List.not_mem_nil⟩

end ChildRegistry

end SessionHandoff
