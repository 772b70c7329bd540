import SessionHandoff.Limits.Kernel

/-!
# Limits applied in either place

The launcher and a new process apply a plan by code of their own: a loop over the resources, then
two steps that are there only if they are asked for. Both amount to issuing the calls of the plan
one after the other (`LimitPlan.apply_eq_forM`, `LimitPlan.applyInChild_eq_forM`), and differ only
in what a refusal does.

What a kernel answers may depend on everything that it was asked before. `Kernel.answers` are its
answers where every call is issued; the calls that are issued are a beginning of these: all of them
where limits need not be met, and those up to the first refused one where they have to be met.
`LimitPlan.applications_agree` says what this comes to for every plan and every kernel.
-/

set_option autoImplicit false

namespace SessionHandoff

/-! ## Answers -/

/-- What is said of a call that was refused. -/
def KernelCall.refusal : KernelCall → Errno → LimitRefusal
  | .setLimit resource value, e => .resource resource.label value e
  | .setPriority value, e => .priority value e
  | .setAffinity _, e => .affinity e

/-- A call with the answer to it. -/
abbrev AnsweredCall := KernelCall × Option Errno

namespace AnsweredCall

/-- The call and the reason, if the call was refused. -/
def refused? (a : AnsweredCall) : Option (KernelCall × Errno) :=
  a.2.map (a.1, ·)

/-- The first refused call. -/
def firstRefused? (answers : List AnsweredCall) : Option (KernelCall × Errno) :=
  answers.findSome? refused?

/-- The calls up to the first refused one, that one included. -/
def upToRefused (answers : List AnsweredCall) : List AnsweredCall :=
  answers.takeWhile (·.2.isNone) ++ (answers.dropWhile (·.2.isNone)).take 1

/-- The calls that are issued: where limits have to be met, none after a refused one. -/
def issued (strict : Bool) (answers : List AnsweredCall) : List KernelCall :=
  (if strict then upToRefused answers else answers).map Prod.fst

/-- The refusal that ends an application: there is none where limits need not be met. -/
def ending? (strict : Bool) (answers : List AnsweredCall) : Option (KernelCall × Errno) :=
  if strict then firstRefused? answers else none

/-- The refusals that are passed over: where limits need not be met, all of them. -/
def passedOver (strict : Bool) (answers : List AnsweredCall) : List (KernelCall × Errno) :=
  if strict then [] else answers.filterMap refused?

section

variable {strict : Bool} {c : KernelCall} {e : Errno} {rest : List AnsweredCall}

theorem issued_accepted : issued strict ((c, none) :: rest) = c :: issued strict rest := by
  cases strict with
  | true => rfl
  | false => rfl

theorem issued_refused : issued true ((c, some e) :: rest) = [c] := rfl

theorem issued_passed : issued false ((c, some e) :: rest) = c :: issued false rest := rfl

theorem ending?_accepted : ending? strict ((c, none) :: rest) = ending? strict rest := by
  cases strict with
  | true => rfl
  | false => rfl

theorem passedOver_accepted : passedOver strict ((c, none) :: rest) = passedOver strict rest := by
  cases strict with
  | true => rfl
  | false => rfl

theorem passedOver_passed :
    passedOver false ((c, some e) :: rest) = (c, e) :: passedOver false rest := rfl

end

end AnsweredCall

namespace Kernel

variable {σ : Type}

/-- The answers to calls that are issued one after the other, whatever is refused. -/
def answers (kernel : Kernel σ) : σ → List KernelCall → List AnsweredCall
  | _, [] => []
  | s, c :: rest => (c, (kernel.answer c s).1) :: kernel.answers (kernel.answer c s).2 rest

/-- A kernel in use after calls. -/
def ran (kernel : Kernel σ) (run : KernelRun σ) (calls : List KernelCall) : KernelRun σ :=
  calls.foldl (fun run c => ⟨(kernel.answer c run.state).2, run.issued ++ [c]⟩) run

theorem map_fst_answers (kernel : Kernel σ) (s : σ) (calls : List KernelCall) :
    (kernel.answers s calls).map Prod.fst = calls := by
  induction calls generalizing s with
  | nil => rfl
  | cons c rest ih => exact congrArg (c :: ·) (ih _)

theorem issued_ran (kernel : Kernel σ) (run : KernelRun σ) (calls : List KernelCall) :
    (kernel.ran run calls).issued = run.issued ++ calls := by
  induction calls generalizing run with
  | nil => exact (List.append_nil _).symm
  | cons c rest ih =>
    have later := ih ⟨(kernel.answer c run.state).2, run.issued ++ [c]⟩
    rw [List.append_assoc] at later
    exact later

end Kernel

/-! ## Either way is a list of calls -/

namespace LimitPlan

variable {σ : Type} {kernel : Kernel σ} {strict : Bool}

/-- Issue a call in the launcher and deal with its answer. -/
def attempt (kernel : Kernel σ) (strict : Bool) (c : KernelCall) : ApplyM σ Unit := do
  match ← issue kernel c with
  | some e => refuse strict (c.refusal e)
  | none => pure ()

theorem applyResources_cons (r : Resource × UInt64) (rest : List (Resource × UInt64)) :
    applyResources kernel strict (r :: rest) = (do
      attempt kernel strict (.setLimit r.1 r.2)
      applyResources kernel strict rest) := by
  obtain ⟨resource, value⟩ := r
  unfold attempt
  rw [bind_assoc]
  apply bind_congr
  intro answer
  cases answer with
  | none => rw [pure_bind]
  | some e => rfl

theorem applyResources_eq_forM (resources : List (Resource × UInt64)) :
    applyResources kernel strict resources =
      (resources.map fun r => KernelCall.setLimit r.1 r.2).forM (attempt kernel strict) := by
  induction resources with
  | nil => rfl
  | cons r rest ih =>
    rw [applyResources_cons, ih]
    rfl

theorem forM_singleton {m : Type → Type} [Monad m] [LawfulMonad m] (f : KernelCall → m Unit)
    (c : KernelCall) : [c].forM f = f c := by
  show (f c >>= fun _ => pure ()) = f c
  exact bind_pure_unit

theorem applyPriority_eq_forM (priority : Int32) :
    applyPriority kernel strict priority =
      (if priority = 0 then [] else [KernelCall.setPriority priority]).forM
        (attempt kernel strict) := by
  unfold applyPriority
  split
  · rfl
  · rw [forM_singleton]
    rfl

theorem applyProcessors_eq_forM (processors : Option (List Nat)) :
    applyProcessors kernel strict processors =
      (processors.map KernelCall.setAffinity).toList.forM (attempt kernel strict) := by
  cases processors with
  | none => rfl
  | some processors =>
    show _ = [KernelCall.setAffinity processors].forM _
    rw [forM_singleton]
    rfl

theorem forM_calls {m : Type → Type} [Monad m] [LawfulMonad m] (f : KernelCall → m Unit)
    (plan : LimitPlan) :
    plan.calls.forM f = (do
      (plan.resources.map fun r => KernelCall.setLimit r.1 r.2).forM f
      (if plan.priority = 0 then [] else [KernelCall.setPriority plan.priority]).forM f
      (plan.processors.map KernelCall.setAffinity).toList.forM f) := by
  simp only [calls, List.forM_eq_forM, List.forM_append, bind_assoc]

/-- The launcher issues the calls of a plan one after the other. -/
theorem apply_eq_forM (plan : LimitPlan) :
    plan.apply kernel strict = plan.calls.forM (attempt kernel strict) := by
  rw [forM_calls, ← applyResources_eq_forM, ← applyPriority_eq_forM, ← applyProcessors_eq_forM]
  rfl

/-- A new process issues the calls of a plan one after the other. -/
theorem applyInChild_eq_forM (plan : LimitPlan) :
    plan.applyInChild kernel strict = plan.calls.forM (issueInChild kernel strict) := by
  obtain ⟨resources, priority, processors⟩ := plan
  have loop : resources.forM (fun r => issueInChild kernel strict (.setLimit r.1 r.2)) =
      (resources.map fun r => KernelCall.setLimit r.1 r.2).forM (issueInChild kernel strict) := by
    simp only [List.forM_eq_forM, List.forM_map]
  rw [forM_calls, ← loop]
  unfold applyInChild
  apply bind_congr
  intro _
  -- the step for the priority is left out where it is zero, and the one for the processors
  -- where there are none
  by_cases zero : priority = 0
  · cases processors with
    | none => simp [zero]
    | some processors => simp [zero]
  · cases processors with
    | none => simp [zero]
    | some processors => simp [zero]

/-! ## What comes of a list of calls -/

/-- What is logged of a refusal that is passed over. -/
def passedRecord (r : KernelCall × Errno) : LogRecord :=
  ⟨.warning, (r.1.refusal r.2).subject ++ " in permissive mode: " ++ (r.1.refusal r.2).reason⟩

/-- What the launcher answers where a refusal, or none, has ended it. -/
def launcherResult : Option (KernelCall × Errno) → Except LaunchError Unit
  | none => .ok ()
  | some (c, e) => .error (.process (.refused (c.refusal e)))

/-- What a new process answers where a refusal, or none, has ended it. -/
def childResult : Option (KernelCall × Errno) → Except IoError Unit
  | none => .ok ()
  | some (_, e) => .error (.system e)

open AnsweredCall

theorem run_attempt (c : KernelCall) (s : ApplyState σ) :
    (attempt kernel strict c).run.run s =
      match (kernel.answer c s.run.state).1 with
      | none => (.ok (), ⟨kernel.ran s.run [c], s.log⟩)
      | some e =>
        if strict then (launcherResult (some (c, e)), ⟨kernel.ran s.run [c], s.log⟩)
        else (.ok (), ⟨kernel.ran s.run [c], s.log ++ [passedRecord (c, e)]⟩) := by
  have asked : (issue kernel c).run.run s =
      (.ok (kernel.answer c s.run.state).1, ⟨kernel.ran s.run [c], s.log⟩) := rfl
  unfold attempt
  rw [ExceptT.run_bind, StateT.run_bind, asked]
  cases (kernel.answer c s.run.state).1 with
  | none => rfl
  | some e =>
    cases strict with
    | true => rfl
    | false => rfl

/-- The launcher issues calls until one is refused where limits have to be met, and otherwise all
of them, with a record of each that is refused. -/
theorem run_attempts (calls : List KernelCall) (s : ApplyState σ) :
    (calls.forM (attempt kernel strict)).run.run s =
      (launcherResult (ending? strict (kernel.answers s.run.state calls)),
        ⟨kernel.ran s.run (issued strict (kernel.answers s.run.state calls)),
          s.log ++ (passedOver strict (kernel.answers s.run.state calls)).map passedRecord⟩) := by
  induction calls generalizing s with
  | nil =>
    have kept : s = ⟨kernel.ran s.run [], s.log ++ []⟩ := by
      rw [List.append_nil]
      rfl
    cases strict with
    | true => exact congrArg (Prod.mk _) kept
    | false => exact congrArg (Prod.mk _) kept
  | cons c rest ih =>
    have head : kernel.answers s.run.state (c :: rest) =
        (c, (kernel.answer c s.run.state).1) ::
          kernel.answers (kernel.ran s.run [c]).state rest := rfl
    rw [List.forM_eq_forM, List.forM_cons, ExceptT.run_bind, StateT.run_bind, run_attempt, head]
    cases (kernel.answer c s.run.state).1 with
    | none =>
      rw [ending?_accepted, issued_accepted, passedOver_accepted]
      exact ih ⟨kernel.ran s.run [c], s.log⟩
    | some e =>
      cases strict with
      | true =>
        rw [issued_refused]
        show _ = (_, (⟨_, s.log ++ []⟩ : ApplyState σ))
        rw [List.append_nil]
        rfl
      | false =>
        rw [issued_passed, passedOver_passed, List.map_cons]
        have later := ih ⟨kernel.ran s.run [c], s.log ++ [passedRecord (c, e)]⟩
        rw [List.append_assoc] at later
        exact later

theorem run_issueInChild (c : KernelCall) (run : KernelRun σ) :
    (issueInChild kernel strict c).run.run run =
      match (kernel.answer c run.state).1 with
      | none => (.ok (), kernel.ran run [c])
      | some e =>
        (if strict then childResult (some (c, e)) else .ok (), kernel.ran run [c]) := by
  have asked : (liftM (kernel.call c) : ChildM σ (Option Errno)).run.run run =
      (.ok (kernel.answer c run.state).1, kernel.ran run [c]) := rfl
  unfold issueInChild
  rw [ExceptT.run_bind, StateT.run_bind, asked]
  cases (kernel.answer c run.state).1 with
  | none => rfl
  | some e =>
    cases strict with
    | true => rfl
    | false => rfl

/-- A new process issues calls until one is refused where limits have to be met, and otherwise all
of them. -/
theorem run_issuesInChild (calls : List KernelCall) (run : KernelRun σ) :
    (calls.forM (issueInChild kernel strict)).run.run run =
      (childResult (ending? strict (kernel.answers run.state calls)),
        kernel.ran run (issued strict (kernel.answers run.state calls))) := by
  induction calls generalizing run with
  | nil =>
    cases strict with
    | true => rfl
    | false => rfl
  | cons c rest ih =>
    have head : kernel.answers run.state (c :: rest) =
        (c, (kernel.answer c run.state).1) ::
          kernel.answers (kernel.ran run [c]).state rest := rfl
    rw [List.forM_eq_forM, List.forM_cons, ExceptT.run_bind, StateT.run_bind, run_issueInChild,
      head]
    cases (kernel.answer c run.state).1 with
    | none =>
      rw [ending?_accepted, issued_accepted]
      exact ih (kernel.ran run [c])
    | some e =>
      cases strict with
      | true => rfl
      | false =>
        rw [issued_passed]
        exact ih (kernel.ran run [c])

/-! ## The two applications -/

/-- The plan applied to the launcher, on a kernel in use. -/
def applied (kernel : Kernel σ) (strict : Bool) (plan : LimitPlan) (run : KernelRun σ) :
    Applied σ :=
  let r := (plan.apply kernel strict).run.run ⟨run, []⟩
  ⟨r.1, r.2.log, r.2.run⟩

/-- The plan applied to a new process, on a kernel in use. -/
def appliedInChild (kernel : Kernel σ) (strict : Bool) (plan : LimitPlan) (run : KernelRun σ) :
    Except IoError Unit × KernelRun σ :=
  (plan.applyInChild kernel strict).run.run run

theorem applied_eq (plan : LimitPlan) (run : KernelRun σ) :
    plan.applied kernel strict run =
      ⟨launcherResult (ending? strict (kernel.answers run.state plan.calls)),
        (passedOver strict (kernel.answers run.state plan.calls)).map passedRecord,
        kernel.ran run (issued strict (kernel.answers run.state plan.calls))⟩ := by
  unfold applied
  rw [apply_eq_forM, run_attempts]
  rfl

theorem appliedInChild_eq (plan : LimitPlan) (run : KernelRun σ) :
    plan.appliedInChild kernel strict run =
      (childResult (ending? strict (kernel.answers run.state plan.calls)),
        kernel.ran run (issued strict (kernel.answers run.state plan.calls))) := by
  unfold appliedInChild
  rw [applyInChild_eq_forM, run_issuesInChild]

theorem calls_eq_nil {plan : LimitPlan} (empty : plan.isEmpty = true) : plan.calls = [] := by
  obtain ⟨resources, priority, processors⟩ := plan
  cases resources <;> cases processors <;> simp_all [calls, isEmpty]

/-- Nothing is issued for an empty plan. -/
theorem applied_of_isEmpty {plan : LimitPlan} (empty : plan.isEmpty = true) (run : KernelRun σ) :
    plan.applied kernel strict run = ⟨.ok (), [], run⟩ := by
  rw [applied_eq, calls_eq_nil empty]
  cases strict with
  | true => rfl
  | false => rfl

/-- To apply limits is to apply the plan that they make, whether or not it is empty. -/
theorem applyLimits_eq (l : ResourceLimits) (run : KernelRun σ) :
    applyLimits kernel strict l run =
      match ofLimits l with
      | .error e => ⟨.error e, [], run⟩
      | .ok plan => plan.applied kernel strict run := by
  unfold applyLimits
  cases ofLimits l with
  | error e => rfl
  | ok plan =>
    by_cases empty : plan.isEmpty = true
    · simp only [empty, if_true]
      exact (applied_of_isEmpty empty run).symm
    · simp only [empty]
      rfl

/-- For every plan and kernel, the launcher and a new process issue the same calls in the same
order, and either both succeed or neither does. Where limits have to be met, the calls are those of
the plan up to the first refused one, which is the error, and nothing is logged. Where they need not
be met, all calls of the plan are issued, the result is success, and the launcher logs one warning
for each refused call, in their order. Applying limits is applying the plan that they make. -/
theorem applications_agree (kernel : Kernel σ) (plan : LimitPlan) (run : KernelRun σ) :
    (∀ strict, (plan.applied kernel strict run).run = (plan.appliedInChild kernel strict run).2 ∧
      ((plan.applied kernel strict run).result = .ok () ↔
        (plan.appliedInChild kernel strict run).1 = .ok ())) ∧
    ((plan.applied kernel true run).run.issued = run.issued ++
        (AnsweredCall.upToRefused (kernel.answers run.state plan.calls)).map Prod.fst ∧
      (plan.applied kernel true run).result =
        launcherResult (AnsweredCall.firstRefused? (kernel.answers run.state plan.calls)) ∧
      (plan.appliedInChild kernel true run).1 =
        childResult (AnsweredCall.firstRefused? (kernel.answers run.state plan.calls)) ∧
      (plan.applied kernel true run).log = []) ∧
    ((plan.applied kernel false run).run.issued = run.issued ++ plan.calls ∧
      (plan.applied kernel false run).result = .ok () ∧
      (plan.appliedInChild kernel false run).1 = .ok () ∧
      (plan.applied kernel false run).log =
        ((kernel.answers run.state plan.calls).filterMap AnsweredCall.refused?).map
          passedRecord) ∧
    ∀ strict l, applyLimits kernel strict l run =
      match ofLimits l with
      | .error e => ⟨.error e, [], run⟩
      | .ok made => made.applied kernel strict run := by
  refine ⟨?_, ?_, ?_, ?_⟩
  · intro strict
    rw [applied_eq, appliedInChild_eq]
    refine ⟨rfl, ?_⟩
    cases ending? strict (kernel.answers run.state plan.calls) with
    | none => exact ⟨fun _ => rfl, fun _ => rfl⟩
    | some r => exact ⟨nofun, nofun⟩
  · rw [applied_eq, appliedInChild_eq]
    exact ⟨kernel.issued_ran run _, rfl, rfl, rfl⟩
  · rw [applied_eq, appliedInChild_eq]
    refine ⟨?_, rfl, rfl, rfl⟩
    have all : issued false (kernel.answers run.state plan.calls) = plan.calls :=
      kernel.map_fst_answers run.state plan.calls
    rw [all]
    exact kernel.issued_ran run plan.calls
  · intro strict l
    exact applyLimits_eq l run

end LimitPlan

end SessionHandoff
