import MeshFirmware.Proofs.Execution.Interleaving

/-!
# One call at a time

The lock is what keeps calls apart. Only the call that holds it does anything that others can see, and it has come
through the gate by then: it is wanted, its model and its release are known and its settings are made (`Call.Ready`).
The theorem `calls_exclude_each_other` says this of every system of calls after any turns, with what becomes of the
calls that do not come so far.
-/

namespace MeshFirmware.Execution

open Updater (Task Outcome RunError Effect)

/-! ## What a call comes to -/

/-- This is the task of a run of the call, if the call comes as far as a run. -/
structure Call.Ready (c : Call) (t : Task) : Prop where
  wanted : c.config.enabled = true ∨ c.args.force = true
  known : c.node.model = some t.model
  set : ∃ release, c.node.release = .ok release ∧ Settings.build c.config c.args release = .ok t.settings
  imagePath : t.imagePath = c.imagePath
  search : t.search = searchOf c.config

/-- The run of the call with a task. -/
def Call.run (c : Call) (t : Task) : Except RunError Outcome × Updater.Progress :=
  Updater.run c.world t c.fortune { place := c.place }

/-- How a call ends, and all that it has done then. -/
inductive Ending (c : Call) : Except Failure (Option Outcome) → List Deed → Prop
  | idle (unwanted : c.wanted = false) : Ending c (.ok none) []
  | unknown (wanted : c.wanted = true) (unknown : c.node.model = none) : Ending c (.error .unknownModel) []
  | unlocked {model : String} {e : LockError} (wanted : c.wanted = true) (known : c.node.model = some model) :
    Ending c (.error (.lock e)) []
  | unreleased {model cause : String} (wanted : c.wanted = true) (known : c.node.model = some model)
    (unreleased : c.node.release = .error cause) : Ending c (.error (.release cause)) []
  | unset {model release : String} {p : Settings.Problem} (wanted : c.wanted = true)
    (known : c.node.model = some model) (released : c.node.release = .ok release)
    (unset : Settings.build c.config c.args release = .error p) : Ending c (.error (.settings p)) []
  | failed {t : Task} {e : RunError} (ready : c.Ready t) (failed : (c.run t).1 = .error e) :
    Ending c (.error (.run e)) ((c.run t).2.history.map .effect)
  | recorded {t : Task} {o : Outcome} (ready : c.Ready t) (ran : (c.run t).1 = .ok o) :
    Ending c (.ok (some o)) ((c.run t).2.history.map .effect ++ [.record])

section
variable {c : Call} {lockPath model : String} {d d' : Disk} {lock : RunLock}

/-- What can come of the second phase. -/
theorem Call.work_cases (hwanted : c.wanted = true) (hmodel : c.node.model = some model) :
    (∃ cause, c.node.release = .error cause ∧ c.work model = (.error (.release cause), { place := c.place })) ∨
    (∃ release p, c.node.release = .ok release ∧ Settings.build c.config c.args release = .error p ∧
      c.work model = (.error (.settings p), { place := c.place })) ∨
    ∃ t, c.Ready t ∧ c.work model = ((c.run t).1.mapError .run, (c.run t).2) := by
  cases hrelease : c.node.release with
  | error cause => exact .inl ⟨cause, rfl, by rw [work, Execution.work, hrelease]⟩
  | ok release =>
    cases hbuild : Settings.build c.config c.args release with
    | error p =>
      refine .inr (.inl ⟨release, p, rfl, hbuild, ?_⟩)
      rw [work, Execution.work, hrelease]
      dsimp only
      rw [hbuild]
    | ok settings =>
      refine .inr (.inr ⟨⟨settings, model, c.imagePath, searchOf c.config⟩, ?_, ?_⟩)
      · exact ⟨Bool.or_eq_true_iff.mp hwanted, hmodel, ⟨release, hrelease, hbuild⟩, rfl, rfl⟩
      · rw [work, Execution.work, hrelease]
        dsimp only
        rw [hbuild]
        dsimp only
        rw [run]
        rcases Updater.run c.world ⟨settings, model, c.imagePath, searchOf c.config⟩ c.fortune { place := c.place }
          with ⟨e | o, s⟩ <;> rfl

/-- What can come of the first phase. -/
theorem Call.enter_cases {entry : Entry} (h : c.enter lockPath d = (entry, d')) :
    (c.wanted = false ∧ entry = .idle) ∨
    (c.wanted = true ∧ c.node.model = none ∧ entry = .refused .unknownModel) ∨
    ∃ model, c.wanted = true ∧ c.node.model = some model ∧
      ((∃ e, entry = .refused (.lock e)) ∨ ∃ lock, entry = .admitted lock model) := by
  by_cases hwanted : c.wanted = true
  · cases hmodel : c.node.model with
    | none =>
      rw [enter_of_unknownModel hwanted hmodel] at h
      exact .inr (.inl ⟨hwanted, rfl, (Prod.mk.inj h).1.symm⟩)
    | some model =>
      refine .inr (.inr ⟨model, hwanted, rfl, ?_⟩)
      rcases hopen : d.openFile lockPath with ⟨cause | id, opened⟩
      · rw [enter_of_unopened hwanted hmodel hopen] at h
        exact .inl ⟨_, (Prod.mk.inj h).1.symm⟩
      · cases hproblem : opened.lockProblem with
        | some cause =>
          rw [enter_of_unlockable hwanted hmodel hopen hproblem] at h
          exact .inl ⟨_, (Prod.mk.inj h).1.symm⟩
        | none =>
          by_cases hlocked : opened.locked.contains id = true
          · rw [enter_of_busy hwanted hmodel hopen hproblem hlocked] at h
            exact .inl ⟨_, (Prod.mk.inj h).1.symm⟩
          · rw [enter_of_free hwanted hmodel hopen hproblem hlocked] at h
            exact .inr ⟨_, (Prod.mk.inj h).1.symm⟩
  · have hunwanted : c.wanted = false := by simpa using hwanted
    rw [enter_of_unwanted hunwanted] at h
    exact .inl ⟨hunwanted, (Prod.mk.inj h).1.symm⟩

theorem Call.of_admitted (h : c.enter lockPath d = (.admitted lock model, d')) :
    c.wanted = true ∧ c.node.model = some model := by
  obtain ⟨-, h⟩ | ⟨-, -, h⟩ | ⟨model', hwanted, hmodel, ⟨e, h⟩ | ⟨lock', h⟩⟩ := enter_cases h
  · cases h
  · cases h
  · cases h
  · cases h
    exact ⟨hwanted, hmodel⟩

/-- A call that is in and has an effect or an outcome has a run. -/
theorem Call.ran_of_admitted (h : c.enter lockPath d = (.admitted lock model, d'))
    (hran : (c.work model).2.history ≠ [] ∨ isOutcome (c.work model).1 = true) :
    ∃ t, c.Ready t ∧ c.work model = ((c.run t).1.mapError .run, (c.run t).2) := by
  obtain ⟨hwanted, hmodel⟩ := of_admitted h
  obtain ⟨cause, -, hwork⟩ | ⟨release, p, -, -, hwork⟩ | hready := work_cases hwanted hmodel
  · rw [hwork] at hran
    exact absurd hran (by simp [isOutcome])
  · rw [hwork] at hran
    exact absurd hran (by simp [isOutcome])
  · exact hready

/-- Every execution ends in one of these ways. -/
theorem ending_execute (c : Call) (lockPath : String) (d : Disk) :
    Ending c (c.execute lockPath d).result (c.execute lockPath d).deeds := by
  rcases henter : c.enter lockPath d with ⟨entry, d'⟩
  obtain ⟨hunwanted, rfl⟩ | ⟨hwanted, hmodel, rfl⟩ | ⟨model, hwanted, hmodel, ⟨e, rfl⟩ | ⟨lock, rfl⟩⟩ :=
    Call.enter_cases henter
  · rw [Call.execute_of_idle henter]
    exact .idle hunwanted
  · rw [Call.execute_of_refused henter]
    exact .unknown hwanted hmodel
  · rw [Call.execute_of_refused henter]
    exact .unlocked hwanted hmodel
  · rw [Call.execute_of_admitted henter, Executed.deeds]
    obtain ⟨cause, hrelease, hwork⟩ | ⟨release, p, hrelease, hbuild, hwork⟩ | ⟨t, hready, hwork⟩ :=
      Call.work_cases hwanted hmodel
    · rw [hwork]
      exact .unreleased hwanted hmodel hrelease
    · rw [hwork]
      exact .unset hwanted hmodel hrelease hbuild
    · rw [hwork]
      cases hrun : (c.run t).1 with
      | error e =>
        have hending := Ending.failed hready hrun
        rwa [← List.append_nil (List.map _ _)] at hending
      | ok o => exact .recorded hready hrun

end

/-! ## The lock -/

/-- The lock that a call has. -/
def Stage.lock? : Stage → Option RunLock
  | .running lock _ _ => some lock
  | .leaving lock _ => some lock
  | _ => none

/-- The call holds the lock on the file at the path. -/
def System.Holds {ι : Type} (s : System ι) (lockPath : String) (i : ι) : Prop :=
  ∃ lock, (s.stage i).lock? = some lock ∧ lock.id ∈ s.disk.locked ∧ s.disk.Opens lockPath lock.id

/-- The calls that have a lock hold it on the disk, and there is one of them at most. -/
structure System.Guarded {ι : Type} (s : System ι) : Prop where
  locked : ∀ i, ∀ lock ∈ (s.stage i).lock?, lock.id ∈ s.disk.locked
  alone : ∀ i j, ∀ lock ∈ (s.stage i).lock?, ∀ lock' ∈ (s.stage j).lock?, i = j

theorem Stage.file?_of_lock? {stage : Stage} {lock : RunLock} (h : lock ∈ stage.lock?) : lock.id ∈ stage.file? := by
  cases stage with
  | running lock' left result =>
    cases h
    rfl
  | leaving lock' result =>
    cases h
    rfl
  | _ => cases h

theorem System.Guarded.holds {ι : Type} {s : System ι} {lockPath : String} (h : s.Guarded) (hopened : s.Opened lockPath)
    {i : ι} {lock : RunLock} (hlock : (s.stage i).lock? = some lock) : s.Holds lockPath i :=
  ⟨lock, hlock, h.locked i lock hlock, (hopened i lock.id (Stage.file?_of_lock? hlock)).opens⟩

/-- What a turn can do about the lock. -/
theorem Stage.next_lock? (c : Call) (lockPath : String) (d : Disk) (stage : Stage) :
    let t := stage.next c lockPath d
    (t.stage.lock? = stage.lock? ∧ t.disk.locked = d.locked) ∨
    (∃ id ∈ stage.file?, id ∉ d.locked ∧ t.stage.lock? = some { id } ∧ t.disk.locked = id :: d.locked) ∨
    ∃ lock ∈ stage.lock?, t.stage.lock? = none ∧ t.disk.locked = d.locked.filter (· != lock.id) := by
  cases stage with
  | waiting =>
    refine .inl ?_
    rw [next]
    split
    · split
      · exact ⟨rfl, rfl⟩
      · have hlocked := d.openFile_locked lockPath
        rcases hopen : d.openFile lockPath with ⟨cause | id, d'⟩ <;> rw [hopen] at hlocked
        · exact ⟨rfl, hlocked⟩
        · dsimp only
          split <;> exact ⟨rfl, hlocked⟩
    · exact ⟨rfl, rfl⟩
  | opened id model =>
    rw [next]
    split
    · exact .inl ⟨rfl, rfl⟩
    next hfree => exact .inr (.inl ⟨id, rfl, by simpa using hfree, rfl, rfl⟩)
  | running lock left result =>
    cases left with
    | cons e left => exact .inl ⟨rfl, rfl⟩
    | nil =>
      rw [next]
      split
      · exact .inl ⟨rfl, rfl⟩
      · exact .inr (.inr ⟨lock, rfl, rfl, rfl⟩)
  | leaving lock result => exact .inr (.inr ⟨lock, rfl, rfl, rfl⟩)
  | ended result => exact .inl ⟨rfl, rfl⟩

namespace System
variable {ι : Type} [DecidableEq ι] {calls : ι → Call} {lockPath : String} {d : Disk} {s : System ι}

/-- A turn of one call takes the lock from no other call, and gets it only if no call has it. -/
theorem Guarded.step (h : s.Guarded) (hopened : s.Opened lockPath) (i : ι) : (s.step calls lockPath i).Guarded := by
  obtain ⟨hsame, hlocked⟩ | ⟨id, hid, hfree, htaken, hlocked⟩ | ⟨lock, hlock, hgiven, hlocked⟩ :=
    Stage.next_lock? (calls i) lockPath s.disk (s.stage i)
  · -- The turn has nothing to do with the lock.
    have hstages : ∀ j, ((s.step calls lockPath i).stage j).lock? = (s.stage j).lock? := by
      intro j
      by_cases hj : j = i
      · subst hj
        rw [stage_step_self]
        exact hsame
      · rw [stage_step_of_ne hj]
    constructor
    · intro j lock hlock
      rw [hstages] at hlock
      exact hlocked ▸ h.locked j lock hlock
    · intro j k lock hlock lock' hlock'
      rw [hstages] at hlock hlock'
      exact h.alone j k lock hlock lock' hlock'
  · -- A call that had the lock would have locked the very file that is free.
    have hnobody : ∀ j, ∀ lock, lock ∉ (s.stage j).lock? := by
      intro j lock hlock
      have hfile := Stage.file?_of_lock? hlock
      have hid' : lock.id = id := (hopened j lock.id hfile).opens.unique (hopened i id hid).opens
      exact hfree (hid' ▸ h.locked j lock hlock)
    have honly : ∀ j, ∀ lock ∈ ((s.step calls lockPath i).stage j).lock?, j = i ∧ lock.id = id := by
      intro j lock hlock
      by_cases hj : j = i
      · subst hj
        rw [stage_step_self, turn, htaken] at hlock
        cases hlock
        exact ⟨rfl, rfl⟩
      · rw [stage_step_of_ne hj] at hlock
        exact absurd hlock (hnobody j lock)
    constructor
    · intro j lock hlock
      rw [(honly j lock hlock).2]
      exact hlocked ▸ List.mem_cons_self
    · intro j k lock hlock lock' hlock'
      exact (honly j lock hlock).1.trans (honly k lock' hlock').1.symm
  · -- The lock was only with this call, so nobody has it now.
    have hnobody : ∀ j, ∀ lock', lock' ∉ ((s.step calls lockPath i).stage j).lock? := by
      intro j lock' hlock'
      by_cases hj : j = i
      · subst hj
        rw [stage_step_self, turn, hgiven] at hlock'
        cases hlock'
      · rw [stage_step_of_ne hj] at hlock'
        exact hj (h.alone j i lock' hlock' lock hlock)
    exact ⟨fun j lock' hlock' => absurd hlock' (hnobody j lock'),
      fun j _ lock' hlock' => absurd hlock' (hnobody j lock')⟩

theorem guarded_after (calls : ι → Call) (lockPath : String) (d : Disk) (turns : List ι) :
    (after calls lockPath d turns).Guarded := by
  have h : (after calls lockPath d turns).Opened lockPath ∧ (after calls lockPath d turns).Guarded := by
    refine after_induction (P := fun s => s.Opened lockPath ∧ s.Guarded) ⟨?_, ?_, ?_⟩ ?_ turns
    · exact fun _ _ hid => nomatch hid
    · exact fun _ _ hlock => nomatch hlock
    · exact fun _ _ _ hlock => nomatch hlock
    · exact fun s i hs => ⟨hs.1.step i, hs.2.step hs.1 i⟩
  exact h.2

end System

/-! ## Systems of calls -/

section
variable {c : Call} {lockPath : String} {stage : Stage} {deeds : List Deed} {d : Disk}

/-- A call without a lock does nothing. -/
theorem Stage.deeds_of_unlocked (h : stage.lock? = none) : (stage.next c lockPath d).deeds = [] := by
  cases stage with
  | waiting =>
    rw [next]
    split
    · split
      · rfl
      · rcases d.openFile lockPath with ⟨cause | id, d'⟩
        · rfl
        · dsimp only
          split <;> rfl
    · rfl
  | opened id model =>
    rw [next]
    split <;> rfl
  | running lock left result => cases h
  | leaving lock result => rfl
  | ended result => rfl

theorem Stage.lock?_of_deed {deed : Deed} (h : deed ∈ (stage.next c lockPath d).deeds) :
    ∃ lock, stage.lock? = some lock := by
  rw [← Option.isSome_iff_exists, ← Option.ne_none_iff_isSome]
  intro hnone
  rw [Stage.deeds_of_unlocked hnone] at h
  cases h

/-- A call has effects only in its run, one after the other. -/
theorem Story.ready_of_effect {e : Effect} (h : Story c lockPath stage deeds)
    (he : .effect e ∈ (stage.next c lockPath d).deeds) :
    ∃ t, c.Ready t ∧ deeds ++ [.effect e] <+: (c.run t).2.history.map .effect := by
  obtain ⟨lock, hlock⟩ := Stage.lock?_of_deed he
  cases h with
  | @running _ _ _ model made left hentered heffects =>
    cases left with
    | cons e' left =>
      obtain rfl : e = e' := by simpa [Stage.next] using he
      obtain ⟨t, hready, hwork⟩ := Call.ran_of_admitted hentered (.inl (by simp [heffects]))
      rw [hwork] at heffects
      refine ⟨t, hready, left.map .effect, ?_⟩
      rw [show (c.run t).2.history = _ from heffects]
      simp
    | nil =>
      rw [Stage.next] at he
      split at he <;> simp at he
  | leaving => simp [Stage.next] at he
  | _ => cases hlock

/-- A call records its run only if it has had an outcome, and after all of its effects. -/
theorem Story.ran_of_record (h : Story c lockPath stage deeds) (hrecord : .record ∈ (stage.next c lockPath d).deeds) :
    ∃ t o, c.Ready t ∧ (c.run t).1 = .ok o ∧ deeds = (c.run t).2.history.map .effect := by
  obtain ⟨lock, hlock⟩ := Stage.lock?_of_deed hrecord
  cases h with
  | @running _ _ _ model made left hentered heffects =>
    cases left with
    | cons e left => simp [Stage.next] at hrecord
    | nil =>
      rw [Stage.next] at hrecord
      split at hrecord
      next hwell =>
        obtain ⟨t, hready, hwork⟩ := Call.ran_of_admitted hentered (.inr hwell)
        rw [hwork] at hwell heffects
        cases hrun : (c.run t).1 with
        | error e =>
          rw [hrun] at hwell
          cases hwell
        | ok o => exact ⟨t, o, hready, hrun, by simpa using congrArg (List.map Deed.effect) heffects.symm⟩
      next => simp at hrecord
  | leaving => simp [Stage.next] at hrecord
  | _ => cases hlock

theorem Story.deeds_of_opened {id : Nat} {model : String} (h : Story c lockPath (.opened id model) deeds) :
    deeds = [] := by
  cases h
  rfl

/-- A call that is not wanted neither does anything nor touches the disk. -/
theorem Story.of_unwanted (h : Story c lockPath stage deeds) (hunwanted : c.wanted = false) :
    deeds = [] ∧ (stage.next c lockPath d).deeds = [] ∧ (stage.next c lockPath d).disk = d := by
  have hnot : ¬ c.wanted = true := by simp [hunwanted]
  cases h with
  | waiting =>
    rw [Stage.next, if_neg hnot]
    exact ⟨rfl, rfl, rfl⟩
  | opened hwanted _ => exact absurd hwanted hnot
  | running hentered _ => exact absurd (Call.of_admitted hentered).1 hnot
  | leaving hentered _ => exact absurd (Call.of_admitted hentered).1 hnot
  | ended d' =>
    rw [Call.execute_of_idle (Call.enter_of_unwanted hunwanted)]
    exact ⟨rfl, rfl, rfl⟩

theorem Story.ending {r : Except Failure (Option Outcome)} (h : Story c lockPath (.ended r) deeds) :
    (∃ d, r = (c.execute lockPath d).result ∧ deeds = (c.execute lockPath d).deeds) ∧ Ending c r deeds := by
  cases h with
  | ended d => exact ⟨⟨d, rfl, rfl⟩, ending_execute c lockPath d⟩

end

/-- What holds of calls side by side. -/
structure Excluding {ι : Type} [DecidableEq ι] (calls : ι → Call) (lockPath : String) (s : System ι) : Prop where
  alone : ∀ i j, s.Holds lockPath i → s.Holds lockPath j → i = j
  /-- Effects are made with the lock, and in the order of the run. -/
  acts : ∀ i e, .effect e ∈ (s.turn calls lockPath i).deeds → s.Holds lockPath i ∧
    ∃ t, (calls i).Ready t ∧ s.deedsOf i ++ [.effect e] <+: ((calls i).run t).2.history.map .effect
  /-- A run is recorded with the lock, after all of its effects, and only if it has had an outcome. -/
  records : ∀ i, .record ∈ (s.turn calls lockPath i).deeds → s.Holds lockPath i ∧
    ∃ t o, (calls i).Ready t ∧ ((calls i).run t).1 = .ok o ∧ s.deedsOf i = ((calls i).run t).2.history.map .effect
  enters : ∀ i id model, s.stage i = .opened id model → ¬ s.disk.Held lockPath →
    (s.step calls lockPath i).Holds lockPath i
  busy : ∀ i id model, s.stage i = .opened id model → s.disk.Held lockPath → s.deedsOf i = [] ∧
    s.turn calls lockPath i = { stage := .ended (.error (.lock (.busy lockPath))), disk := s.disk }
  idle : ∀ i, (calls i).wanted = false → s.deedsOf i = [] ∧
    (s.turn calls lockPath i).deeds = [] ∧ (s.turn calls lockPath i).disk = s.disk
  ends : ∀ i r, s.stage i = .ended r →
    (∃ d, r = ((calls i).execute lockPath d).result ∧ s.deedsOf i = ((calls i).execute lockPath d).deeds) ∧
      Ending (calls i) r (s.deedsOf i)
  executes : ∀ i, s.stage i = .waiting → s.Ends calls lockPath i ((calls i).execute lockPath s.disk).result
    ((calls i).execute lockPath s.disk).deeds ((calls i).execute lockPath s.disk).disk

/-- Whatever turns calls take, one of them at most holds the lock, and no other call does anything that can be seen. A
call that finds the lock held ends there, one that is not wanted leaves even the disk alone, and every call that has
ended has recorded its run if and only if the run had an outcome. The turns of a call are those of an execution. -/
theorem calls_exclude_each_other {ι : Type} [DecidableEq ι] (calls : ι → Call) (lockPath : String) (d : Disk)
    (turns : List ι) : Excluding calls lockPath (System.after calls lockPath d turns) := by
  obtain ⟨hopened, hstory⟩ := story_after calls lockPath d turns
  have hguarded := System.guarded_after calls lockPath d turns
  generalize System.after calls lockPath d turns = s at hopened hstory hguarded ⊢
  have hholds : ∀ {i lock}, (s.stage i).lock? = some lock → s.Holds lockPath i := hguarded.holds hopened
  constructor
  case alone =>
    rintro i j ⟨lock, hlock, -⟩ ⟨lock', hlock', -⟩
    exact hguarded.alone i j lock hlock lock' hlock'
  case acts =>
    intro i e he
    obtain ⟨lock, hlock⟩ := Stage.lock?_of_deed he
    exact ⟨hholds hlock, (hstory i).ready_of_effect he⟩
  case records =>
    intro i hrecord
    obtain ⟨lock, hlock⟩ := Stage.lock?_of_deed hrecord
    exact ⟨hholds hlock, (hstory i).ran_of_record hrecord⟩
  case enters =>
    intro i id model hstage hfree
    have hopens : s.disk.Opens lockPath id := (hopened i id (by rw [hstage]; rfl)).opens
    have hunlocked : ¬ s.disk.locked.contains id = true := fun hlocked => hfree ⟨id, by simpa using hlocked, hopens⟩
    have hlock : ((s.step calls lockPath i).stage i).lock? = some { id } := by
      rw [System.stage_step_self, System.turn, hstage, Stage.next, if_neg hunlocked]
      rfl
    exact (hguarded.step hopened i).holds (hopened.step i) hlock
  case busy =>
    rintro i id model hstage ⟨id', hlocked, hopens⟩
    -- The file that is locked is the one that the call has open, as the path leads to both.
    have hid : id' = id := hopens.unique (hopened i id (by rw [hstage]; rfl)).opens
    subst hid
    constructor
    · exact Story.deeds_of_opened (hstage ▸ hstory i)
    · rw [System.turn, hstage, Stage.next, if_pos (by simpa using hlocked)]
  case idle => exact fun i hunwanted => (hstory i).of_unwanted hunwanted
  case ends => exact fun i r hstage => Story.ending (hstage ▸ hstory i)
  case executes => exact fun i hstage => System.ends_execute hstage

end MeshFirmware.Execution
