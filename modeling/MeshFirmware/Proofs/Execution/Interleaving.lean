import Mathlib.Logic.Function.Basic
import MeshFirmware.Execution
import MeshFirmware.Proofs.Disk.Opening

/-!
# Calls side by side

Any number of calls of the updater share a disk and take turns in any order (`System.after`). In one turn a call
comes as far as an open file that can be locked, or takes the lock on the file that it has open, or has one effect of its run, or records
a run that ended well, or gives the lock back. Another call can have its turn between any two of these, and one that
never comes back, as when an installation has taken over, takes no more turns.

Whatever the order is, a call that has come to its end is an execution on a disk that it has found on its way, and it
has done what this execution does (`story_after`). If a call has all of the turns from its first to its last, they
make up one execution as a whole (`System.ends_execute`).
-/

namespace MeshFirmware.Execution

open Updater (World Fortune Progress Outcome Effect ImagePlace)

/-- A call, with all that it is given. What the world does to a call may also come from other calls. -/
structure Call where
  world : World
  fortune : Fortune
  config : Config
  args : CommandLine.UpdaterArgs
  node : Node
  imagePath : String
  place : ImagePlace

namespace Call

/-- Whether the call is to do anything. -/
def wanted (c : Call) : Bool := c.config.enabled || c.args.force

/-- The first phase of the call. -/
def enter (c : Call) (lockPath : String) (d : Disk) : Entry × Disk :=
  Execution.enter c.config c.args c.node lockPath d

/-- The second phase of the call. -/
def work (c : Call) (model : String) : Except Failure Outcome × Progress :=
  Execution.work c.world c.fortune c.config c.args c.node model c.imagePath { place := c.place }

/-- The call as a whole, if nothing happens beside it. -/
def execute (c : Call) (lockPath : String) (d : Disk) : Executed :=
  Execution.execute c.world c.fortune c.config c.args c.node lockPath c.imagePath c.place d

end Call

/-- What others can see of a call. -/
inductive Deed where
  | effect (e : Effect)
  /-- The time of the run is recorded in the file of the lock. -/
  | record
  deriving DecidableEq

/-- Where a call is. -/
inductive Stage where
  | waiting
  /-- The file of the lock is open and can be locked, and has not been locked by this call. -/
  | opened (id : Nat) (model : String)
  /-- The lock is held, and these effects of the run are still to come. -/
  | running (lock : RunLock) (left : List Effect) (result : Except Failure Outcome)
  /-- The run has been recorded, and the lock is still held. -/
  | leaving (lock : RunLock) (result : Except Failure Outcome)
  | ended (result : Except Failure (Option Outcome))

/-- The number of the file that a call has open. -/
def Stage.file? : Stage → Option Nat
  | .opened id _ => some id
  | .running lock _ _ => some lock.id
  | .leaving lock _ => some lock.id
  | _ => none

/-- A turn of a call: where it is then, the disk, and what it has done. -/
structure Turn where
  stage : Stage
  disk : Disk
  deeds : List Deed := []

/-- The next turn of a call. -/
def Stage.next (c : Call) (lockPath : String) (d : Disk) : Stage → Turn
  | .waiting =>
    if c.wanted then
      match c.node.model with
      | none => { stage := .ended (.error .unknownModel), disk := d }
      | some model =>
        match d.openFile lockPath with
        | (.error cause, d) => { stage := .ended (.error (.lock (.unopened lockPath cause))), disk := d }
        | (.ok id, d) =>
          -- No turn changes whether files can be locked, so that is settled here.
          match d.lockProblem with
          | some cause => { stage := .ended (.error (.lock (.unlockable lockPath cause))), disk := d }
          | none => { stage := .opened id model, disk := d }
    else { stage := .ended (.ok none), disk := d }
  | .opened id model =>
    if d.locked.contains id then { stage := .ended (.error (.lock (.busy lockPath))), disk := d }
    else { stage := .running { id } (c.work model).2.history (c.work model).1, disk := d.lock id }
  | .running lock (e :: left) result => { stage := .running lock left result, disk := d, deeds := [.effect e] }
  | .running lock [] result =>
    if isOutcome result then { stage := .leaving lock result, disk := lock.touch d, deeds := [.record] }
    else { stage := .ended (result.map some), disk := lock.release d }
  | .leaving lock result => { stage := .ended (result.map some), disk := lock.release d }
  | .ended result => { stage := .ended result, disk := d }

/-! ## Systems of calls -/

/-- Calls that share a disk, and all that they have done, in order. -/
structure System (ι : Type) where
  disk : Disk
  stage : ι → Stage := fun _ => .waiting
  log : List (ι × Deed) := []

namespace System
variable {ι : Type} [DecidableEq ι]

/-- The next turn of one of the calls. -/
def turn (calls : ι → Call) (lockPath : String) (s : System ι) (i : ι) : Turn :=
  (s.stage i).next (calls i) lockPath s.disk

/-- After one more turn of one of the calls. -/
def step (calls : ι → Call) (lockPath : String) (s : System ι) (i : ι) : System ι where
  disk := (s.turn calls lockPath i).disk
  stage := Function.update s.stage i (s.turn calls lockPath i).stage
  log := s.log ++ (s.turn calls lockPath i).deeds.map (i, ·)

/-- After these turns of calls. -/
def after (calls : ι → Call) (lockPath : String) (d : Disk) (turns : List ι) : System ι :=
  turns.foldl (step calls lockPath) { disk := d }

/-- What one of the calls has done. -/
def deedsOf (s : System ι) (i : ι) : List Deed := (s.log.filter fun x => x.1 = i).map Prod.snd

section
variable {calls : ι → Call} {lockPath : String} {d : Disk} {s : System ι} {i j : ι}

@[simp] theorem stage_step_self : (s.step calls lockPath i).stage i = (s.turn calls lockPath i).stage :=
  Function.update_self ..

theorem stage_step_of_ne (h : j ≠ i) : (s.step calls lockPath i).stage j = s.stage j := Function.update_of_ne h ..

@[simp] theorem deedsOf_step_self :
    (s.step calls lockPath i).deedsOf i = s.deedsOf i ++ (s.turn calls lockPath i).deeds := by
  simp [deedsOf, step, List.filter_append, List.filter_map, Function.comp_def]

theorem deedsOf_step_of_ne (h : j ≠ i) : (s.step calls lockPath i).deedsOf j = s.deedsOf j := by
  simp [deedsOf, step, List.filter_append, List.filter_map, Function.comp_def, h.symm]

/-- What holds at the start and after every turn holds throughout. -/
theorem after_induction {P : System ι → Prop} (start : P { disk := d })
    (next : ∀ s i, P s → P (s.step calls lockPath i)) (turns : List ι) : P (after calls lockPath d turns) :=
  List.foldlRecOn turns _ start fun s hs i _ => next s i hs

end

end System

/-! ## The file of the lock -/

section
variable {c : Call} {lockPath : String} {d : Disk} {id : Nat}

/-- A turn leaves the file at the path there, since it makes one only if there is none. -/
theorem Stage.next_keeps (stage : Stage) (h : d.Lockable lockPath id) :
    (stage.next c lockPath d).disk.Lockable lockPath id := by
  cases stage with
  | waiting =>
    simp only [Stage.next, h.opens.openFile_eq, h.possible]
    split
    · split <;> exact h
    · exact h
  | opened id' model =>
    rw [Stage.next]
    split
    · exact h
    · exact h.lock id'
  | running lock left result =>
    cases left with
    | cons e left => exact h
    | nil =>
      rw [Stage.next]
      split
      · exact h.touch lock.id
      · exact h.unlock lock.id
  | leaving lock result => exact h.unlock lock.id
  | ended result => exact h

/-- The file that a call has open stays the one at the path. -/
theorem Stage.next_lockable {stage : Stage} (h : ∀ id ∈ stage.file?, d.Lockable lockPath id) :
    ∀ id ∈ (stage.next c lockPath d).stage.file?, (stage.next c lockPath d).disk.Lockable lockPath id := by
  have hnone (d' : Disk) : ∀ id ∈ (none : Option Nat), d'.Lockable lockPath id := by
    intro id hid
    exact absurd hid (Option.not_mem_none id)
  cases stage with
  | waiting =>
    rw [Stage.next]
    split
    · split
      · exact hnone _
      · rcases hopen : d.openFile lockPath with ⟨cause | id, d'⟩
        · exact hnone _
        · dsimp only
          split
          · exact hnone _
          next hpossible =>
            rintro _ ⟨⟩
            exact ⟨Disk.opens_of_openFile hopen, hpossible⟩
    · exact hnone _
  | opened id model =>
    rw [Stage.next]
    split
    · exact hnone _
    · rintro _ ⟨⟩
      exact (h id rfl).lock id
  | running lock left result =>
    cases left with
    | cons e left => exact h
    | nil =>
      rw [Stage.next]
      split
      · rintro _ ⟨⟩
        exact (h lock.id rfl).touch lock.id
      · exact hnone _
  | leaving lock result => exact hnone _
  | ended result => exact hnone _

/-- Every file that is open for the lock is the one at its path, and can be locked. -/
def System.Opened {ι : Type} (s : System ι) (lockPath : String) : Prop :=
  ∀ i, ∀ id ∈ (s.stage i).file?, s.disk.Lockable lockPath id

theorem System.Opened.step {ι : Type} [DecidableEq ι] {calls : ι → Call} {s : System ι} (h : s.Opened lockPath)
    (i : ι) : (s.step calls lockPath i).Opened lockPath := by
  intro j id hid
  by_cases hj : j = i
  · subst hj
    rw [stage_step_self] at hid
    exact Stage.next_lockable (h j) id hid
  · rw [stage_step_of_ne hj] at hid
    exact Stage.next_keeps (s.stage i) (h j id hid)

end

/-! ## The ways of a call -/

namespace Call
variable {c : Call} {lockPath model : String} {d d' : Disk} {id : Nat} {lock : RunLock}

theorem enter_of_unwanted (h : c.wanted = false) : c.enter lockPath d = (.idle, d) := by
  obtain ⟨henabled, hforce⟩ := Bool.or_eq_false_iff.mp h
  simp [enter, Execution.enter, henabled, hforce]

theorem gate_of_wanted (h : c.wanted = true) : ¬ (!c.config.enabled && !c.args.force) = true := by
  rw [← Bool.not_or, ← wanted, h]
  decide

theorem enter_of_unknownModel (h : c.wanted = true) (hmodel : c.node.model = none) :
    c.enter lockPath d = (.refused .unknownModel, d) := by
  simp only [enter, Execution.enter, if_neg (gate_of_wanted h), hmodel]

theorem enter_of_unopened {cause : OsError} (h : c.wanted = true) (hmodel : c.node.model = some model)
    (hopen : d.openFile lockPath = (.error cause, d')) :
    c.enter lockPath d = (.refused (.lock (.unopened lockPath cause)), d') := by
  simp only [enter, Execution.enter, if_neg (gate_of_wanted h), hmodel, RunLock.acquire, hopen]

theorem enter_of_unlockable {cause : OsError} (h : c.wanted = true) (hmodel : c.node.model = some model)
    (hopen : d.openFile lockPath = (.ok id, d')) (hproblem : d'.lockProblem = some cause) :
    c.enter lockPath d = (.refused (.lock (.unlockable lockPath cause)), d') := by
  simp only [enter, Execution.enter, if_neg (gate_of_wanted h), hmodel, RunLock.acquire, hopen, hproblem]

theorem enter_of_busy (h : c.wanted = true) (hmodel : c.node.model = some model)
    (hopen : d.openFile lockPath = (.ok id, d')) (hpossible : d'.lockProblem = none)
    (hlocked : d'.locked.contains id = true) : c.enter lockPath d = (.refused (.lock (.busy lockPath)), d') := by
  simp only [enter, Execution.enter, if_neg (gate_of_wanted h), hmodel, RunLock.acquire, hopen, hpossible,
    if_pos hlocked]

theorem enter_of_free (h : c.wanted = true) (hmodel : c.node.model = some model)
    (hopen : d.openFile lockPath = (.ok id, d')) (hpossible : d'.lockProblem = none)
    (hfree : ¬ d'.locked.contains id = true) : c.enter lockPath d = (.admitted { id } model, d'.lock id) := by
  simp only [enter, Execution.enter, if_neg (gate_of_wanted h), hmodel, RunLock.acquire, hopen, hpossible,
    if_neg hfree]

theorem execute_of_idle (h : c.enter lockPath d = (.idle, d')) :
    c.execute lockPath d = ⟨.ok none, { place := c.place }, d'⟩ := by
  rw [enter] at h
  rw [execute, Execution.execute, h]

theorem execute_of_refused {e : Failure} (h : c.enter lockPath d = (.refused e, d')) :
    c.execute lockPath d = ⟨.error e, { place := c.place }, d'⟩ := by
  rw [enter] at h
  rw [execute, Execution.execute, h]

theorem execute_of_admitted (h : c.enter lockPath d = (.admitted lock model, d')) :
    c.execute lockPath d =
      ⟨(c.work model).1.map some, (c.work model).2, leave lock (isOutcome (c.work model).1) d'⟩ := by
  rw [enter] at h
  rw [execute, Execution.execute, h]
  rfl

end Call

/-! ## Every call is an execution -/

/-- What is recorded of an execution. -/
def recordOf : Except Failure (Option Outcome) → List Deed
  | .ok (some _) => [.record]
  | _ => []

/-- All that an execution does. -/
def Executed.deeds (r : Executed) : List Deed := r.progress.history.map .effect ++ recordOf r.result

/-- How a call has come to where it is, and all that it has done on the way. -/
inductive Story (c : Call) (lockPath : String) : Stage → List Deed → Prop
  | waiting : Story c lockPath .waiting []
  | opened {id : Nat} {model : String} (wanted : c.wanted = true) (known : c.node.model = some model) :
    Story c lockPath (.opened id model) []
  | running {d d' : Disk} {lock : RunLock} {model : String} {made left : List Effect}
    (entered : c.enter lockPath d = (.admitted lock model, d')) (effects : (c.work model).2.history = made ++ left) :
    Story c lockPath (.running lock left (c.work model).1) (made.map .effect)
  | leaving {d d' : Disk} {lock : RunLock} {model : String}
    (entered : c.enter lockPath d = (.admitted lock model, d')) (well : isOutcome (c.work model).1 = true) :
    Story c lockPath (.leaving lock (c.work model).1) ((c.work model).2.history.map .effect ++ [.record])
  | ended (d : Disk) : Story c lockPath (.ended (c.execute lockPath d).result) (c.execute lockPath d).deeds

section
variable {c : Call} {lockPath : String} {stage : Stage} {deeds : List Deed} {d : Disk}

theorem recordOf_map_some {result : Except Failure Outcome} :
    recordOf (result.map some) = if isOutcome result then [.record] else [] := by
  cases result <;> rfl

theorem Story.of_execute {r : Executed} (h : c.execute lockPath d = r) :
    Story c lockPath (.ended r.result) r.deeds := by
  rw [← h]
  exact .ended d

/-- One more turn. The file that the call has open is still the one at the path. -/
theorem Story.next (h : Story c lockPath stage deeds)
    (hopens : ∀ id ∈ stage.file?, d.Lockable lockPath id) :
    Story c lockPath (stage.next c lockPath d).stage (deeds ++ (stage.next c lockPath d).deeds) := by
  cases h with
  | waiting =>
    rw [Stage.next]
    by_cases hwanted : c.wanted = true
    · rw [if_pos hwanted]
      cases hmodel : c.node.model with
      | none => exact .of_execute (Call.execute_of_refused (Call.enter_of_unknownModel (d := d) hwanted hmodel))
      | some model =>
        rcases hopen : d.openFile lockPath with ⟨cause | id, d'⟩
        · exact .of_execute (Call.execute_of_refused (Call.enter_of_unopened hwanted hmodel hopen))
        · dsimp only
          split
          next hproblem =>
            exact .of_execute (Call.execute_of_refused (Call.enter_of_unlockable hwanted hmodel hopen hproblem))
          next => exact .opened hwanted hmodel
    · rw [if_neg hwanted]
      exact .of_execute (Call.execute_of_idle (Call.enter_of_unwanted (d := d) (by simpa using hwanted)))
  | @opened id model hwanted hmodel =>
    -- The path still leads to the file that is open, so to lock it now is to enter now.
    obtain ⟨hopens, hpossible⟩ := hopens id rfl
    have hopen := hopens.openFile_eq
    rw [Stage.next]
    split
    next hlocked =>
      exact .of_execute (Call.execute_of_refused (Call.enter_of_busy hwanted hmodel hopen hpossible hlocked))
    next hfree => exact .running (Call.enter_of_free hwanted hmodel hopen hpossible hfree) (List.nil_append _).symm
  | @running _ _ lock model made left hentered heffects =>
    cases left with
    | cons e left =>
      have hmade : (c.work model).2.history = (made ++ [e]) ++ left := by rw [heffects, List.append_assoc]; rfl
      have hstory := Story.running hentered hmade
      rwa [List.map_append] at hstory
    | nil =>
      rw [List.append_nil] at heffects
      subst heffects
      -- All of the effects have been made, and it depends on the result whether the run is recorded.
      rw [Stage.next]
      split
      next hwell => exact .leaving hentered hwell
      next hfailed =>
        have hstory := Story.of_execute (Call.execute_of_admitted hentered)
        rwa [Executed.deeds, recordOf_map_some, if_neg hfailed] at hstory
  | leaving hentered hwell =>
    have hstory := Story.of_execute (Call.execute_of_admitted hentered)
    rwa [Executed.deeds, recordOf_map_some, if_pos hwell, ← List.append_nil (_ ++ _)] at hstory
  | ended d' =>
    rw [Stage.next, List.append_nil]
    exact .ended d'

/-- What is open for the lock, and how every call has come to where it is. -/
theorem story_after {ι : Type} [DecidableEq ι] (calls : ι → Call) (lockPath : String) (d : Disk) (turns : List ι) :
    let s := System.after calls lockPath d turns
    s.Opened lockPath ∧ ∀ i, Story (calls i) lockPath (s.stage i) (s.deedsOf i) := by
  refine System.after_induction
    (P := fun s => s.Opened lockPath ∧ ∀ i, Story (calls i) lockPath (s.stage i) (s.deedsOf i))
    ⟨fun _ _ hid => (nomatch hid), fun _ => .waiting⟩ ?_ turns
  rintro s i ⟨hopened, hstory⟩
  refine ⟨hopened.step i, fun j => ?_⟩
  by_cases hj : j = i
  · subst hj
    rw [System.stage_step_self, System.deedsOf_step_self]
    exact (hstory j).next (hopened j)
  · rw [System.stage_step_of_ne hj, System.deedsOf_step_of_ne hj]
    exact hstory j

/-! ## A call alone -/

namespace System
variable {ι : Type} [DecidableEq ι] {calls : ι → Call} {i : ι} {s : System ι} {d' : Disk} {lock : RunLock}
  {made : List Deed} {result : Except Failure Outcome} {r : Except Failure (Option Outcome)}

/-- If the call has all of the next turns it ends like this, and this is what it does until then. -/
def Ends (s : System ι) (calls : ι → Call) (lockPath : String) (i : ι) (r : Except Failure (Option Outcome))
    (deeds : List Deed) (d : Disk) : Prop :=
  ∃ n, let s' := (List.replicate n i).foldl (step calls lockPath) s
    s'.stage i = .ended r ∧ s'.deedsOf i = s.deedsOf i ++ deeds ∧ s'.disk = d

theorem ends_of_turn (ht : s.turn calls lockPath i = ⟨stage, d', made⟩)
    (h : ∀ s' : System ι, s'.stage i = stage → s'.disk = d' → s'.Ends calls lockPath i r deeds d) :
    s.Ends calls lockPath i r (made ++ deeds) d := by
  obtain ⟨n, hstage, hdeeds, hdisk⟩ := h (s.step calls lockPath i) (by simp [ht]) (by simp [step, ht])
  refine ⟨n + 1, hstage, ?_, hdisk⟩
  rw [deedsOf_step_self, ht, List.append_assoc] at hdeeds
  exact hdeeds

/-- The last turn. -/
theorem ends_of_ended (ht : s.turn calls lockPath i = ⟨.ended r, d, deeds⟩) : s.Ends calls lockPath i r deeds d := by
  refine ⟨1, ?_, ?_, ?_⟩
  · exact stage_step_self.trans (congrArg Turn.stage ht)
  · exact deedsOf_step_self.trans (congrArg (s.deedsOf i ++ ·.deeds) ht)
  · exact congrArg Turn.disk ht

theorem ends_of_running {left : List Effect} (h : s.stage i = .running lock left result) :
    s.Ends calls lockPath i (result.map some) (left.map .effect ++ recordOf (result.map some))
      (leave lock (isOutcome result) s.disk) := by
  induction left generalizing s with
  | cons e left ih =>
    have hturn : s.turn calls lockPath i = ⟨.running lock left result, s.disk, [.effect e]⟩ := by
      rw [turn, h]
      rfl
    rw [List.map_cons, List.cons_append, ← List.singleton_append]
    refine ends_of_turn hturn fun s' hstage hdisk => ?_
    rw [← hdisk]
    exact ih hstage
  | nil =>
    rw [recordOf_map_some, List.map_nil, List.nil_append]
    by_cases hwell : isOutcome result = true
    · have hturn : s.turn calls lockPath i = ⟨.leaving lock result, lock.touch s.disk, [.record]⟩ := by
        rw [turn, h, Stage.next, if_pos hwell]
      rw [leave, if_pos hwell, if_pos hwell, ← List.append_nil [Deed.record]]
      refine ends_of_turn hturn fun s' hstage hdisk => ends_of_ended ?_
      rw [turn, hstage, hdisk]
      rfl
    · rw [leave, if_neg hwell, if_neg hwell]
      refine ends_of_ended ?_
      rw [turn, h, Stage.next, if_neg hwell]

/-- The turns of a call without others between them are an execution, with all that it leaves on the disk. -/
theorem ends_execute (h : s.stage i = .waiting) :
    s.Ends calls lockPath i ((calls i).execute lockPath s.disk).result ((calls i).execute lockPath s.disk).deeds
      ((calls i).execute lockPath s.disk).disk := by
  by_cases hwanted : (calls i).wanted = true
  · cases hmodel : (calls i).node.model with
    | none =>
      rw [Call.execute_of_refused (Call.enter_of_unknownModel hwanted hmodel)]
      refine ends_of_ended ?_
      rw [turn, h, Stage.next, if_pos hwanted, hmodel]
      rfl
    | some model =>
      rcases hopen : s.disk.openFile lockPath with ⟨cause | id, d'⟩
      · rw [Call.execute_of_refused (Call.enter_of_unopened hwanted hmodel hopen)]
        refine ends_of_ended ?_
        rw [turn, h, Stage.next, if_pos hwanted, hmodel, hopen]
        rfl
      · cases hproblem : d'.lockProblem with
        | some cause =>
          rw [Call.execute_of_refused (Call.enter_of_unlockable hwanted hmodel hopen hproblem)]
          refine ends_of_ended ?_
          simp only [turn, h, Stage.next, if_pos hwanted, hmodel, hopen, hproblem]
          rfl
        | none =>
          -- The way in takes two turns, of which neither does anything that others see.
          have hturn : s.turn calls lockPath i = ⟨.opened id model, d', []⟩ := by
            simp only [turn, h, Stage.next, if_pos hwanted, hmodel, hopen, hproblem]
          rw [← List.nil_append (Executed.deeds _)]
          refine ends_of_turn hturn fun s' hstage hdisk => ?_
          by_cases hlocked : d'.locked.contains id = true
          · rw [Call.execute_of_refused (Call.enter_of_busy hwanted hmodel hopen hproblem hlocked)]
            refine ends_of_ended ?_
            rw [turn, hstage, hdisk, Stage.next, if_pos hlocked]
            rfl
          · rw [Call.execute_of_admitted (Call.enter_of_free hwanted hmodel hopen hproblem hlocked)]
            have hturn' : s'.turn calls lockPath i =
                ⟨.running { id } ((calls i).work model).2.history ((calls i).work model).1, d'.lock id, []⟩ := by
              rw [turn, hstage, hdisk, Stage.next, if_neg hlocked]
            rw [← List.nil_append (Executed.deeds _)]
            refine ends_of_turn hturn' fun s'' hstage' hdisk' => ?_
            rw [← hdisk']
            exact ends_of_running hstage'
  · rw [Call.execute_of_idle (Call.enter_of_unwanted (by simpa using hwanted))]
    refine ends_of_ended ?_
    rw [turn, h, Stage.next, if_neg hwanted]
    rfl

end System

end

end MeshFirmware.Execution
