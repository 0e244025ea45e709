import MeshFirmware.Proofs.Disk.Opening
import MeshFirmware.Proofs.Updater.Installation
import MeshFirmware.Updater.Scripts

/-!
# Who inherits the lock

While a run goes on its lock is for the tool alone. The acts of every effect begin and end with a lock that is not
inheritable, unless the tool has taken the place of the updater (`Process.Alone.after_acts`), and in between the lock is
inheritable for the tool only (`Moment`). This goes through whole runs by induction on their effects, with any number of
installations that come back (`Process.Alone.after_actsAlong`), so no script of a run ever has its lock
(`lock_stays_with_run`).
-/

namespace MeshFirmware

/-! ## A lock that has been taken -/

namespace RunLock
variable {path : String} {d d' : Disk} {l : RunLock}

/-- A lock that has been taken is held, and not inheritable. -/
theorem of_acquire (h : acquire path d = (.ok l, d')) :
    l.inheritable = false ∧ l.id ∈ d'.locked ∧ d'.Lockable path l.id := by
  unfold acquire at h
  split at h
  · cases h
  next id opened hopen =>
    split at h
    · cases h
    next hpossible =>
      split at h
      · cases h
      · obtain ⟨hl, rfl⟩ := Prod.mk.inj h
        obtain rfl := Except.ok.inj hl
        have hlockable : opened.Lockable path id := ⟨Disk.opens_of_openFile hopen, hpossible⟩
        exact ⟨rfl, List.mem_cons_self, hlockable.lock id⟩

/-- A lock that somebody holds is not to be had. -/
theorem acquire_of_locked {id : Nat} (h : d.Lockable path id) (hlocked : id ∈ d.locked) :
    acquire path d = (.error (.busy path), d) := by
  rw [acquire, h.opens.openFile_eq]
  dsimp only
  rw [h.possible]
  exact if_pos (List.contains_iff_mem.mpr hlocked)

end RunLock

namespace Updater

namespace Process
variable {p : Process} {a : Act} {acts : List Act}

/-! ## Acts one after the other -/

theorem step_of_replaced (h : p.replaced = true) (a : Act) : p.step a = p := if_pos h

theorem after_of_replaced (h : p.replaced = true) (acts : List Act) : p.after acts = p := by
  induction acts with
  | nil => rfl
  | cons a rest ih =>
    rw [after, List.foldl_cons, step_of_replaced h]
    exact ih

theorem moments_of_replaced (h : p.replaced = true) (acts : List Act) : p.moments acts = [] := by
  cases acts with
  | nil => rfl
  | cons a rest => exact if_pos h

theorem moments_cons (h : p.replaced = false) (a : Act) (rest : List Act) :
    p.moments (a :: rest) = (p, a) :: (p.step a).moments rest := by
  rw [moments, if_neg (by simp [h])]

theorem after_append (p : Process) (front back : List Act) : p.after (front ++ back) = (p.after front).after back :=
  List.foldl_append

theorem moments_append (p : Process) (front back : List Act) :
    p.moments (front ++ back) = p.moments front ++ (p.after front).moments back := by
  induction front generalizing p with
  | nil => rfl
  | cons a rest ih =>
    cases hp : p.replaced with
    | true =>
      rw [moments_of_replaced hp, moments_of_replaced hp, after_of_replaced hp, moments_of_replaced hp]
      rfl
    | false =>
      rw [List.cons_append, moments_cons hp, moments_cons hp, ih]
      rfl

/-! ## The acts of an effect -/

/-- The updater is there, and what it starts does not inherit the lock. -/
structure Alone (p : Process) : Prop where
  closed : p.lock.inheritable = false
  present : p.replaced = false

/-- The process while the lock is inheritable. -/
def opened (p : Process) : Process := { p with lock := p.lock.setInheritable true }

/-- The process when a program has taken the place of the updater, with the lock. -/
def replacedBy (p : Process) (program : String) : Process :=
  { p.opened with heirs := p.heirs ++ [program], replaced := true }

theorem step_setInheritable (h : p.replaced = false) (inheritable : Bool) :
    p.step (.setInheritable inheritable) = { p with lock := p.lock.setInheritable inheritable } := by
  rw [step, if_neg (by simp [h])]

namespace Alone

theorem step_start (h : p.Alone) (program : String) (starts : Bool) : p.step (.start program starts) = p := by
  rw [step, if_neg (by simp [h.present])]
  simp [h.closed]

theorem present_opened (h : p.Alone) : p.opened.replaced = false := h.present

theorem step_open (h : p.Alone) : p.step (.setInheritable true) = p.opened := step_setInheritable h.present true

/-- Setting the lock back makes the process what it has been. -/
theorem step_close (h : p.Alone) : p.opened.step (.setInheritable false) = p := by
  have hlock : (p.lock.setInheritable true).setInheritable false = p.lock := by
    cases hl : p.lock with
    | mk id inheritable =>
      obtain rfl : inheritable = false := by
        have hclosed := h.closed
        rwa [hl] at hclosed
      rfl
  rw [step_setInheritable h.present_opened]
  simp only [opened, hlock]

theorem step_exec (h : p.Alone) (program : String) (arguments : List String) (tool : Tool) :
    p.opened.step (.exec program arguments tool) =
      if tool.refusal? = none then p.replacedBy program else p.opened := by
  rw [step, if_neg (by simp [h.present_opened])]
  cases tool.refusal? <;> rfl

end Alone

end Process

/-- What the process of a run does at one moment, if it is this process in between: it starts a script, or it makes the
lock inheritable, hands over to the tool, and sets the lock back. -/
inductive Moment (n : Programs) (imagePath : String) (p : Process) : Process → Act → Prop where
  | script {program : String} {starts : Bool} : Moment n imagePath p p (.start program starts)
  | opening : Moment n imagePath p p (.setInheritable true)
  | handing {tool : Tool} : Moment n imagePath p p.opened (.exec n.toolPath [imagePath] tool)
  | closing : Moment n imagePath p p.opened (.setInheritable false)

namespace Process.Alone
variable {p : Process}

theorem after_starts (h : p.Alone) (n : Programs) (imagePath : String) {acts : List Act}
    (hacts : ∀ a ∈ acts, ∃ program starts, a = .start program starts) :
    p.after acts = p ∧ ∀ m ∈ p.moments acts, Moment n imagePath p m.1 m.2 := by
  induction acts with
  | nil => exact ⟨rfl, fun m hm => nomatch hm⟩
  | cons a rest ih =>
    rw [List.forall_mem_cons] at hacts
    obtain ⟨⟨program, starts, rfl⟩, hrest⟩ := hacts
    obtain ⟨hafter, hmoments⟩ := ih hrest
    constructor
    · rw [after, List.foldl_cons, h.step_start]
      exact hafter
    · rw [moments_cons h.present, h.step_start, List.forall_mem_cons]
      exact ⟨.script, hmoments⟩

/-- Handing over leaves the process as it was if the tool does not start, and else the tool has the lock. -/
theorem after_handOverActs (h : p.Alone) (n : Programs) (imagePath : String) (tool : Tool) :
    p.after (handOverActs n.toolPath imagePath tool) =
        (if tool.refusal? = none then p.replacedBy n.toolPath else p) ∧
      ∀ m ∈ p.moments (handOverActs n.toolPath imagePath tool), Moment n imagePath p m.1 m.2 := by
  rw [handOverActs, moments_cons h.present, h.step_open, moments_cons h.present_opened, h.step_exec]
  simp only [after, List.foldl_cons, List.foldl_nil, h.step_open, h.step_exec]
  by_cases hworks : tool.refusal? = none
  · have hreplaced : (p.replacedBy n.toolPath).replaced = true := rfl
    simp only [if_pos hworks, step_of_replaced hreplaced, moments_of_replaced hreplaced, List.forall_mem_cons]
    exact ⟨trivial, .opening, .handing, fun m hm => nomatch hm⟩
  · simp only [if_neg hworks, h.step_close, moments_cons h.present_opened, List.forall_mem_cons]
    exact ⟨trivial, .opening, .handing, .closing, fun m hm => nomatch hm⟩

/-- What comes of handing over is what its acts come to. -/
theorem handOver_eq (h : p.Alone) (toolPath imagePath : String) (tool : Tool) :
    handOver tool imagePath p.lock = match tool.refusal? with
      | none => .replaced [imagePath] (p.after (handOverActs toolPath imagePath tool)).lock.inheritable
      | some cause => .failed cause (p.after (handOverActs toolPath imagePath tool)).lock := by
  simp only [after, handOverActs, List.foldl_cons, List.foldl_nil, h.step_open, h.step_exec]
  unfold handOver
  cases hrefusal : tool.refusal? with
  | none =>
    have hreplaced : (p.replacedBy toolPath).replaced = true := rfl
    simp only [if_true, step_of_replaced hreplaced]
    rfl
  | some cause =>
    simp only [reduceCtorEq, if_false]
    rw [step_setInheritable h.present_opened]
    rfl

/-- The acts of an effect leave the process as it was, unless it is an installation and the tool starts. -/
theorem after_acts (h : p.Alone) (n : Programs) (imagePath : String) (before : History) (e : Effect) :
    (p.after (n.acts imagePath before e) = p ∨
      (p.after (n.acts imagePath before e) = p.replacedBy n.toolPath ∧
        ∃ place, e = .install place ∧ (n.tool before).refusal? = none)) ∧
    ∀ m ∈ p.moments (n.acts imagePath before e), Moment n imagePath p m.1 m.2 := by
  cases e with
  | scripts o =>
    have hstarts : ∀ a ∈ n.acts imagePath before (.scripts o), ∃ program starts, a = .start program starts := by
      intro a ha
      obtain ⟨e, -, rfl⟩ := List.mem_map.mp ha
      exact ⟨_, _, rfl⟩
    obtain ⟨hafter, hmoments⟩ := h.after_starts n imagePath hstarts
    exact ⟨.inl hafter, hmoments⟩
  | install place =>
    obtain ⟨hafter, hmoments⟩ := h.after_handOverActs n imagePath (n.tool before)
    refine ⟨?_, hmoments⟩
    rw [Programs.acts, hafter]
    by_cases hworks : (n.tool before).refusal? = none
    · exact .inr ⟨if_pos hworks, place, rfl, hworks⟩
    · exact .inl (if_neg hworks)
  | fetch e => exact ⟨.inl rfl, fun m hm => nomatch hm⟩
  | ask q => exact ⟨.inl rfl, fun m hm => nomatch hm⟩

/-- The acts of any effects leave the process as it was, unless one of them is an installation and the tool starts. -/
theorem after_actsAlong (h : p.Alone) (n : Programs) (imagePath : String) (before effects : History) :
    (p.after (n.actsAlong imagePath before effects) = p ∨
      (p.after (n.actsAlong imagePath before effects) = p.replacedBy n.toolPath ∧
        ∃ front place, front ++ [.install place] <+: effects ∧ (n.tool (before ++ front)).refusal? = none)) ∧
    ∀ m ∈ p.moments (n.actsAlong imagePath before effects), Moment n imagePath p m.1 m.2 := by
  induction effects generalizing before with
  | nil => exact ⟨.inl rfl, fun m hm => nomatch hm⟩
  | cons e rest ih =>
    obtain ⟨hafter, hmoments⟩ := h.after_acts n imagePath before e
    rw [Programs.actsAlong, after_append, moments_append, List.forall_mem_append]
    rcases hafter with hafter | ⟨hafter, place, rfl, hworks⟩
    · -- The updater is there for the other effects, and they find it as this one did.
      obtain ⟨hend, hothers⟩ := ih (before ++ [e])
      rw [hafter]
      refine ⟨?_, hmoments, hothers⟩
      rcases hend with hend | ⟨hend, front, place, hfront, hworks⟩
      · exact .inl hend
      · refine .inr ⟨hend, e :: front, place, List.cons_prefix_cons.mpr ⟨rfl, hfront⟩, ?_⟩
        rwa [List.append_assoc] at hworks
    · have hreplaced : (p.replacedBy n.toolPath).replaced = true := rfl
      rw [hafter, after_of_replaced hreplaced, moments_of_replaced hreplaced]
      refine ⟨.inr ⟨rfl, [], place, ⟨rest, rfl⟩, ?_⟩, hmoments, fun m hm => nomatch hm⟩
      rwa [List.append_nil]

end Process.Alone

/-! ## Whole runs -/

/-- The updater or its tool holds the lock: its file is locked, and whoever asks for it is told so. -/
def Process.Holds (p : Process) (lockPath : String) : Prop :=
  p.lock.id ∈ p.disk.locked ∧ RunLock.acquire lockPath p.disk = (.error (.busy lockPath), p.disk)

/-- What becomes of the lock at this path, when a process that has just taken it goes through effects: it is held all
the time, no script inherits it, and it is inheritable only to start the tool and until it is set back. Between effects
the process is what it was at first, with a lock that is not inheritable, unless the tool has taken its place and is the
only one that has the lock. -/
structure KeepsLock (n : Programs) (imagePath lockPath : String) (before effects : History) (start : Process) :
    Prop where
  closed : start.lock.inheritable = false
  held : ∀ m ∈ start.moments (n.actsAlong imagePath before effects), m.1.Holds lockPath
  scripts : ∀ m ∈ start.moments (n.actsAlong imagePath before effects), ∀ program starts,
    m.2 = .start program starts → m.1.lock.inheritable = false ∧ m.1.heirs = []
  tool : ∀ m ∈ start.moments (n.actsAlong imagePath before effects), m.1.lock.inheritable = true ↔
    (∃ tool, m.2 = .exec n.toolPath [imagePath] tool) ∨ m.2 = .setInheritable false
  restored : ∀ tool cause lock, handOver tool imagePath start.lock = .failed cause lock → lock = start.lock
  between : ∀ front, front <+: effects →
    (start.after (n.actsAlong imagePath before front)).Holds lockPath ∧
      (start.after (n.actsAlong imagePath before front) = start ∨
        (start.after (n.actsAlong imagePath before front)).replaced = true ∧
        (start.after (n.actsAlong imagePath before front)).heirs = [n.toolPath] ∧
        ∃ earlier place, earlier ++ [.install place] <+: front ∧ (n.tool (before ++ earlier)).refusal? = none)

theorem Process.holds_of_acquire {lockPath : String} {d d' : Disk} {lock : RunLock}
    (h : RunLock.acquire lockPath d = (.ok lock, d')) : Process.Holds { lock, disk := d' } lockPath := by
  obtain ⟨-, hlocked, hlockable⟩ := RunLock.of_acquire h
  exact ⟨hlocked, RunLock.acquire_of_locked hlockable hlocked⟩

/-- In a run the lock is held from the beginning to the end and no script ever inherits it, with any number of attempts
and of installations that fail. The tool alone gets it, and when it does not start the lock is what it has been. -/
theorem lock_stays_with_run (n : Programs) (w : World) (t : Task) (f : Fortune) (s : Progress) {lockPath : String}
    {d d' : Disk} {lock : RunLock} (hlock : RunLock.acquire lockPath d = (.ok lock, d')) :
    ∃ effects, (run w t f s).2.history = s.history ++ effects ∧
      KeepsLock n t.imagePath lockPath s.history effects { lock, disk := d' } := by
  obtain ⟨mirrors, others, questions, -, hhistory⟩ := run_history w t f s
  refine ⟨_, hhistory, ?_⟩
  generalize mirrors.flatMap Visit.effects ++ (questions.map .ask ++ others.flatMap Visit.effects) = effects
  have hclosed := (RunLock.of_acquire hlock).1
  have halone : Process.Alone { lock, disk := d' } := ⟨hclosed, rfl⟩
  have hholds := Process.holds_of_acquire hlock
  have hmoments := (halone.after_actsAlong n t.imagePath s.history effects).2
  constructor
  case closed => exact hclosed
  case held =>
    rintro ⟨p, a⟩ hm
    cases hmoments _ hm <;> exact hholds
  case scripts =>
    rintro ⟨p, a⟩ hm program starts rfl
    cases hmoments _ hm
    exact ⟨hclosed, rfl⟩
  case tool =>
    rintro ⟨p, a⟩ hm
    cases hmoments _ hm with
    | script => simp [hclosed]
    | opening => simp [hclosed]
    | @handing tool => exact iff_of_true rfl (.inl ⟨tool, rfl⟩)
    | closing => exact iff_of_true rfl (.inr rfl)
  case restored =>
    intro tool cause lock' hfailed
    obtain ⟨hafter, -⟩ := halone.after_handOverActs n t.imagePath tool
    rw [halone.handOver_eq n.toolPath, hafter] at hfailed
    cases hrefusal : tool.refusal? with
    | none =>
      rw [hrefusal] at hfailed
      cases hfailed
    | some cause' =>
      rw [hrefusal] at hfailed
      exact (HandOver.failed.inj hfailed).2.symm
  case between =>
    intro front _
    rcases (halone.after_actsAlong n t.imagePath s.history front).1 with hend | ⟨hend, hworks⟩
    · rw [hend]
      exact ⟨hholds, .inl rfl⟩
    · rw [hend]
      exact ⟨hholds, .inr ⟨rfl, rfl, hworks⟩⟩

/-- Programs of a node whose tool is missing, with one script for each occasion. -/
def toollessPrograms : Programs where
  scriptsPath := "/usr/lib/autoupdater"
  entries _ _ := [⟨"10-services", 0o755, .file true⟩]
  toolPath := "/sbin/sysupgrade"
  tool _ := .missing

/-- In the small world a run starts two scripts, fails to hand over, and then starts a third one, which does not inherit
the lock either. -/
theorem lock_stays_with_small_run :
    ∃ effects, (run smallWorld (smallTask "1" 0) smallFortune { place := .absent }).2.history = effects ∧
      KeepsLock toollessPrograms "/tmp/firmware.bin" "/l" [] effects
        { lock := { id := 0 }, disk := (RunLock.acquire "/l" .empty).2 } ∧
      (Process.moments { lock := { id := 0 }, disk := (RunLock.acquire "/l" .empty).2 }
        (toollessPrograms.actsAlong "/tmp/firmware.bin" [] effects)).map (fun m => (m.1.lock.inheritable, m.2)) =
        [(false, .start "/usr/lib/autoupdater/download.d/10-services" true),
          (false, .start "/usr/lib/autoupdater/upgrade.d/10-services" true),
          (false, .setInheritable true),
          (true, .exec "/sbin/sysupgrade" ["/tmp/firmware.bin"] .missing),
          (true, .setInheritable false),
          (false, .start "/usr/lib/autoupdater/abort.d/10-services" true)] := by
  have hsplit : "/l".splitOn "/" = ["", "l"] := by
    rw [String.splitOn, if_neg (by decide)]
    -- The slash is the first character, and the text ends after the second one.
    rw [String.splitOnAux, if_neg (by decide), if_pos (by decide)]
    dsimp only
    rw [if_pos (by decide)]
    rw [String.splitOnAux, if_neg (by decide), if_neg (by decide)]
    rw [String.splitOnAux, if_pos (by decide)]
    decide +kernel
  have hnames : Disk.names "/l" = ["l"] := by
    rw [Disk.names, hsplit]
    decide
  have hlock : RunLock.acquire "/l" .empty = (.ok { id := 0 }, (RunLock.acquire "/l" .empty).2) := by
    simp only [RunLock.acquire, Disk.openFile, Disk.find, hnames]
    decide +kernel
  obtain ⟨effects, hhistory, hkeeps⟩ :=
    lock_stays_with_run toollessPrograms smallWorld (smallTask "1" 0) smallFortune { place := .absent } hlock
  refine ⟨effects, hhistory, hkeeps, ?_⟩
  rw [← show _ = effects from hhistory]
  decide +kernel

end Updater

end MeshFirmware
