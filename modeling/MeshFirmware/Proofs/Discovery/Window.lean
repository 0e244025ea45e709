import MeshFirmware.Proofs.Discovery.Exchange

/-!
# The window of a request

The budget of a request is charged with the time of its sending, and then with each turn: the wait and the handling of
what it brings. A wait is given what is left (`Paced`). So the waits get shorter, none is begun when the budget is used
up, and they take no longer than the budget, all of them together, however many answers come
(`window_within_budget`).
-/

namespace MeshFirmware.Discovery
variable {σ : Type}

/-- These are time-outs of waits that bring answers one after the other, with so much time left before the first: each
wait is given what is left then. -/
inductive Paced : Nat → List Wait → List Nat → Prop where
  | nil (left : Nat) (waits : List Wait) : Paced left waits []
  | last {left : Nat} (hpos : 0 < left) (waits : List Wait) : Paced left waits [left]
  | cons {left : Nat} {w : Wait} {waits : List Wait} {timeouts : List Nat} (hpos : 0 < left)
      (later : Paced (left - w.duration) waits timeouts) : Paced left (w :: waits) (left :: timeouts)

/-! ## What a request gives its waits -/

theorem Stops.paced {handler : Handler σ} {s s' : σ} {left : Nat} {waits : List Wait} {e : Ending}
    {last : List Event} (h : Stops handler s left waits e last s') :
    Paced left waits (last.filterMap Event.timeout?) := by
  cases h with
  | silence =>
    by_cases hzero : left = 0
    · rw [if_pos hzero]
      exact .nil left _
    · rw [if_neg hzero]
      exact .last (Nat.pos_of_ne_zero hzero) _
  | cancelled hpos => exact .last hpos _
  | failed hpos => exact .last hpos _

theorem Follows.paced {handler : Handler σ} {s : σ} {left : Nat} {waits : List Wait} {x : Exchange σ}
    (h : Follows handler s left waits x) : Paced left waits x.timeouts := by
  induction h using Follows.induct with
  | stops h => exact h.paced
  | goes_on hpos hr hgo later ih =>
    rw [timeouts_after]
    exact .cons hpos ih

theorem paced_ask (query : Query) (scene : Scene) (handler : Option (Handler σ)) (state : σ) :
    Paced (query.budget - scene.dispatch.taken) (scene.turns.map Turn.toWait)
      (ask query scene handler state).timeouts := by
  unfold ask
  cases scene.dispatch.failure with
  | some cause => exact .nil _ _
  | none =>
    cases handler with
    | none => exact .nil _ _
    | some h =>
      dsimp only
      rw [timeouts_after, scene.dispatch.sent_sub_started]
      exact (follows_attend h state _ _ scene.turns).paced

/-! ## What that says of the time -/

theorem spent_take_le {i j : Nat} (h : i ≤ j) (waits : List Wait) : spent (waits.take i) ≤ spent (waits.take j) := by
  induction waits generalizing i j with
  | nil => simp
  | cons w waits ih =>
    cases i with
    | zero => exact Nat.zero_le _
    | succ i =>
      cases j with
      | zero => omega
      | succ j =>
        rw [List.take_succ_cons, List.take_succ_cons, spent, spent]
        exact Nat.add_le_add_left (ih (Nat.le_of_succ_le_succ h)) _

/-- The time inside the waits that are given these time-outs. A wait that nothing is told of takes all of its time. -/
def waited : List Nat → List Wait → Nat
  | [], _ => 0
  | t :: ts, [] => t + waited ts []
  | _ :: ts, w :: ws => w.waiting + waited ts ws

namespace Paced
variable {left : Nat} {waits : List Wait} {timeouts : List Nat}

/-- A wait is given the budget less the time before it. -/
theorem time_left (h : Paced left waits timeouts) {k t : Nat} (ht : timeouts[k]? = some t) :
    0 < t ∧ t + spent (waits.take k) = left := by
  induction h generalizing k with
  | nil => simp at ht
  | last hpos =>
    cases k with
    | zero =>
      obtain rfl : _ = t := by simpa using ht
      exact ⟨hpos, by simp [spent]⟩
    | succ k => simp at ht
  | cons hpos later ih =>
    cases k with
    | zero =>
      obtain rfl : _ = t := by simpa using ht
      exact ⟨hpos, by simp [spent]⟩
    | succ k =>
      obtain ⟨htpos, hsum⟩ := ih (by simpa using ht)
      refine ⟨htpos, ?_⟩
      rw [List.take_succ_cons, spent]
      omega

/-- Once the time is used up, no wait is begun. -/
theorem length_le (h : Paced left waits timeouts) {k : Nat} (hused : left ≤ spent (waits.take k)) :
    timeouts.length ≤ k := by
  refine Nat.le_of_not_lt fun hlate => ?_
  obtain ⟨hpos, hsum⟩ := h.time_left (List.getElem?_eq_getElem hlate)
  omega

theorem pairwise_ge (h : Paced left waits timeouts) : timeouts.Pairwise (· ≥ ·) := by
  rw [List.pairwise_iff_getElem]
  intro i j hi hj hij
  obtain ⟨-, hfirst⟩ := h.time_left (List.getElem?_eq_getElem hi)
  obtain ⟨-, hsecond⟩ := h.time_left (List.getElem?_eq_getElem hj)
  have hmore := spent_take_le (Nat.le_of_lt hij) waits
  omega

/-- The last wait is within what is left when it is begun, and the ones before are paid for. -/
theorem waited_le (h : Paced left waits timeouts) (hkept : ∀ p ∈ timeouts.zip waits, p.2.waiting ≤ p.1) :
    waited timeouts waits ≤ left := by
  -- What is left never goes below zero, so a turn that takes too long is covered by its own wait being kept.
  induction h with
  | nil => exact Nat.zero_le _
  | last hpos waits =>
    cases waits with
    | nil => exact Nat.le_refl _
    | cons w waits => exact hkept (_, w) List.mem_cons_self
  | @cons left w waits timeouts hpos later ih =>
    have hfirst : w.waiting ≤ left := hkept (left, w) List.mem_cons_self
    have hrest := ih fun p hp => hkept p (List.mem_cons_of_mem _ hp)
    rw [waited]
    rw [Wait.duration] at hrest
    omega

end Paced

/-! ## The budget -/

/-- The time that is used up before the wait at this place: by the sending, and by the turns before. -/
def Scene.usedBefore (scene : Scene) (k : Nat) : Nat :=
  scene.dispatch.taken + spent ((scene.turns.map Turn.toWait).take k)

/-- Each wait is given exactly what is left of the budget, and something is left. So no wait is begun when the budget is
used up, and time-outs do not grow. When no wait takes longer than it is given, all of them together take no longer than
the budget. -/
theorem window_within_budget (query : Query) (scene : Scene) (handler : Option (Handler σ)) (state : σ) :
    (∀ k t, (ask query scene handler state).timeouts[k]? = some t →
        0 < t ∧ t = query.budget - scene.usedBefore k) ∧
      (∀ k, query.budget ≤ scene.usedBefore k → (ask query scene handler state).timeouts.length ≤ k) ∧
      (ask query scene handler state).timeouts.Pairwise (· ≥ ·) ∧
      ((∀ p ∈ (ask query scene handler state).timeouts.zip (scene.turns.map Turn.toWait), p.2.waiting ≤ p.1) →
        waited (ask query scene handler state).timeouts (scene.turns.map Turn.toWait) ≤ query.budget) := by
  have hpaced := paced_ask query scene handler state
  refine ⟨?_, ?_, hpaced.pairwise_ge, ?_⟩
  · intro k t ht
    obtain ⟨hpos, hsum⟩ := hpaced.time_left ht
    refine ⟨hpos, ?_⟩
    rw [Scene.usedBefore]
    omega
  · intro k hused
    refine hpaced.length_le ?_
    rw [Scene.usedBefore] at hused
    omega
  · intro hkept
    exact Nat.le_trans (hpaced.waited_le hkept) (Nat.sub_le _ _)

theorem window_within_budget_of_latecomer :
    let query : Query := ⟨⟨allNodes, 1001, 3⟩, "nodeinfo", 10⟩
    let answer : Arrival := .datagram [0x7b, 0x7d] 2 allNodes 3
    let scene : Scene := ⟨{ taken := 1 }, turnsFrom 1 [⟨answer, 4, 2⟩, ⟨.nothing, 3, 0⟩]⟩
    let asked := ask query scene (some fun n _ => (.goOn, n + 1)) 0
    asked.timeouts = [9, 3] ∧ asked.state = 1 ∧
      (∀ p ∈ asked.timeouts.zip (scene.turns.map Turn.toWait), p.2.waiting ≤ p.1) ∧
      waited asked.timeouts (scene.turns.map Turn.toWait) ≤ query.budget :=
  ⟨by decide, by decide, by decide, (window_within_budget _ _ _ _).2.2.2 (by decide)⟩

end MeshFirmware.Discovery
