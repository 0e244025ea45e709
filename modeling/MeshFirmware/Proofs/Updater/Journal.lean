import MeshFirmware.Proofs.Neighbour.Round
import MeshFirmware.Proofs.Updater.Course
import MeshFirmware.Proofs.Updater.Visits

/-!
# The history of a run

The visits of a run follow each other in its history (`Path.follows`), with one round of questions between those
of mirrors and those of neighbours. Whom a run finds by this round is told by the answers alone: of each node
the first answer counts, and the release it announces decides whether it is tried (`findSources_eq`).
-/

namespace MeshFirmware.Updater

/-- An attempt failed in a way that leaves the other sources a chance. -/
def Visit.Failed (w : World) (t : Task) (f : Fortune) (v : Visit Progress) : Prop :=
  ∃ x, attempt w t f v.source v.before = (.error (.source x), v.after)

/-- An attempt ended the run, with this result. -/
def Visit.Ended (w : World) (t : Task) (f : Fortune) (v : Visit Progress) (r : Except RunError Outcome) :
    Prop :=
  (∃ outcome, attempt w t f v.source v.before = (.ok outcome, v.after) ∧ r = .ok outcome) ∨
    ∃ cause, attempt w t f v.source v.before = (.error (.fatal cause), v.after) ∧
      r = .error (.aborted v.source cause)

/-- What a visit adds to the history. -/
def Visit.effects (v : Visit Progress) : History := v.after.history.drop v.before.history.length

/-- Visits between two histories: the first begins where the one history ends, each other one where the visit
before it ended, and the last ends with the other history. -/
def Follows : History → List (Visit Progress) → History → Prop
  | h, [], h' => h = h'
  | h, v :: rest, h' => v.before.history = h ∧ Follows v.after.history rest h'

section
variable {w : World} {t : Task} {f : Fortune}

/-! ## Visits -/

theorem snd_trySource (source : Source) (s : Progress) :
    (trySource w t f source s).2 = (attempt w t f source s).2 := by
  unfold trySource
  split
  · rename_i h
    rw [h]
  · rename_i h
    rw [h]
  · rename_i h
    rw [h]

theorem Visit.failed_of_verdict {v : Visit Progress}
    (h : trySource w t f v.source v.before = (v.verdict, v.after)) (hv : v.verdict = none) :
    v.Failed w t f := by
  have hafter : v.after = (attempt w t f v.source v.before).2 := by
    rw [← snd_trySource, h]
  rw [hv] at h
  unfold trySource at h
  split at h
  · cases h
  · rename_i x s hattempt
    exact ⟨x, by rw [hafter, hattempt]⟩
  · cases h

theorem Visit.failed_of_attempt {v : Visit Progress} {x : SourceError}
    (h : trySource w t f v.source v.before = (v.verdict, v.after))
    (hx : (attempt w t f v.source v.before).1 = .error (.source x)) : v.Failed w t f :=
  ⟨x, Prod.ext hx (by rw [← snd_trySource, h])⟩

theorem Visit.ended_of_verdict {v : Visit Progress} {r : Except RunError Outcome}
    (h : trySource w t f v.source v.before = (v.verdict, v.after)) (hv : v.verdict = some r) :
    v.Ended w t f r := by
  have hafter : v.after = (attempt w t f v.source v.before).2 := by
    rw [← snd_trySource, h]
  rw [hv] at h
  unfold trySource at h
  split at h
  · rename_i outcome s hattempt
    exact .inl ⟨outcome, by rw [hafter, hattempt], (Option.some.inj (congrArg Prod.fst h)).symm⟩
  · cases h
  · rename_i cause s hattempt
    exact .inr ⟨cause, by rw [hafter, hattempt], (Option.some.inj (congrArg Prod.fst h)).symm⟩

theorem Visit.not_failed_of_ended {v : Visit Progress} {r : Except RunError Outcome}
    (h : v.Ended w t f r) : ¬ v.Failed w t f := by
  rintro ⟨x, hx⟩
  rcases h with ⟨outcome, ho, -⟩ | ⟨cause, hc, -⟩
  · rw [hx] at ho
    cases ho
  · rw [hx] at hc
    cases hc

/-- A run that is ended by an attempt has tried a source of use. -/
theorem Visit.ne_noSource_of_ended {v : Visit Progress} {r : Except RunError Outcome}
    (h : v.Ended w t f r) : r ≠ .error .noSource := by
  rcases h with ⟨outcome, -, rfl⟩ | ⟨cause, -, rfl⟩ <;> simp

/-- What an attempt adds to the history is what its visit adds. -/
theorem Visit.effects_eq {v : Visit Progress} (h : trySource w t f v.source v.before = (v.verdict, v.after)) :
    v.after = (attempt w t f v.source v.before).2 ∧ v.after.history = v.before.history ++ v.effects := by
  have hafter : v.after = (attempt w t f v.source v.before).2 := by
    rw [← snd_trySource, h]
  obtain ⟨effects, hgrown, -⟩ := (attempt_course w t f v.source v.before).exists_effects
  rw [← hafter] at hgrown
  refine ⟨hafter, ?_⟩
  rw [Visit.effects, hgrown, List.drop_left]

/-- What a path adds to the history is what its visits add. -/
theorem Path.history_eq {move : Progress → Progress → Prop}
    (hmove : ∀ s s', move s s' → s'.history = s.history) {s s' : Progress} {vs : List (Visit Progress)}
    {v : Verdict} (h : Path (trySource w t f) move s vs v s') :
    s'.history = s.history ++ vs.flatMap Visit.effects := by
  induction h with
  | done => simp
  | @ended s s₁ s₂ source x hm ht =>
    obtain ⟨-, hgrown⟩ := Visit.effects_eq (v := ⟨source, s₁, some x, s₂⟩) ht
    rw [List.flatMap_singleton, ← hmove _ _ hm]
    exact hgrown
  | @failed s s₁ s₂ s₃ source vs v hm ht _ ih =>
    obtain ⟨-, hgrown⟩ := Visit.effects_eq (v := ⟨source, s₁, none, s₂⟩) ht
    rw [ih, List.flatMap_cons, ← List.append_assoc, ← hmove _ _ hm]
    exact congrArg (· ++ vs.flatMap Visit.effects) hgrown

theorem Path.follows {move : Progress → Progress → Prop}
    (hmove : ∀ s s', move s s' → s'.history = s.history) {s s' : Progress} {vs : List (Visit Progress)}
    {v : Verdict} (h : Path (trySource w t f) move s vs v s') : Follows s.history vs s'.history := by
  induction h with
  | done => rfl
  | ended hm => exact ⟨hmove _ _ hm, rfl⟩
  | failed hm _ _ ih => exact ⟨hmove _ _ hm, ih⟩

/-- The visits of a path that has not ended the run have failed. -/
theorem Path.all_failed {move : Progress → Progress → Prop} {s s' : Progress} {vs : List (Visit Progress)}
    (h : Path (trySource w t f) move s vs none s') : ∀ v ∈ vs, v.Failed w t f :=
  fun v hv => Visit.failed_of_verdict (h.trial_eq hv) (h.verdict_none rfl v hv)

/-- The last visit of a path that has ended the run has done so, and those before it have failed. -/
theorem Path.ended_last {move : Progress → Progress → Prop} {s s' : Progress} {vs : List (Visit Progress)}
    {r : Except RunError Outcome} (h : Path (trySource w t f) move s vs (some r) s') :
    ∃ front v, vs = front ++ [v] ∧ (∀ u ∈ front, u.Failed w t f) ∧ v.Ended w t f r := by
  obtain ⟨front, v, rfl, hv, hfront⟩ := h.verdict_some rfl
  refine ⟨front, v, rfl, ?_, ?_⟩
  · intro u hu
    exact Visit.failed_of_verdict (h.trial_eq (List.mem_append_left _ hu)) (hfront u hu)
  · exact Visit.ended_of_verdict (h.trial_eq (List.mem_append_right _ (List.mem_singleton_self v))) hv

/-- Nothing is asked on a path. -/
theorem Path.quiet {move : Progress → Progress → Prop} {s s' : Progress} {vs : List (Visit Progress)}
    {v : Verdict} (h : Path (trySource w t f) move s vs v s') :
    ∀ u ∈ vs, ∃ effects, u.after.history = u.before.history ++ effects ∧ ∀ q, Effect.ask q ∉ effects := by
  intro u hu
  have hafter : u.after = (attempt w t f u.source u.before).2 := by
    rw [← snd_trySource, h.trial_eq hu]
  rw [hafter]
  exact (attempt_course w t f u.source u.before).exists_effects

/-- A visit of a run is what its trial does. -/
theorem trySource_of_mem_visits {s : Progress} {v : Visit Progress} (hv : v ∈ visits w t f s) :
    trySource w t f v.source v.before = (v.verdict, v.after) := by
  obtain ⟨picks, mirrors, others, hvisits, htour⟩ := run_tour w t f s
  rw [hvisits] at hv
  generalize run w t f s = r at htour
  obtain ⟨result, after⟩ := r
  cases htour with
  | amongMirrors hmirrors =>
    rw [List.append_nil] at hv
    exact hmirrors.trial_eq hv
  | beyondMirrors hmirrors _ _ _ hothers =>
    rcases List.mem_append.mp hv with hv | hv
    · exact hmirrors.trial_eq hv
    · exact hothers.trial_eq hv

theorem history_of_moves {s s' : Progress} (h : (chooseMirror t.settings f).Moves s s') :
    s'.history = s.history := by
  obtain ⟨others, rfl⟩ := h
  unfold chooseMirror
  split <;> rfl

theorem fst_chooseMirror (h : t.settings.mirrorsInOrder = true) (others : Nat) (s : Progress) :
    (chooseMirror t.settings f others s).1 = 0 := by
  unfold chooseMirror
  rw [if_pos h]

end

/-! ## Neighbours -/

/-- The neighbour in an answer on an interface, with the release it announces. -/
def announced? (a : Interface × Discovery.Response) : Option (Neighbour String) :=
  if a.2.index == 0 then none
  else (Json.Value.read? a.2.data).bind fun v => (Neighbour.nodeId? v).map fun id =>
    { nodeId := id, address := a.2.source, interface := a.1, payload := release? v }

theorem accept_announced (g : Neighbour.Gathering Unit String) (a : Interface × Discovery.Response) :
    Neighbour.accept releaseJudge a.1 g a.2 =
      match announced? a with
      | none => g
      | some n => if g.seen.contains n.nodeId then g else ⟨g.found ++ [n], g.seen ++ [n.nodeId], ()⟩ := by
  unfold Neighbour.accept announced?
  cases a.2.index == 0 with
  | true => rfl
  | false =>
    cases Json.Value.read? a.2.data with
    | none => rfl
    | some v =>
      cases hid : Neighbour.nodeId? v with
      | none => simp [hid]
      | some id => simp [hid, releaseJudge]

/-- Of each node that has not been seen yet the first answer is kept. -/
theorem found_foldl_accept (g : Neighbour.Gathering Unit String)
    (as : List (Interface × Discovery.Response)) :
    (as.foldl (fun g a => Neighbour.accept releaseJudge a.1 g a.2) g).found =
      g.found ++ (Neighbour.firstOfEach (as.filterMap announced?)).filter fun n => !g.seen.contains n.nodeId := by
  induction as generalizing g with
  | nil => simp [Neighbour.firstOfEach]
  | cons a rest ih =>
    rw [List.foldl_cons, ih, accept_announced]
    cases hn : announced? a with
    | none => rw [List.filterMap_cons_none hn]
    | some n =>
      rw [List.filterMap_cons_some hn, Neighbour.firstOfEach]
      dsimp only
      by_cases hseen : n.nodeId ∈ g.seen
      · -- Nothing of a seen node is kept, so it does not matter which answers of it are left.
        have hlater : ∀ m ∈ Neighbour.firstOfEach (rest.filterMap announced?),
            (!g.seen.contains m.nodeId && m.nodeId != n.nodeId) = !g.seen.contains m.nodeId := by
          intro m _
          by_cases hm : m.nodeId = n.nodeId
          · simp [hm, hseen]
          · simp [hm]
        rw [if_pos (by simpa using hseen), List.filter_cons_of_neg (by simpa using hseen), List.filter_filter,
          List.filter_congr hlater]
      · have hlater : ∀ m ∈ Neighbour.firstOfEach (rest.filterMap announced?),
            (!(g.seen ++ [n.nodeId]).contains m.nodeId) = (!g.seen.contains m.nodeId && m.nodeId != n.nodeId) := by
          intro m _
          rw [List.contains_append]
          by_cases hm : m.nodeId = n.nodeId <;> simp [hm]
        rw [if_neg (by simpa using hseen), List.filter_cons_of_pos (by simpa using hseen), List.filter_filter,
          ← List.filter_congr hlater, List.append_assoc, List.singleton_append]

/-- The neighbours that conversations bring: of each node its first answer, unless every request failed. -/
def foundIn (ts : List (Interface × Discovery.Conversation)) : List (Neighbour String) :=
  if Neighbour.AllFailed ts then [] else Neighbour.firstOfEach ((Neighbour.arrivals ts).filterMap announced?)

/-- The conversations of a run that searches for neighbours after this history, if it can list its interfaces. -/
def talksAfter (w : World) (t : Task) (h : History) : List (Interface × Discovery.Conversation) :=
  Neighbour.talks (fun asked q => w.ask (h ++ asked.map .ask) q) t.search [] ((w.interfaces h).getD [])

/-- The questions of a run that searches for neighbours after this history. -/
def questionsAfter (w : World) (t : Task) (h : History) : List Discovery.Query :=
  (((w.interfaces h).getD []).filter t.search.covers).map t.search.query

/-- The neighbours that a run tries when it searches after this history. -/
def candidatesAfter (w : World) (t : Task) (h : History) : List (Neighbour String) :=
  (foundIn (talksAfter w t h)).filter (isEligible t.settings)

theorem findSources_eq (w : World) (t : Task) (s : Progress) :
    findSources w t s = ((candidatesAfter w t s.history).map sourceOf,
      { s with history := s.history ++ (questionsAfter w t s.history).map .ask }) := by
  unfold findSources findNeighbours candidatesAfter questionsAfter talksAfter foundIn
  cases w.interfaces s.history with
  | none => simp [Neighbour.talks, Neighbour.arrivals, Neighbour.firstOfEach]
  | some is =>
    dsimp only
    rw [Option.getD_some]
    -- Both sides ask the same air, whatever it answers.
    generalize hair : (fun asked q => w.ask (s.history ++ asked.map .ask) q : Neighbour.Air) = air
    have hasked : (Neighbour.askAll air t.search releaseJudge () is).asked =
        (is.filter t.search.covers).map t.search.query := by
      rw [Neighbour.askAll_eq]
    rw [hasked]
    rcases Neighbour.result_eq air t.search releaseJudge () is with ⟨hfailed, fail, hresult⟩ | ⟨hfailed, hresult⟩
    · rw [hresult, if_pos hfailed]
      rfl
    · rw [hresult, if_neg hfailed, found_foldl_accept]
      simp

/-- A run adds to the history what its visits add, and one round of questions among them. -/
theorem run_history (w : World) (t : Task) (f : Fortune) (s : Progress) :
    ∃ mirrors others, ∃ questions : List Discovery.Query, visits w t f s = mirrors ++ others ∧
      (run w t f s).2.history = s.history ++
        (mirrors.flatMap Visit.effects ++ (questions.map .ask ++ others.flatMap Visit.effects)) := by
  obtain ⟨picks, mirrors, others, hvisits, htour⟩ := run_tour w t f s
  generalize run w t f s = r at htour ⊢
  obtain ⟨result, after⟩ := r
  cases htour with
  | amongMirrors hmirrors =>
    refine ⟨mirrors, [], [], hvisits, ?_⟩
    simpa using hmirrors.history_eq fun _ _ => history_of_moves
  | @beyondMirrors _ _ _ s₁ _ hmirrors _ _ _ hothers =>
    refine ⟨mirrors, others, questionsAfter w t s₁.history, hvisits, ?_⟩
    have hend := hothers.history_eq fun _ _ h => congrArg Progress.history h.symm
    rw [findSources_eq] at hend
    dsimp only at hend ⊢
    rw [hend, hmirrors.history_eq fun _ _ => history_of_moves, List.append_assoc, List.append_assoc]

/-- The candidates are neighbours that announce a release to ask them for, each node once. -/
theorem nodup_candidatesAfter (w : World) (t : Task) (h : History) :
    ((candidatesAfter w t h).map Neighbour.nodeId).Nodup := by
  unfold candidatesAfter foundIn
  split
  · exact .nil
  · exact (List.filter_sublist.map Neighbour.nodeId).nodup (Neighbour.nodup_firstOfEach _)

end MeshFirmware.Updater
