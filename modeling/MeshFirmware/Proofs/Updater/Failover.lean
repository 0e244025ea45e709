import MeshFirmware.Proofs.Updater.Candidates

/-!
# From source to source

How a run goes over its sources, whatever they deliver and whatever is drawn (`run_fails_over`): every place in
the list of mirrors at most once, then one round of questions, then the nodes that announced a wanted release in
their first answer, in the order of these answers. The first attempt that ends the run is the last one, and only a
run on which everything has failed finds no source.
-/

namespace MeshFirmware.Updater

/-- The way of a run over its sources: the places of the mirrors that it visits, these visits and the history
after them, the neighbours that a search brings then, those of them that the run visits, and these visits. -/
structure Failover (w : World) (t : Task) (f : Fortune) (s : Progress)
    (picks : List (Fin t.settings.mirrors.length)) (mirrors : List (Visit Progress)) (h : History)
    (candidates tried : List (Neighbour String)) (neighbours : List (Visit Progress)) : Prop where
  all : visits w t f s = mirrors ++ neighbours
  /-- All visits fail, or all but the last, and that one gives the result of the run. -/
  result : ((∀ v ∈ mirrors ++ neighbours, v.Failed w t f) ∧ (run w t f s).1 = .error .noSource) ∨
    ∃ front v, mirrors ++ neighbours = front ++ [v] ∧ (∀ u ∈ front, u.Failed w t f) ∧
      v.Ended w t f (run w t f s).1
  mirror_sources : mirrors.map Visit.source = picks.map fun i => .mirror (t.settings.mirrors.get i)
  mirrors_once : picks.Nodup
  mirrors_in_order : t.settings.mirrorsInOrder = true → picks <+: List.finRange t.settings.mirrors.length
  mirrors_follow : Follows s.history mirrors h
  /-- Nothing is asked in a visit. -/
  quiet : ∀ v ∈ mirrors ++ neighbours, ∃ effects, v.after.history = v.before.history ++ effects ∧
    ∀ q, Effect.ask q ∉ effects
  /-- A mirror has ended the run, or all places of mirrors have failed and one round of questions follows. -/
  search : ((∃ v ∈ mirrors, v.Ended w t f (run w t f s).1) ∧ tried = [] ∧ (run w t f s).2.history = h) ∨
    (∀ v ∈ mirrors, v.Failed w t f) ∧ picks.length = t.settings.mirrors.length ∧
      Follows (h ++ (questionsAfter w t h).map .ask) neighbours (run w t f s).2.history ∧ tried <+: candidates
  brings : Brings w t h candidates
  neighbour_sources : neighbours.map Visit.source = tried.map fun n => .neighbour n.address n.interface.name
  neighbours_once : (tried.map Neighbour.nodeId).Nodup
  noSource_iff : (run w t f s).1 = .error .noSource ↔ (∀ v ∈ mirrors ++ neighbours, v.Failed w t f) ∧
    picks.length = t.settings.mirrors.length ∧ tried = candidates

section
variable {w : World} {t : Task} {f : Fortune} {s : Progress}

/-- Visits of which one has ended the run have not all failed. -/
theorem not_all_failed {vs : List (Visit Progress)} {v : Visit Progress} {r : Except RunError Outcome}
    (hv : v ∈ vs) (hended : v.Ended w t f r) : ¬ ∀ u ∈ vs, u.Failed w t f := by
  intro hall
  exact Visit.not_failed_of_ended hended (hall v hv)

/-- After visits that have failed, a path without a verdict leaves only failed visits, and one with a verdict
ends with the visit that gives it. -/
theorem Path.all_failed_or_ended {move : Progress → Progress → Prop} {s₁ s₂ : Progress}
    {before vs : List (Visit Progress)} {v : Verdict} (hbefore : ∀ u ∈ before, u.Failed w t f)
    (h : Path (trySource w t f) move s₁ vs v s₂) :
    (v = none ∧ ∀ u ∈ before ++ vs, u.Failed w t f) ∨
      ∃ r front u, v = some r ∧ before ++ vs = front ++ [u] ∧ (∀ u' ∈ front, u'.Failed w t f) ∧
        u.Ended w t f r := by
  cases v with
  | none =>
    refine .inl ⟨rfl, ?_⟩
    intro u hu
    rcases List.mem_append.mp hu with hu | hu
    · exact hbefore u hu
    · exact h.all_failed u hu
  | some r =>
    obtain ⟨front, u, hlast, hfront, hended⟩ := h.ended_last
    refine .inr ⟨r, before ++ front, u, rfl, ?_, ?_, hended⟩
    · rw [hlast, List.append_assoc]
    · intro u' hu'
      rcases List.mem_append.mp hu' with hu' | hu'
      · exact hbefore u' hu'
      · exact hfront u' hu'

/-- A run that a mirror ends has asked for no neighbours. -/
theorem failover_of_mirrors {picks rest : List (Fin t.settings.mirrors.length)} {mirrors : List (Visit Progress)}
    (hvisits : visits w t f s = mirrors)
    (hmirrors : Path (trySource w t f) (chooseMirror t.settings f).Moves s mirrors (some (run w t f s).1)
      (run w t f s).2)
    (hpicks : mirrors.map Visit.source = picks.map fun i => .mirror (t.settings.mirrors.get i))
    (hleft : (picks ++ rest).Perm (List.finRange t.settings.mirrors.length))
    (hinorder : (∀ others s, (chooseMirror t.settings f others s).1 = 0) →
      picks ++ rest = List.finRange t.settings.mirrors.length) :
    let h := (run w t f s).2.history
    Failover w t f s picks mirrors h (candidatesAfter w t h) [] [] := by
  obtain ⟨front, v, hlast, hfront, hended⟩ := hmirrors.ended_last
  have hv : v ∈ mirrors := by
    rw [hlast]
    simp
  constructor
  case all => rw [hvisits, List.append_nil]
  case result =>
    right
    rw [List.append_nil]
    exact ⟨front, v, hlast, hfront, hended⟩
  case mirror_sources => exact hpicks
  case mirrors_once =>
    have hall : (picks ++ rest).Nodup := hleft.nodup_iff.mpr (List.nodup_finRange _)
    exact (List.sublist_append_left picks rest).nodup hall
  case mirrors_in_order =>
    intro hordered
    exact ⟨rest, hinorder (fst_chooseMirror hordered)⟩
  case mirrors_follow => exact hmirrors.follows fun _ _ => history_of_moves
  case quiet =>
    rw [List.append_nil]
    exact hmirrors.quiet
  case search => exact .inl ⟨⟨v, hv, hended⟩, rfl, rfl⟩
  case brings => exact brings_candidatesAfter w t _
  case neighbour_sources => rfl
  case neighbours_once => exact .nil
  case noSource_iff =>
    -- Neither side holds, since the last mirror has ended the run.
    rw [List.append_nil]
    refine iff_of_false (Visit.ne_noSource_of_ended hended) ?_
    rintro ⟨hall, -⟩
    exact not_all_failed hv hended hall

/-- A run that all mirrors have failed goes on with the neighbours that one search brings. -/
theorem failover_of_neighbours {picks : List (Fin t.settings.mirrors.length)}
    {mirrors others : List (Visit Progress)} {v : Verdict} {s₁ : Progress}
    (hvisits : visits w t f s = mirrors ++ others) (hresult : (run w t f s).1 = v.getD (.error .noSource))
    (hmirrors : Path (trySource w t f) (chooseMirror t.settings f).Moves s mirrors none s₁)
    (hpicks : mirrors.map Visit.source = picks.map fun i => .mirror (t.settings.mirrors.get i))
    (hleft : picks.Perm (List.finRange t.settings.mirrors.length))
    (hinorder : (∀ others s, (chooseMirror t.settings f others s).1 = 0) →
      picks = List.finRange t.settings.mirrors.length)
    (hothers : Path (trySource w t f) Eq (findSources w t s₁).2 others v (run w t f s).2)
    (hstart : others.map Visit.source <+: (findSources w t s₁).1)
    (hall : v = none → others.map Visit.source = (findSources w t s₁).1) :
    ∃ tried, Failover w t f s picks mirrors s₁.history (candidatesAfter w t s₁.history) tried others := by
  rw [findSources_eq] at hothers hstart hall
  obtain ⟨tried, htried, hsources⟩ := List.prefix_map_iff.mp hstart
  have hlength : picks.length = t.settings.mirrors.length := by
    rw [hleft.length_eq, List.length_finRange]
  have hends := hothers.all_failed_or_ended hmirrors.all_failed
  refine ⟨tried, ?_⟩
  constructor
  case all => exact hvisits
  case result =>
    rw [hresult]
    rcases hends with ⟨rfl, hfailed⟩ | ⟨r, front, u, rfl, hlast, hfront, hended⟩
    · exact .inl ⟨hfailed, rfl⟩
    · exact .inr ⟨front, u, hlast, hfront, hended⟩
  case mirror_sources => exact hpicks
  case mirrors_once => exact hleft.nodup_iff.mpr (List.nodup_finRange _)
  case mirrors_in_order =>
    intro hordered
    refine ⟨[], ?_⟩
    rw [List.append_nil]
    exact hinorder (fst_chooseMirror hordered)
  case mirrors_follow => exact hmirrors.follows fun _ _ => history_of_moves
  case quiet =>
    intro u hu
    rcases List.mem_append.mp hu with hu | hu
    · exact hmirrors.quiet u hu
    · exact hothers.quiet u hu
  case search =>
    right
    refine ⟨hmirrors.all_failed, hlength, ?_, htried⟩
    exact hothers.follows fun _ _ h => congrArg Progress.history h.symm
  case brings => exact brings_candidatesAfter w t s₁.history
  case neighbour_sources => exact hsources
  case neighbours_once =>
    exact (htried.sublist.map Neighbour.nodeId).nodup (nodup_candidatesAfter w t s₁.history)
  case noSource_iff =>
    rw [hresult]
    rcases hends with ⟨rfl, hfailed⟩ | ⟨r, front, u, rfl, hlast, -, hended⟩
    · -- Nothing has ended the run, so the candidates that have been tried are all there are.
      have hlen := congrArg List.length (hsources.symm.trans (hall rfl))
      rw [List.length_map, List.length_map] at hlen
      exact iff_of_true rfl ⟨hfailed, hlength, htried.eq_of_length hlen⟩
    · have hu : u ∈ mirrors ++ others := by
        rw [hlast]
        simp
      refine iff_of_false (Visit.ne_noSource_of_ended hended) ?_
      rintro ⟨hfailed, -⟩
      exact not_all_failed hu hended hfailed

end

/-- A run visits each place of a mirror at most once, asks for neighbours only when all of them have failed and
never again, visits the candidates among those that answer, each once and in order, and stops at the first end. -/
theorem run_fails_over (w : World) (t : Task) (f : Fortune) (s : Progress) :
    ∃ picks mirrors h candidates tried neighbours, Failover w t f s picks mirrors h candidates tried neighbours := by
  obtain ⟨picks, mirrors, others, hvisits, htour⟩ := run_tour w t f s
  generalize hresult : (run w t f s).1 = result at htour
  generalize hafter : (run w t f s).2 = after at htour
  cases htour with
  | amongMirrors hmirrors hpicks hleft hinorder =>
    rw [List.append_nil] at hvisits
    rw [← hresult, ← hafter] at hmirrors
    exact ⟨_, _, _, _, _, _, failover_of_mirrors hvisits hmirrors hpicks hleft hinorder⟩
  | beyondMirrors hmirrors hpicks hleft hinorder hothers hstart hall =>
    rw [← hafter] at hothers
    obtain ⟨tried, hfailover⟩ :=
      failover_of_neighbours hvisits hresult hmirrors hpicks hleft hinorder hothers hstart hall
    exact ⟨_, _, _, _, _, _, hfailover⟩

end MeshFirmware.Updater
