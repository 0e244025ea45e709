import Mathlib.Data.List.FinRange
import Mathlib.Data.List.Perm.Basic
import MeshFirmware.Updater.Run

/-!
# The visits of a run

A visit is one trial of a source, with the state before it and after it. They are noted by running the way from
source to source over a state that also keeps a list (`noting`). Such a run goes as it would without the list,
and the visits form a path: each begins where the one before it ended, and only the last one can end the run
(`Path`). Sources are visited in their order, and mirrors are drawn without being put back.
-/

namespace MeshFirmware.Updater

/-- A trial of a source: where it began, what came of it, and where it ended. -/
structure Visit (σ : Type) where
  source : Source
  before : σ
  verdict : Verdict
  after : σ

section
variable {σ : Type}

/-- A trial that is noted. -/
def noting (trial : Trial σ) : Trial (σ × List (Visit σ)) := fun source n =>
  let r := trial source n.1
  (r.1, r.2, n.2 ++ [⟨source, n.1, r.1, r.2⟩])

/-- A choice that leaves the notes alone. -/
def keepingChoice (choose : Choice σ) : Choice (σ × List (Visit σ)) := fun others n =>
  let r := choose others n.1
  (r.1, r.2, n.2)

/-- A search that leaves the notes alone. -/
def keepingFinder (find : Finder σ) : Finder (σ × List (Visit σ)) := fun n =>
  let r := find n.1
  (r.1, r.2, n.2)

/-- Visits that follow each other: between two of them the state makes a move, all of them fail but perhaps the
last, and the verdict of that one is the verdict of the path. -/
inductive Path (trial : Trial σ) (move : σ → σ → Prop) : σ → List (Visit σ) → Verdict → σ → Prop where
  | done (s : σ) : Path trial move s [] none s
  | ended {s s₁ s₂ : σ} {source : Source} {x : Except RunError Outcome} (hmove : move s s₁)
    (h : trial source s₁ = (some x, s₂)) : Path trial move s [⟨source, s₁, some x, s₂⟩] (some x) s₂
  | failed {s s₁ s₂ s₃ : σ} {source : Source} {vs : List (Visit σ)} {v : Verdict} (hmove : move s s₁)
    (h : trial source s₁ = (none, s₂)) (hrest : Path trial move s₂ vs v s₃) :
    Path trial move s (⟨source, s₁, none, s₂⟩ :: vs) v s₃

namespace Path
variable {trial : Trial σ} {move : σ → σ → Prop} {s s' : σ} {vs : List (Visit σ)} {v : Verdict}

/-- A visit is what its trial does. -/
theorem trial_eq (h : Path trial move s vs v s') {u : Visit σ} (hu : u ∈ vs) :
    trial u.source u.before = (u.verdict, u.after) := by
  induction h with
  | done => cases hu
  | ended _ ht =>
    obtain rfl := List.mem_singleton.mp hu
    exact ht
  | failed _ ht _ ih =>
    rcases List.mem_cons.mp hu with rfl | hu
    · exact ht
    · exact ih hu

/-- On a path without a verdict every visit has failed. -/
theorem verdict_none (h : Path trial move s vs v s') (hv : v = none) : ∀ u ∈ vs, u.verdict = none := by
  induction h with
  | done =>
    intro u hu
    cases hu
  | ended => cases hv
  | failed _ _ _ ih =>
    intro u hu
    rcases List.mem_cons.mp hu with rfl | hu
    · rfl
    · exact ih hv u hu

/-- On a path with a verdict the last visit gives it, and every visit before it has failed. -/
theorem verdict_some {x : Except RunError Outcome} (h : Path trial move s vs v s') (hv : v = some x) :
    ∃ front u, vs = front ++ [u] ∧ u.verdict = some x ∧ ∀ u' ∈ front, u'.verdict = none := by
  induction h with
  | done => cases hv
  | ended =>
    refine ⟨[], _, rfl, hv, ?_⟩
    intro u' hu'
    cases hu'
  | failed _ _ _ ih =>
    obtain ⟨front, u, rfl, hu, hfront⟩ := ih hv
    refine ⟨_ :: front, u, rfl, hu, ?_⟩
    intro u' hu'
    rcases List.mem_cons.mp hu' with rfl | hu'
    · rfl
    · exact hfront u' hu'

/-- A path ends where its last visit does. -/
theorem after_of_getLast? (h : Path trial move s vs v s') {u : Visit σ} (hu : vs.getLast? = some u) :
    u.after = s' := by
  induction h with
  | done => cases hu
  | ended =>
    obtain rfl := Option.some.inj hu
    rfl
  | @failed _ _ _ _ _ vs _ _ _ hrest ih =>
    cases vs with
    | nil =>
      obtain rfl := Option.some.inj hu
      cases hrest
      rfl
    | cons next vs => exact ih (by rwa [List.getLast?_cons_cons] at hu)

end Path

/-! ## Sources in order -/

theorem trySources_path (trial : Trial σ) (s : σ) (log : List (Visit σ)) (sources : List Source) :
    ∃ vs, trySources (noting trial) (s, log) sources =
        ((trySources trial s sources).1, (trySources trial s sources).2, log ++ vs) ∧
      Path trial Eq s vs (trySources trial s sources).1 (trySources trial s sources).2 ∧
      vs.map Visit.source <+: sources ∧
      ((trySources trial s sources).1 = none → vs.map Visit.source = sources) := by
  induction sources generalizing s log with
  | nil => exact ⟨[], by rw [List.append_nil]; rfl, .done s, List.prefix_rfl, fun _ => rfl⟩
  | cons source rest ih =>
    cases htrial : trial source s with
    | mk v s₁ =>
      cases v with
      | some x =>
        refine ⟨[⟨source, s, some x, s₁⟩], ?_, ?_, ?_, ?_⟩
        · simp [trySources, noting, htrial]
        · simpa [trySources, htrial] using Path.ended rfl htrial
        · exact ⟨rest, rfl⟩
        · simp [trySources, htrial]
      | none =>
        obtain ⟨vs, hlog, hpath, hstart, hall⟩ := ih s₁ (log ++ [⟨source, s, none, s₁⟩])
        refine ⟨⟨source, s, none, s₁⟩ :: vs, ?_, ?_, ?_, ?_⟩
        · simpa [trySources, noting, htrial] using hlog
        · simpa [trySources, htrial] using Path.failed rfl htrial hpath
        · exact (List.prefix_cons_inj _).mpr hstart
        · intro hnone
          rw [List.map_cons, hall (by simpa [trySources, htrial] using hnone)]

/-! ## Mirrors by choice -/

/-- The move that a choice makes. -/
def Choice.Moves (choose : Choice σ) (s s' : σ) : Prop := ∃ others, (choose others s).2 = s'

theorem tryMirrors_nil (trial : Trial σ) (choose : Choice σ) (s : σ) :
    tryMirrors trial choose s [] = (none, s) := by
  rw [tryMirrors]

theorem tryMirrors_ended {trial : Trial σ} {choose : Choice σ} {s s₁ s₂ : σ} {m picked : String}
    {rest : List String} {k : Fin (rest.length + 1)} {x : Except RunError Outcome}
    (hk : choose rest.length s = (k, s₁)) (hpicked : (m :: rest)[k] = picked)
    (h : trial (.mirror picked) s₁ = (some x, s₂)) :
    tryMirrors trial choose s (m :: rest) = (some x, s₂) := by
  subst hpicked
  rw [tryMirrors]
  simp only [hk, h]

theorem tryMirrors_failed {trial : Trial σ} {choose : Choice σ} {s s₁ s₂ : σ} {m picked : String}
    {rest : List String} {k : Fin (rest.length + 1)} (hk : choose rest.length s = (k, s₁))
    (hpicked : (m :: rest)[k] = picked) (h : trial (.mirror picked) s₁ = (none, s₂)) :
    tryMirrors trial choose s (m :: rest) = tryMirrors trial choose s₂ ((m :: rest).eraseIdx k) := by
  subst hpicked
  rw [tryMirrors]
  simp only [hk, h]

/-- A choice picks one of the mirrors and leaves the others. -/
theorem exists_pick {ι : Type} (choose : Choice σ) (name : ι → String) (s : σ) (i : ι) (others : List ι) :
    ∃ (k : Fin ((others.map name).length + 1)) (s₁ : σ) (j : ι) (left : List ι),
      choose (others.map name).length s = (k, s₁) ∧ (name i :: others.map name)[k] = name j ∧
      (name i :: others.map name).eraseIdx k = left.map name ∧ (j :: left).Perm (i :: others) ∧
      ((∀ others s, (choose others s).1 = 0) → j :: left = i :: others) := by
  obtain ⟨⟨k, s₁⟩, hk⟩ : ∃ c, choose (others.map name).length s = c := ⟨_, rfl⟩
  have hlt : k.val < (i :: others).length := Nat.lt_of_lt_of_eq k.isLt (by simp)
  refine ⟨k, s₁, (i :: others)[k.val], (i :: others).eraseIdx k.val, hk, ?_, ?_, ?_, ?_⟩
  · show ((i :: others).map name)[k.val] = _
    rw [List.getElem_map]
  · exact List.eraseIdx_map name (i :: others) k.val
  · exact List.getElem_cons_eraseIdx_perm hlt
  · intro hzero
    obtain rfl : k = 0 := by
      rw [← hzero _ s, hk]
    rfl

/-- Mirrors are visited as they are chosen, none of their places in the list twice. -/
theorem tryMirrors_path {ι : Type} (trial : Trial σ) (choose : Choice σ) (name : ι → String) (s : σ)
    (log : List (Visit σ)) (left : List ι) :
    ∃ vs picks rest, tryMirrors (noting trial) (keepingChoice choose) (s, log) (left.map name) =
        ((tryMirrors trial choose s (left.map name)).1, (tryMirrors trial choose s (left.map name)).2,
          log ++ vs) ∧
      Path trial choose.Moves s vs (tryMirrors trial choose s (left.map name)).1
        (tryMirrors trial choose s (left.map name)).2 ∧
      vs.map Visit.source = picks.map (fun i => .mirror (name i)) ∧
      (picks ++ rest).Perm left ∧
      ((∀ others s, (choose others s).1 = 0) → picks ++ rest = left) ∧
      ((tryMirrors trial choose s (left.map name)).1 = none → rest = []) := by
  -- On the length: the mirrors that a choice leaves are fewer, but not a tail of the list.
  induction hn : left.length generalizing s log left with
  | zero =>
    obtain rfl := List.length_eq_zero_iff.mp hn
    rw [List.map_nil, tryMirrors_nil, tryMirrors_nil]
    exact ⟨[], [], [], by rw [List.append_nil], .done s, rfl, .refl [], fun _ => rfl, fun _ => rfl⟩
  | succ n ih =>
    cases left with
    | nil => cases hn
    | cons i others =>
      obtain ⟨k, s₁, j, left, hk, hpicked, herase, hperm, hfirst⟩ := exists_pick choose name s i others
      have hkeep : keepingChoice choose (others.map name).length (s, log) = (k, s₁, log) := by
        simp only [keepingChoice, hk]
      have hmove : choose.Moves s s₁ := ⟨_, congrArg Prod.snd hk⟩
      rw [List.map_cons]
      cases htrial : trial (.mirror (name j)) s₁ with
      | mk v s₂ =>
        have hnoted : noting trial (.mirror (name j)) (s₁, log) =
            (v, s₂, log ++ [⟨.mirror (name j), s₁, v, s₂⟩]) := by
          simp only [noting, htrial]
        cases v with
        | some x =>
          rw [tryMirrors_ended hkeep hpicked hnoted, tryMirrors_ended hk hpicked htrial]
          refine ⟨_, [j], left, rfl, .ended hmove htrial, rfl, hperm, hfirst, ?_⟩
          intro h
          cases h
        | none =>
          have hlen : left.length = n := by
            have hsame := hperm.length_eq
            rw [hn, List.length_cons] at hsame
            exact Nat.succ.inj hsame
          obtain ⟨vs, picks, rest, hlog, hpath, hpicks, hleft, hinorder, hall⟩ :=
            ih s₂ (log ++ [⟨.mirror (name j), s₁, none, s₂⟩]) left hlen
          rw [tryMirrors_failed hkeep hpicked hnoted, tryMirrors_failed hk hpicked htrial, herase]
          refine ⟨⟨.mirror (name j), s₁, none, s₂⟩ :: vs, j :: picks, rest, ?_, ?_, ?_, ?_, ?_, hall⟩
          · rw [hlog, List.append_assoc]
            rfl
          · exact .failed hmove htrial hpath
          · rw [List.map_cons, List.map_cons, hpicks]
          · exact (hleft.cons j).trans hperm
          · intro hzero
            rw [List.cons_append, hinorder hzero, hfirst hzero]

/-! ## The whole way -/

/-- The way of a run: along the mirrors, and when they have all failed along the sources that are found then. Of
the places of the mirrors it tells which have been picked. -/
inductive Tour {ι : Type} (trial : Trial σ) (choose : Choice σ) (find : Finder σ) (name : ι → String) (s : σ)
    (left : List ι) :
    List ι → List (Visit σ) → List (Visit σ) → Except RunError Outcome → σ → Prop where
  | amongMirrors {picks rest : List ι} {mirrors : List (Visit σ)} {x : Except RunError Outcome} {s₁ : σ}
    (hmirrors : Path trial choose.Moves s mirrors (some x) s₁)
    (hpicks : mirrors.map Visit.source = picks.map fun i => .mirror (name i))
    (hleft : (picks ++ rest).Perm left)
    (hinorder : (∀ others s, (choose others s).1 = 0) → picks ++ rest = left) :
    Tour trial choose find name s left picks mirrors [] x s₁
  | beyondMirrors {picks : List ι} {mirrors others : List (Visit σ)} {v : Verdict} {s₁ s₂ : σ}
    (hmirrors : Path trial choose.Moves s mirrors none s₁)
    (hpicks : mirrors.map Visit.source = picks.map fun i => .mirror (name i))
    (hleft : picks.Perm left)
    (hinorder : (∀ others s, (choose others s).1 = 0) → picks = left)
    (hothers : Path trial Eq (find s₁).2 others v s₂)
    (hstart : others.map Visit.source <+: (find s₁).1)
    (hall : v = none → others.map Visit.source = (find s₁).1) :
    Tour trial choose find name s left picks mirrors others (v.getD (.error .noSource)) s₂

theorem tryAll_tour {ι : Type} (trial : Trial σ) (choose : Choice σ) (find : Finder σ) (name : ι → String)
    (s : σ) (left : List ι) :
    ∃ picks mirrors others,
      tryAll (noting trial) (keepingChoice choose) (keepingFinder find) (s, []) (left.map name) =
        ((tryAll trial choose find s (left.map name)).1, (tryAll trial choose find s (left.map name)).2,
          mirrors ++ others) ∧
      Tour trial choose find name s left picks mirrors others (tryAll trial choose find s (left.map name)).1
        (tryAll trial choose find s (left.map name)).2 := by
  obtain ⟨mirrors, picks, rest, hlog, hpath, hpicks, hleft, hinorder, hall⟩ :=
    tryMirrors_path trial choose name s [] left
  unfold tryAll
  rw [hlog]
  rcases hend : tryMirrors trial choose s (left.map name) with ⟨v, s₁⟩
  rw [hend] at hpath hall
  cases v with
  | some x => exact ⟨picks, mirrors, [], by rw [List.append_nil]; rfl, .amongMirrors hpath hpicks hleft hinorder⟩
  | none =>
    obtain rfl := hall rfl
    rw [List.append_nil] at hleft hinorder
    -- The sources are noted behind the mirrors, in the same list.
    obtain ⟨others, hlog', hothers, hstart, hall'⟩ := trySources_path trial (find s₁).2 mirrors (find s₁).1
    have htour : Tour trial choose find name s left picks mirrors others _ _ :=
      .beyondMirrors hpath hpicks hleft hinorder hothers hstart hall'
    simp only [keepingFinder, List.nil_append, hlog']
    rcases hend' : trySources trial (find s₁).2 (find s₁).1 with ⟨v, s₂⟩
    rw [hend'] at htour
    cases v <;> exact ⟨picks, mirrors, others, rfl, htour⟩

end

/-- The visits of a run, in order. -/
def visits (w : World) (t : Task) (f : Fortune) (s : Progress) : List (Visit Progress) :=
  (tryAll (noting (trySource w t f)) (keepingChoice (chooseMirror t.settings f))
    (keepingFinder (findSources w t)) (s, []) t.settings.mirrors).2.2

/-- The way of a run, told by the places of the mirrors in their list. -/
theorem run_tour (w : World) (t : Task) (f : Fortune) (s : Progress) :
    ∃ (picks : List (Fin t.settings.mirrors.length)) (mirrors others : List (Visit Progress)),
      visits w t f s = mirrors ++ others ∧
      Tour (trySource w t f) (chooseMirror t.settings f) (findSources w t) t.settings.mirrors.get s
        (List.finRange t.settings.mirrors.length) picks mirrors others (run w t f s).1 (run w t f s).2 := by
  obtain ⟨picks, mirrors, others, hlog, htour⟩ := tryAll_tour (trySource w t f) (chooseMirror t.settings f)
    (findSources w t) t.settings.mirrors.get s (List.finRange t.settings.mirrors.length)
  rw [List.map_get_finRange] at hlog htour
  refine ⟨picks, mirrors, others, ?_, htour⟩
  rw [visits, hlog]

end MeshFirmware.Updater
