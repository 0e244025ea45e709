import MeshFirmware.Proofs.Updater.Installation
import MeshFirmware.Proofs.Updater.Journal

/-!
# Only authentic manifests count

Behind the count of signatures lies everything that ends a run or runs something on the node. An attempt that
does either has fetched a manifest whole, found enough signatures on it, and found all its fields
(`Authentic`). A source without such a manifest only fails, and a run goes on from it as long as there is
anything left to try (`only_authentic_ends`).
-/

namespace MeshFirmware.Updater

/-- A source has delivered a manifest that enough keys have signed and that says all it must. -/
structure Authentic (w : World) (t : Task) (source : Source) (s : Progress) (e : Endpoint) (body : Bytes) :
    Prop extends Fetched w t source s e body where
  fetched : fetchManifest w t e s = (.ok (manifestOf t body), s.after (.fetch e))
  signed : t.settings.required ≤
    goodSignatures (manifestOf t body).signedDigest (manifestOf t body).signatures t.settings.keys
  date : (manifestOf t body).date.isSome = true
  priority : (manifestOf t body).priority.isSome = true
  branch : (manifestOf t body).branchNamed = true
  image : (manifestOf t body).image.isSome = true

/-- Every source has been tried: the mirrors in some order, and what a search after them has brought. -/
def Exhausted (w : World) (t : Task) (f : Fortune) (s : Progress) : Prop :=
  ∃ (order : List String) (h : History), order.Perm t.settings.mirrors ∧
    Follows s.history ((visits w t f s).take t.settings.mirrors.length) h ∧
    (visits w t f s).map Visit.source = order.map .mirror ++ (candidatesAfter w t h).map sourceOf

section
variable {w : World} {t : Task} {f : Fortune} {source : Source} {s : Progress} {e : Endpoint} {body : Bytes}

theorem Fetched.fetchManifest_eq (h : Fetched w t source s e body) :
    fetchManifest w t e s = (.ok (manifestOf t body), s.after (.fetch e)) := by
  obtain ⟨length, pieces, hdelivery, hbody⟩ := Delivery.exists_of_body? h.complete
  obtain ⟨herror, hmanifest⟩ :=
    take_manifestSink t.settings.branch t.model {} length pieces
  have hstream : ({} : Reading).splitter.stream pieces = LineSplitter.lines body := by
    rw [← hbody]
    exact LineSplitter.stream_eq_lines pieces
  rw [hstream, h.unbroken] at herror
  rw [hstream] at hmanifest
  unfold fetchManifest
  rw [hdelivery]
  rcases htake : (manifestSink t.settings.branch t.model).take {} (.started length pieces none) with ⟨error, r⟩
  rw [htake] at herror hmanifest
  obtain rfl : error = none := herror
  exact Prod.ext (congrArg Except.ok hmanifest) rfl

/-- What is believed is authentic. -/
theorem Offers.authentic {o : Manifest.Offer} (h : Offers w t source s e body o) :
    Authentic w t source s e body := by
  obtain ⟨hdate, hpriority, hbranch, himage⟩ := offer_eq_ok h.offer
  exact {
    toFetched := h.toFetched
    fetched := h.toFetched.fetchManifest_eq
    signed := h.signed
    date := by rw [hdate]; rfl
    priority := by rw [hpriority]; rfl
    branch := hbranch
    image := by rw [himage]; rfl }

/-- An attempt that ends the run, or runs something on the node, has found an authentic manifest. -/
theorem exists_authentic (hends : (∀ x, (attempt w t f source s).1 ≠ .error (.source x)) ∨
    ∃ e ∈ (attempt w t f source s).2.history.drop s.history.length, e.touchesNode = true) :
    ∃ e body, Authentic w t source s e body := by
  obtain ⟨e, body, o, ho⟩ := (attempt_course w t f source s).exists_offers hends
  exact ⟨e, body, ho.authentic⟩

/-- The last visit of a run has not failed if it has ended the run. -/
theorem not_failed_of_last {move : Progress → Progress → Prop} {s₁ s₂ : Progress}
    {front before vs : List (Visit Progress)} {v : Visit Progress} {r : Except RunError Outcome}
    (h : Path (trySource w t f) move s₁ vs (some r) s₂) (hlast : before ++ vs = front ++ [v]) :
    ¬ v.Failed w t f := by
  obtain ⟨front', u, rfl, -, hended⟩ := h.ended_last
  have hsame := congrArg List.getLast? hlast
  rw [← List.append_assoc, List.getLast?_concat, List.getLast?_concat] at hsame
  rw [← Option.some.inj hsame]
  exact Visit.not_failed_of_ended hended

/-- A run whose last visit has failed has tried everything. -/
theorem exhausted_of_failed {front : List (Visit Progress)} {v : Visit Progress}
    (hlast : visits w t f s = front ++ [v]) (hv : v.Failed w t f) :
    (run w t f s).1 = .error .noSource ∧ Exhausted w t f s := by
  obtain ⟨picks, mirrors, others, hvisits, htour⟩ := run_tour w t f s
  generalize run w t f s = r at htour ⊢
  obtain ⟨result, after⟩ := r
  rw [hvisits] at hlast
  cases htour with
  | amongMirrors hmirrors =>
    -- The last mirror has ended the run, so it cannot be a failed visit.
    rw [List.append_nil] at hlast
    have hlast' : [] ++ mirrors = front ++ [v] := hlast
    exact absurd hv (not_failed_of_last hmirrors hlast')
  | @beyondMirrors _ _ verdict s₁ _ hmirrors hpicks hleft hinorder hothers hstart hall =>
    cases verdict with
    | some r => exact absurd hv (not_failed_of_last hothers hlast)
    | none =>
      have hlength : mirrors.length = t.settings.mirrors.length := by
        have hlen := congrArg List.length hpicks
        rwa [List.length_map, List.length_map, hleft.length_eq, List.length_finRange] at hlen
      refine ⟨rfl, picks.map t.settings.mirrors.get, s₁.history, ?_, ?_, ?_⟩
      · have hperm := hleft.map t.settings.mirrors.get
        rwa [List.map_get_finRange] at hperm
      · rw [hvisits, List.take_left' hlength]
        exact hmirrors.follows fun _ _ => history_of_moves
      · rw [hvisits, List.map_append, hpicks, hall rfl, findSources_eq, List.map_map]
        rfl

end

/-- An attempt that ends the run, or runs something on the node, has an authentic manifest. A source without one
fails, and if nothing comes after it the run has tried everything. -/
theorem only_authentic_ends (w : World) (t : Task) (f : Fortune) :
    (∀ source s, ((∃ outcome, (attempt w t f source s).1 = .ok outcome) ∨
        (∃ cause, (attempt w t f source s).1 = .error (.fatal cause)) ∨
        ∃ e ∈ (attempt w t f source s).2.history.drop s.history.length, e.touchesNode = true) →
      ∃ e body, Authentic w t source s e body) ∧
    ∀ s front v rest, visits w t f s = front ++ v :: rest →
      (¬ ∃ e body, Authentic w t v.source v.before e body) →
      v.Failed w t f ∧ (rest = [] → (run w t f s).1 = .error .noSource ∧ Exhausted w t f s) := by
  constructor
  · intro source s hends
    rcases hends with ⟨outcome, hok⟩ | ⟨cause, hfatal⟩ | htouches
    · exact exists_authentic (f := f) (.inl fun x => by simp [hok])
    · exact exists_authentic (f := f) (.inl fun x => by simp [hfatal])
    · exact exists_authentic (.inr htouches)
  · intro s front v rest hvisits hauthentic
    have hfailed : v.Failed w t f := by
      have htrial : trySource w t f v.source v.before = (v.verdict, v.after) :=
        trySource_of_mem_visits (s := s) (by rw [hvisits]; simp)
      -- Any result but a source error is behind the count of signatures.
      by_contra hnot
      exact hauthentic (exists_authentic (f := f) (.inl fun x hx => hnot (Visit.failed_of_attempt htrial hx)))
    refine ⟨hfailed, ?_⟩
    rintro rfl
    exact exhausted_of_failed hvisits hfailed

/-- A node that has the version of its mirror ends the run with that. One that asks for a signature goes on from the
mirror, which has none, and finds no source. -/
theorem only_authentic_ends_in_small_world :
    (∃ e body, Authentic smallWorld (smallTask "2" 0) (.mirror "http://[fd00::1]/") { place := .absent } e body) ∧
      ∃ v, visits smallWorld (smallTask "1" 1) smallFortune { place := .absent } = [v] ∧
        v.Failed smallWorld (smallTask "1" 1) smallFortune ∧
        (run smallWorld (smallTask "1" 1) smallFortune { place := .absent }).1 = .error .noSource ∧
        Exhausted smallWorld (smallTask "1" 1) smallFortune { place := .absent } := by
  have hend : (attempt smallWorld (smallTask "2" 0) smallFortune (.mirror "http://[fd00::1]/")
      { place := .absent }).1 = .ok .upToDate := by
    decide +kernel
  have hlength : (visits smallWorld (smallTask "1" 1) smallFortune { place := .absent }).length = 1 := by
    decide +kernel
  obtain ⟨v, hv⟩ := List.length_eq_one_iff.mp hlength
  have hunsigned : ¬ ∃ e body, Authentic smallWorld (smallTask "1" 1) v.source v.before e body := by
    rintro ⟨e, body, hauthentic⟩
    exact absurd hauthentic.signed (Nat.not_succ_le_zero 0)
  obtain ⟨hfailed, hrest⟩ :=
    (only_authentic_ends smallWorld (smallTask "1" 1) smallFortune).2 _ [] v [] hv hunsigned
  refine ⟨?_, v, hv, hfailed, hrest rfl⟩
  exact (only_authentic_ends smallWorld (smallTask "2" 0) smallFortune).1 _ _ (.inl ⟨.upToDate, hend⟩)

end MeshFirmware.Updater
