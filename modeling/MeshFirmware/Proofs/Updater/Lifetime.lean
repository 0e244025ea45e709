import MeshFirmware.Proofs.Updater.Authenticity
import MeshFirmware.Proofs.Version.Order

/-!
# The life of a node

A node runs the updater again and again. An installation that takes over is the last thing its run does, and the
node starts anew with the version of the manifest that the image came with; one that comes back has failed, and
the node keeps its version. Every installation is made for a version that is newer than the installed one, so over
the life of a node the versions only rise, whatever old manifests it is shown (`versions_only_rise`).
-/

namespace MeshFirmware.Updater

/-- What an effect hands to the installation, if it does. -/
def Effect.image? : Effect → Option ImagePlace
  | .install place => some place
  | _ => none

/-- The version that a source offers, if its manifest comes in whole and can be believed. -/
def offeredVersion? (w : World) (t : Task) (source : Source) (s : Progress) : Option String :=
  match source.manifestEndpoint t.settings.branch with
  | .error _ => none
  | .ok e =>
    match fetchManifest w t e s with
    | (.error _, _) => none
    | (.ok m, _) =>
      match authenticate t e m with
      | .error _ => none
      | .ok o => some o.image.version

/-- The installations of a visit: what is handed over, and the version of the manifest it came with. -/
def Visit.installs (w : World) (t : Task) (v : Visit Progress) : List (ImagePlace × String) :=
  match offeredVersion? w t v.source v.before with
  | none => []
  | some version => (v.effects.filterMap Effect.image?).map (·, version)

/-- The installations of a run, if none of them takes over. -/
def installs (w : World) (t : Task) (f : Fortune) (s : Progress) : List (ImagePlace × String) :=
  (visits w t f s).flatMap (Visit.installs w t)

/-- One run of a node: what it meets and has to do, and which of its installations takes over, if one does. -/
structure Session where
  world : World
  task : Task
  fortune : Fortune
  start : Progress
  takeover : Option Nat

/-- The installations of a session, of which none comes after the one that takes over. -/
def Session.installs (r : Session) : List (ImagePlace × String) :=
  match r.takeover with
  | none => Updater.installs r.world r.task r.fortune r.start
  | some k => (Updater.installs r.world r.task r.fortune r.start).take (k + 1)

/-- The version that a session commits the node to, if one of its installations takes over. -/
def Session.committed? (r : Session) : Option String :=
  (r.takeover.bind fun k => (Updater.installs r.world r.task r.fortune r.start)[k]?).map Prod.snd

/-- The sessions of a node that starts with this version: each knows the version that is installed, and none is
told to install a version that is not newer. -/
def Life : String → List Session → Prop
  | _, [] => True
  | installed, r :: rest => r.task.settings.oldVersion = installed ∧ r.task.settings.forceVersion = false ∧
      Life (r.committed?.getD installed) rest

/-! ## One attempt -/

section
variable {w : World} {t : Task} {f : Fortune} {source : Source} {s after : Progress}

theorem Offers.offeredVersion?_eq {e : Endpoint} {body : Bytes} {o : Manifest.Offer}
    (h : Offers w t source s e body o) : offeredVersion? w t source s = some o.image.version := by
  have hauth : authenticate t e (manifestOf t body) = .ok o := by
    unfold authenticate
    dsimp only
    rw [if_neg (Nat.not_lt.mpr h.signed), h.offer]
  unfold offeredVersion?
  rw [h.endpoint]
  dsimp only
  rw [h.toFetched.fetchManifest_eq]
  dsimp only
  rw [hauth]

/-- An attempt that installs something does so for the version that its source offers, and wants it. -/
theorem Course.quiet_or_wanted {result : Except AttemptError Outcome} (h : Course w t f source s result after) :
    (after.history.drop s.history.length).filterMap Effect.image? = [] ∨
      ∃ version, offeredVersion? w t source s = some version ∧ isWanted t.settings version = true := by
  cases h with
  | noEndpoint => simp
  | refused => simp [Effect.image?]
  | upToDate => simp [Effect.image?]
  | deferred => simp [Effect.image?]
  | pursued ho hc => exact .inr ⟨_, ho.offeredVersion?_eq, hc.wanted⟩

/-! ## One run -/

theorem Visit.quiet_or_wanted {v : Visit Progress} (hv : v ∈ visits w t f s) :
    v.effects.filterMap Effect.image? = [] ∨
      ∃ version, offeredVersion? w t v.source v.before = some version ∧ isWanted t.settings version = true := by
  obtain ⟨hafter, -⟩ := Visit.effects_eq (trySource_of_mem_visits hv)
  rw [Visit.effects, hafter]
  exact (attempt_course w t f v.source v.before).quiet_or_wanted

theorem Visit.map_fst_installs {v : Visit Progress} (hv : v ∈ visits w t f s) :
    (v.installs w t).map Prod.fst = v.effects.filterMap Effect.image? := by
  unfold Visit.installs
  rcases Visit.quiet_or_wanted hv with hquiet | ⟨version, hoffered, -⟩
  · rw [hquiet]
    split <;> rfl
  · rw [hoffered]
    simp [Function.comp_def]

/-- The installations of a run are those in its history, in order. -/
theorem map_fst_installs (w : World) (t : Task) (f : Fortune) (s : Progress) :
    (installs w t f s).map Prod.fst =
      ((run w t f s).2.history.drop s.history.length).filterMap Effect.image? := by
  obtain ⟨mirrors, others, questions, hvisits, hhistory⟩ := run_history w t f s
  have hsame : ∀ v ∈ mirrors ++ others, (v.installs w t).map Prod.fst = v.effects.filterMap Effect.image? := by
    intro v hv
    rw [← hvisits] at hv
    exact Visit.map_fst_installs hv
  have hquestions : (questions.map Effect.ask).filterMap Effect.image? = [] := by
    simp [List.filterMap_map, Function.comp_def, Effect.image?]
  rw [installs, hvisits, hhistory, List.drop_left, List.filterMap_append, List.filterMap_append, hquestions,
    List.nil_append, ← List.filterMap_append, ← List.flatMap_append, List.map_flatMap, List.filterMap_flatMap]
  exact List.flatMap_congr hsame

/-- What a run installs it wants. -/
theorem isWanted_of_mem_installs {c : ImagePlace × String} (hc : c ∈ installs w t f s) :
    isWanted t.settings c.2 = true := by
  obtain ⟨v, hv, hc⟩ := List.mem_flatMap.mp hc
  unfold Visit.installs at hc
  rcases Visit.quiet_or_wanted hv with hquiet | ⟨version, hoffered, hwanted⟩
  · rw [hquiet] at hc
    split at hc <;> cases hc
  · rw [hoffered] at hc
    obtain ⟨place, -, rfl⟩ := List.mem_map.mp hc
    exact hwanted

end

/-! ## The life -/

section
variable {installed : String} {r : Session} {front rest : List Session}

theorem Session.mem_installs {c : ImagePlace × String} (hc : c ∈ r.installs) :
    c ∈ Updater.installs r.world r.task r.fortune r.start := by
  unfold Session.installs at hc
  split at hc
  · exact hc
  · exact List.mem_of_mem_take hc

/-- A session commits to a version that it installs. -/
theorem Session.exists_of_committed? {version : String} (h : r.committed? = some version) :
    ∃ c ∈ r.installs, c.2 = version := by
  obtain ⟨c, hc, rfl⟩ := Option.map_eq_some_iff.mp h
  obtain ⟨k, hk, hget⟩ := Option.bind_eq_some_iff.mp hc
  refine ⟨c, ?_, rfl⟩
  rw [Session.installs, hk]
  have hlast : ((Updater.installs r.world r.task r.fortune r.start).take (k + 1))[k]? = some c := by
    rw [List.getElem?_take_of_lt (Nat.lt_succ_self k), hget]
  exact List.mem_of_getElem? hlast

/-- What the first session installs is newer than what is installed. -/
theorem Life.isNewer_installs (h : Life installed (r :: rest)) {c : ImagePlace × String} (hc : c ∈ r.installs) :
    Version.isNewer c.2 installed = true := by
  obtain ⟨hinstalled, hforce, -⟩ := h
  have hwanted := isWanted_of_mem_installs (Session.mem_installs hc)
  rwa [isWanted, hforce, Bool.or_false, hinstalled] at hwanted

theorem Life.isNewer_committed (h : Life installed (r :: rest)) {version : String}
    (hr : r.committed? = some version) : Version.isNewer version installed = true := by
  obtain ⟨c, hc, rfl⟩ := Session.exists_of_committed? hr
  exact h.isNewer_installs hc

/-- What a session installs is newer than what the node had at first and than all it has been committed to. -/
theorem Life.isNewer_of_earlier (h : Life installed (front ++ r :: rest)) {c : ImagePlace × String}
    (hc : c ∈ r.installs) :
    ∀ version ∈ installed :: front.filterMap Session.committed?, Version.isNewer c.2 version = true := by
  induction front generalizing installed with
  | nil =>
    intro version hversion
    obtain rfl := List.mem_singleton.mp hversion
    exact h.isNewer_installs hc
  | cons q front ih =>
    have hlater := ih h.2.2
    cases hq : q.committed? with
    | none =>
      rw [hq] at hlater
      rw [List.filterMap_cons_none hq]
      exact hlater
    | some version =>
      rw [hq] at hlater
      rw [List.filterMap_cons_some hq, List.forall_mem_cons]
      refine ⟨?_, hlater⟩
      exact Version.isNewer_trans (hlater version List.mem_cons_self) (h.isNewer_committed hq)

/-- The versions of a life rise. -/
theorem Life.pairwise_committed {rs : List Session} (h : Life installed rs) :
    (installed :: rs.filterMap Session.committed?).Pairwise fun earlier later =>
      Version.isNewer later earlier = true := by
  induction rs generalizing installed with
  | nil => exact List.pairwise_singleton _ _
  | cons r rest ih =>
    have hrest := ih h.2.2
    cases hr : r.committed? with
    | none =>
      rw [hr] at hrest
      rw [List.filterMap_cons_none hr]
      exact hrest
    | some version =>
      rw [hr] at hrest
      rw [List.filterMap_cons_some hr, List.pairwise_cons]
      refine ⟨?_, hrest⟩
      have hnewer := h.isNewer_committed hr
      intro later hlater
      rcases List.mem_cons.mp hlater with rfl | hlater
      · exact hnewer
      · exact Version.isNewer_trans (List.rel_of_pairwise_cons hrest hlater) hnewer

end

/-- Over the life of a node the versions it is committed to rise strictly, from what it had at first, and so no two
of them compare equal. Also an installation that comes back was made for a version newer than all of these that
came before it. The installations are those in the histories of the runs, none left out. -/
theorem versions_only_rise {initial : String} {rs : List Session} (h : Life initial rs) :
    (initial :: rs.filterMap Session.committed?).Pairwise (fun earlier later =>
        Version.isNewer later earlier = true) ∧
      (rs.filterMap Session.committed?).Pairwise (fun earlier later =>
        Version.compareVersions later earlier ≠ .eq) ∧
      (∀ front r rest, rs = front ++ r :: rest → ∀ c ∈ r.installs,
        ∀ version ∈ initial :: front.filterMap Session.committed?, Version.isNewer c.2 version = true) ∧
      ∀ r ∈ rs, (installs r.world r.task r.fortune r.start).map Prod.fst =
        ((run r.world r.task r.fortune r.start).2.history.drop r.start.history.length).filterMap
          Effect.image? := by
  have hrise := h.pairwise_committed
  refine ⟨hrise, ?_, ?_, ?_⟩
  · refine (List.pairwise_cons.mp hrise).2.imp ?_
    intro earlier later hnewer heq
    rw [Version.isNewer_eq_true, heq] at hnewer
    cases hnewer
  · rintro front r rest rfl c hc
    exact h.isNewer_of_earlier hc
  · intro r _
    exact map_fst_installs r.world r.task r.fortune r.start

/-- A world like the small one whose mirror offers this version. -/
def releaseWorld (version : String) : World :=
  { smallWorld with
    fetch := fun h _ =>
      if h.isEmpty then
        .started none [Bytes.ofText (s!"BRANCH=stable\nDATE=2024-01-01\nPRIORITY=1\ntiny {version} " ++
          "ba7816bf8f01cfea414140de5dae2223b00361a396177a9cb410ff61f20015ad 3 tiny.bin\n---\n")] none
      else .started (some 3) [Bytes.ofText "abc"] none }

/-- A session of a node with one version that is offered another one, and whose first installation takes over. -/
def releaseSession (installed offered : String) : Session :=
  ⟨releaseWorld offered, smallTask installed 0, smallFortune, { place := .absent }, some 0⟩

/-- A node that is shown an old manifest between two releases. -/
theorem versions_rise_past_replay :
    let rs := [releaseSession "1" "2", releaseSession "2" "1.9", releaseSession "2" "10"]
    Life "1" rs ∧ rs.filterMap Session.committed? = ["2", "10"] ∧
      ["1", "2", "10"].Pairwise (fun earlier later => Version.isNewer later earlier = true) := by
  intro rs
  have h₁ : (releaseSession "1" "2").committed? = some "2" := by decide +kernel
  have h₂ : (releaseSession "2" "1.9").committed? = none := by decide +kernel
  have h₃ : (releaseSession "2" "10").committed? = some "10" := by decide +kernel
  have hcommitted : rs.filterMap Session.committed? = ["2", "10"] := by
    simp [rs, h₁, h₂, h₃]
  have hlife : Life "1" rs := by
    refine ⟨rfl, rfl, ?_⟩
    rw [h₁]
    refine ⟨rfl, rfl, ?_⟩
    rw [h₂]
    exact ⟨rfl, rfl, trivial⟩
  refine ⟨hlife, hcommitted, ?_⟩
  have hrise := (versions_only_rise hlife).1
  rwa [hcommitted] at hrise

end MeshFirmware.Updater
