import MeshFirmware.Proofs.Updater.Journal

/-!
# What is installed

An image is handed to the installation only at the end of a visit that has passed every check, and it is then
what lies at the place of the image (`Handed`). One attempt installs at most once (`Course.extends`), and what a
run adds to its history is what its visits add, so this holds of whole runs (`handed_of_install`).
-/

namespace MeshFirmware.Updater

/-- An image handed to the installation by an attempt at a source: the history before, what lies at the place of
the image, the endpoints and the bodies of the manifest and of the image, and the offer of the manifest. -/
structure Handed (w : World) (t : Task) (f : Fortune) (source : Source) (s : Progress) (front : History)
    (place : ImagePlace) (e e' : Endpoint) (body image : Bytes) (o : Manifest.Offer) : Prop where
  manifest_endpoint : source.manifestEndpoint t.settings.branch = .ok e
  image_endpoint : source.endpoint t.settings.branch o.image.file = .ok e'
  steps : front = s.history ++ [.fetch e, .scripts .download, .fetch e', .scripts .upgrade]
  action : t.settings.noAction = false
  manifest_complete : (w.fetch s.history e).body? = some body
  manifest_unbroken : (LineSplitter.lines body).2 = none
  signed : t.settings.required ≤ goodSignatures (Hash.digest (signedBytes body))
    (Manifest.signaturesIn (LineSplitter.lines body).1) t.settings.keys
  branch_line : "BRANCH=" ++ t.settings.branch ∈ Manifest.signedLines (LineSplitter.lines body).1
  date_line : ∃ v, "DATE=" ++ v ∈ Manifest.signedLines (LineSplitter.lines body).1 ∧
    Calendar.parseDate v = some o.date
  priority_line : ∃ v, "PRIORITY=" ++ v ∈ Manifest.signedLines (LineSplitter.lines body).1 ∧
    Manifest.priority? v = some o.priority
  image_line : ∃ line ∈ Manifest.signedLines (LineSplitter.lines body).1,
    Manifest.IsUnnamed line ∧ Manifest.imageLine? t.model line = some o.image
  wanted : Version.isNewer o.image.version t.settings.oldVersion = true ∨ t.settings.forceVersion = true
  drawn : t.settings.force = true ∨ f.draw s.choices <
    Rollout.acceptanceProbability o.date o.priority t.settings.fallback (f.now s.choices) (f.uptime s.choices)
  image_complete : (w.fetch (s.history ++ [.fetch e, .scripts .download]) e').body? = some image
  in_place : ∃ file, place = .file file ∧ file.content = image
  checksum : Hash.digest image = o.image.hash
  within_size : ∀ size, o.image.size = some size → image.length ≤ size.toNat

/-! ## Histories that grow -/

/-- A history grows to another one, and each installation that is added has a property. -/
structure Extends (P : History → ImagePlace → Prop) (h h' : History) : Prop where
  grown : h <+: h'
  installs : ∀ front place rest, h' = front ++ .install place :: rest → h.length ≤ front.length → P front place

theorem exists_of_append_eq {h effects front rest : History} {e : Effect}
    (heq : h ++ effects = front ++ e :: rest) (hle : h.length ≤ front.length) :
    ∃ front', front = h ++ front' ∧ effects = front' ++ e :: rest := by
  rcases List.append_eq_append_iff.mp heq with ⟨front', hfront, heffects⟩ | ⟨more, hh, hrest⟩
  · exact ⟨front', hfront, heffects⟩
  · obtain rfl : more = [] := by
      rw [hh, List.length_append] at hle
      exact List.length_eq_zero_iff.mp (by omega)
    rw [List.append_nil] at hh
    exact ⟨[], by rw [hh, List.append_nil], hrest.symm⟩

/-- Between effects that install nothing there is only one installation. -/
theorem eq_of_append_install {pre post front rest : History} {place place' : ImagePlace}
    (hpre : ∀ p, Effect.install p ∉ pre) (hpost : ∀ p, Effect.install p ∉ post)
    (heq : pre ++ .install place :: post = front ++ .install place' :: rest) : front = pre ∧ place' = place := by
  rcases List.append_eq_append_iff.mp heq with ⟨more, hfront, hrest⟩ | ⟨more, hpre', hrest⟩
  · cases more with
    | nil =>
      obtain ⟨hplace, -⟩ := List.cons.inj hrest
      exact ⟨by rw [hfront, List.append_nil], (Effect.install.inj hplace).symm⟩
    | cons e more =>
      -- A later installation would be one of the effects after this one.
      refine absurd ?_ (hpost place')
      rw [(List.cons.inj hrest).2]
      simp
  · cases more with
    | nil =>
      obtain ⟨hplace, -⟩ := List.cons.inj hrest
      exact ⟨by rw [hpre', List.append_nil], Effect.install.inj hplace⟩
    | cons e more =>
      refine absurd ?_ (hpre place')
      rw [hpre', (List.cons.inj hrest).1]
      simp

namespace Extends
variable {P Q : History → ImagePlace → Prop} {h h' h'' : History}

theorem of_quiet {effects : History} (hquiet : ∀ place, Effect.install place ∉ effects) :
    Extends P h (h ++ effects) := by
  refine ⟨List.prefix_append h effects, ?_⟩
  intro front place rest heq hle
  obtain ⟨front', -, heffects⟩ := exists_of_append_eq heq hle
  refine absurd ?_ (hquiet place)
  rw [heffects]
  simp

theorem refl (P : History → ImagePlace → Prop) (h : History) : Extends P h h := by
  have hquiet : Extends P h (h ++ []) := of_quiet (by simp)
  rwa [List.append_nil] at hquiet

theorem of_install {pre post : History} {place : ImagePlace} (hpre : ∀ p, Effect.install p ∉ pre)
    (hpost : ∀ p, Effect.install p ∉ post) (hP : P (h ++ pre) place) :
    Extends P h (h ++ (pre ++ .install place :: post)) := by
  refine ⟨List.prefix_append h _, ?_⟩
  intro front place' rest heq hle
  obtain ⟨front', rfl, heffects⟩ := exists_of_append_eq heq hle
  obtain ⟨rfl, rfl⟩ := eq_of_append_install hpre hpost heffects
  exact hP

theorem mono (hPQ : ∀ front place, P front place → Q front place) (hext : Extends P h h') :
    Extends Q h h' :=
  ⟨hext.grown, fun front place rest heq hle => hPQ front place (hext.installs front place rest heq hle)⟩

theorem trans (h₁ : Extends P h h') (h₂ : Extends P h' h'') : Extends P h h'' := by
  refine ⟨h₁.grown.trans h₂.grown, ?_⟩
  intro front place rest heq hle
  by_cases hlate : h'.length ≤ front.length
  · exact h₂.installs front place rest heq hlate
  · -- The installation has been added before the middle history ended.
    obtain ⟨more, hmore⟩ := h₂.grown
    rw [← hmore] at heq
    rcases List.append_eq_append_iff.mp heq with ⟨late, hfront, -⟩ | ⟨late, hmiddle, hrest⟩
    · rw [hfront, List.length_append] at hlate
      omega
    · cases late with
      | nil =>
        rw [hmiddle, List.append_nil] at hlate
        exact absurd (Nat.le_refl _) hlate
      | cons e late =>
        obtain ⟨rfl, -⟩ := List.cons.inj hrest
        exact h₁.installs front place late hmiddle hle

end Extends

/-! ## One attempt -/

section
variable {w : World} {t : Task} {f : Fortune} {source : Source} {s after : Progress}
  {result : Except AttemptError Outcome}

theorem Pursuit.extends {o : Manifest.Offer} (h : Pursuit w t source o s result after) :
    Extends (fun front place => ∃ e file image, Stored w t source o s e file image ∧
        t.settings.noAction = false ∧ place = .file file ∧
        front = s.history ++ [.scripts .download, .fetch e, .scripts .upgrade])
      s.history after.history := by
  cases h with
  | noEndpoint => exact .refl _ _
  | unopened =>
    rw [Progress.history_after, Progress.history_after, List.append_assoc]
    exact .of_quiet (by simp)
  | dropped =>
    rw [history_discard, history_delivered, List.append_assoc]
    exact .of_quiet (by simp)
  | simulated =>
    rw [Progress.history_after, history_delivered, List.append_assoc]
    exact .of_quiet (by simp)
  | @notInstalled e file image _ _ hs hgo =>
    have heffects : (s.history ++ [.scripts .download, .fetch e] ++ [.scripts .upgrade] ++
          [.install (.file file)] ++ [.scripts .abort] : History) =
        s.history ++ ([.scripts .download, .fetch e, .scripts .upgrade] ++
          .install (.file file) :: [.scripts .abort]) := by
      simp
    rw [history_discard]
    dsimp only
    rw [Progress.history_after, Progress.history_after, history_delivered, heffects]
    exact .of_install (by simp) (by simp) ⟨e, file, image, hs, hgo, rfl, rfl⟩

/-- What an attempt installs has been checked by it. -/
theorem Course.extends (h : Course w t f source s result after) :
    Extends (fun front place => ∃ e e' body image o, Handed w t f source s front place e e' body image o)
      s.history after.history := by
  cases h with
  | noEndpoint => exact .refl _ _
  | refused => exact .of_quiet (by simp)
  | upToDate => exact .of_quiet (by simp)
  | deferred =>
    rw [history_decided]
    exact .of_quiet (by simp)
  | @pursued e body o _ _ ho hc hp =>
    -- The offer is pursued from a history that has the fetch of the manifest already.
    have hfetch : Extends (fun front place => ∃ e e' body image o,
        Handed w t f source s front place e e' body image o) s.history (decided t e s).history := by
      rw [history_decided]
      exact .of_quiet (by simp)
    refine hfetch.trans (hp.extends.mono ?_)
    rintro front place ⟨e', file, image, hstored, hgo, hplace, hfront⟩
    obtain ⟨hdate, hpriority, hbranch, himage⟩ := offer_eq_ok ho.offer
    have hdigest : (manifestOf t body).signedDigest = Hash.digest (signedBytes body) := by
      rw [manifestOf, Manifest.signedDigest_readLines, Manifest.hashedBytes_lines ho.unbroken]
    have hsignatures : (manifestOf t body).signatures =
        Manifest.signaturesIn (LineSplitter.lines body).1 := by
      rw [manifestOf, Manifest.signatures_readLines _ _ rfl]
      rfl
    refine ⟨e, e', body, image, o, ?_⟩
    constructor
    case manifest_endpoint => exact ho.endpoint
    case image_endpoint => exact hstored.endpoint
    case steps => rw [hfront, history_decided, List.append_assoc, List.singleton_append]
    case action => exact hgo
    case manifest_complete => exact ho.complete
    case manifest_unbroken => exact ho.unbroken
    case signed =>
      rw [← hdigest, ← hsignatures]
      exact ho.signed
    case branch_line => exact Manifest.branchLine_mem _ _ hbranch
    case date_line => exact Manifest.exists_dateLine _ _ hdate
    case priority_line => exact Manifest.exists_priorityLine _ _ hpriority
    case image_line => exact Manifest.exists_imageLine _ _ himage
    case wanted => simpa [isWanted] using hc.wanted
    case drawn => exact hc.drawn
    case image_complete =>
      have hcomplete := hstored.complete
      rwa [Progress.history_after, history_decided, List.append_assoc] at hcomplete
    case in_place => exact ⟨file, hplace, hstored.content⟩
    case checksum => exact hstored.checksum
    case within_size => exact hstored.bounded

/-! ## A whole run -/

/-- What is installed on a path has been checked by one of its visits. -/
theorem Path.extends {move : Progress → Progress → Prop}
    (hmove : ∀ s s', move s s' → s'.history = s.history) {s s' : Progress} {vs : List (Visit Progress)}
    {v : Verdict} (h : Path (trySource w t f) move s vs v s') :
    Extends (fun front place => ∃ u ∈ vs, ∃ e e' body image o,
      Handed w t f u.source u.before front place e e' body image o) s.history s'.history := by
  have hvisit {source : Source} {s₁ s₂ : Progress} {x : Verdict}
      (ht : trySource w t f source s₁ = (x, s₂)) :
      Extends (fun front place => ∃ e e' body image o,
        Handed w t f source s₁ front place e e' body image o) s₁.history s₂.history := by
    have hafter : s₂ = (attempt w t f source s₁).2 := by
      rw [← snd_trySource, ht]
    rw [hafter]
    exact (attempt_course w t f source s₁).extends
  induction h with
  | done => exact .refl _ _
  | ended hm ht =>
    rw [← hmove _ _ hm]
    exact (hvisit ht).mono fun front place handed => ⟨_, List.mem_singleton_self _, handed⟩
  | failed hm ht _ ih =>
    rw [← hmove _ _ hm]
    refine ((hvisit ht).mono ?_).trans (ih.mono ?_)
    · intro front place handed
      exact ⟨_, List.mem_cons_self, handed⟩
    · rintro front place ⟨u, hu, handed⟩
      exact ⟨u, List.mem_cons_of_mem _ hu, handed⟩

end

/-- Whatever a run hands to the installation has passed every check in one of its visits: signatures, fields,
version, chance, size and checksum, and it is the fetched image that lies at its place. -/
theorem handed_of_install {w : World} {t : Task} {f : Fortune} {s : Progress} {front rest : History}
    {place : ImagePlace} (h : (run w t f s).2.history = front ++ .install place :: rest)
    (hnew : s.history.length ≤ front.length) :
    ∃ v ∈ visits w t f s, ∃ e e' body image o,
      Handed w t f v.source v.before front place e e' body image o := by
  obtain ⟨picks, mirrors, others, hvisits, htour⟩ := run_tour w t f s
  generalize run w t f s = r at htour h
  obtain ⟨result, after⟩ := r
  have hextends : Extends (fun front place => ∃ v ∈ mirrors ++ others, ∃ e e' body image o,
      Handed w t f v.source v.before front place e e' body image o) s.history after.history := by
    cases htour with
    | amongMirrors hmirrors =>
      refine (hmirrors.extends fun _ _ => history_of_moves).mono ?_
      rintro front place ⟨v, hv, handed⟩
      exact ⟨v, List.mem_append_left _ hv, handed⟩
    | @beyondMirrors _ _ _ s₁ _ hmirrors hpicks hleft hinorder hothers =>
      -- Between mirrors and neighbours there are questions only.
      have hsearch : Extends (fun front place => ∃ v ∈ mirrors ++ others, ∃ e e' body image o,
          Handed w t f v.source v.before front place e e' body image o)
          s₁.history (findSources w t s₁).2.history := by
        rw [findSources_eq]
        exact .of_quiet (by simp)
      refine ((hmirrors.extends fun _ _ => history_of_moves).mono ?_).trans
        (hsearch.trans ((hothers.extends fun _ _ heq => congrArg Progress.history heq.symm).mono ?_))
      · rintro front place ⟨v, hv, handed⟩
        exact ⟨v, List.mem_append_left _ hv, handed⟩
      · rintro front place ⟨v, hv, handed⟩
        exact ⟨v, List.mem_append_right _ hv, handed⟩
  rw [hvisits]
  exact hextends.installs front place rest h hnew

/-- A world whose only mirror has a manifest and an image of three bytes, and whose installation fails. -/
def smallWorld : World where
  fetch h _ :=
    if h.isEmpty then
      .started none [Bytes.ofText "BRANCH=stable\nDATE=2024-01-01\nPRIORITY=1\ntiny 2 ",
        Bytes.ofText "ba7816bf8f01cfea414140de5dae2223b00361a396177a9cb410ff61f20015ad 3 tiny.bin\n---\n"] none
    else .started (some 3) [Bytes.ofText "a", Bytes.ofText "bc"] none
  interfaces _ := none
  ask _ _ := ⟨[], .done⟩
  install _ _ := ("no such tool", .absent)

/-- The task of a node with this version that has no keys and asks for this many signatures. -/
def smallTask (oldVersion : String) (required : Nat) : Task where
  settings := {
    branch := "stable"
    oldVersion
    keys := .empty
    required
    mirrors := ["http://[fd00::1]/"]
    mirrorsInOrder := true }
  model := "tiny"
  imagePath := "/tmp/firmware.bin"
  search := ⟨[], 1001, 1⟩

/-- A fortune that always draws zero, a day after the window of the manifest. -/
def smallFortune : Fortune where
  pick _ _ := ⟨0, Nat.succ_pos _⟩
  draw _ := 0.0
  now _ := ⟨1704067200 + 172800, 0⟩
  uptime _ := .ofSeconds 1000

/-- A run that hands the image of its mirror to the installation. -/
theorem handed_in_small_world :
    ∃ front rest, (run smallWorld (smallTask "1" 0) smallFortune { place := .absent }).2.history =
        front ++ .install (.file (.regular (Bytes.ofText "abc"))) :: rest ∧
      ∃ v ∈ visits smallWorld (smallTask "1" 0) smallFortune { place := .absent }, ∃ e e' body image o,
        Handed smallWorld (smallTask "1" 0) smallFortune v.source v.before front
          (.file (.regular (Bytes.ofText "abc"))) e e' body image o := by
  have h : (run smallWorld (smallTask "1" 0) smallFortune { place := .absent }).2.history =
      (run smallWorld (smallTask "1" 0) smallFortune { place := .absent }).2.history.take 4 ++
        .install (.file (.regular (Bytes.ofText "abc"))) ::
          (run smallWorld (smallTask "1" 0) smallFortune { place := .absent }).2.history.drop 5 := by
    decide +kernel
  exact ⟨_, _, h, handed_of_install h (Nat.zero_le _)⟩

end MeshFirmware.Updater
