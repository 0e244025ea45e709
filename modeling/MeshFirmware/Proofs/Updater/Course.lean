import MeshFirmware.Proofs.Updater.Download
import MeshFirmware.Proofs.Updater.Reading
import MeshFirmware.Updater.Attempt

/-!
# The course of an attempt

Everything an attempt can do is listed here once, with its result and the state it leaves (`Course`,
`attempt_course`). What follows an accepted offer is a course of its own (`Pursuit`). A step behind the count of
signatures carries the offer that has been believed (`Offers`), and a step behind the checksum carries the image
in the file (`Stored`).
-/

namespace MeshFirmware.Updater

/-- The manifest that the body of a delivery makes. -/
def manifestOf (t : Task) (body : Bytes) : Manifest :=
  Manifest.empty.readLines t.settings.branch t.model (LineSplitter.lines body).1

/-- A manifest has been fetched from a source, whole and without a refused line. -/
structure Fetched (w : World) (t : Task) (source : Source) (s : Progress) (e : Endpoint) (body : Bytes) :
    Prop where
  endpoint : source.manifestEndpoint t.settings.branch = .ok e
  complete : (w.fetch s.history e).body? = some body
  unbroken : (LineSplitter.lines body).2 = none

/-- A manifest has been fetched from a source, enough keys have signed it, and it makes an offer. -/
structure Offers (w : World) (t : Task) (source : Source) (s : Progress) (e : Endpoint) (body : Bytes)
    (o : Manifest.Offer) : Prop extends Fetched w t source s e body where
  signed : t.settings.required ≤
    goodSignatures (manifestOf t body).signedDigest (manifestOf t body).signatures t.settings.keys
  offer : (manifestOf t body).offer = .ok o

theorem offer_eq_ok {m : Manifest} {o : Manifest.Offer} (h : m.offer = .ok o) :
    m.date = some o.date ∧ m.priority = some o.priority ∧ m.branchNamed = true ∧ m.image = some o.image := by
  unfold Manifest.offer at h
  split at h
  · rename_i date priority hdate hpriority
    split at h
    · cases h
    · rename_i hbranch
      split at h
      · rename_i image himage
        obtain rfl := Except.ok.inj h
        exact ⟨hdate, hpriority, by simpa using hbranch, himage⟩
      · cases h
  · cases h

/-- The probability of a node to accept an offer, when so many random choices have been made. -/
def chanceOf (t : Task) (f : Fortune) (o : Manifest.Offer) (choices : Nat) : Float :=
  Rollout.acceptanceProbability o.date o.priority t.settings.fallback (f.now choices) (f.uptime choices)

/-- An offer is wanted, and the draw admits it unless the run is forced. -/
structure Chosen (t : Task) (f : Fortune) (o : Manifest.Offer) (s : Progress) : Prop where
  wanted : isWanted t.settings o.image.version = true
  drawn : t.settings.force = true ∨ f.draw s.choices < chanceOf t f o s.choices

/-- After the decision for an offer. Only a run that is not forced has drawn. -/
def decided (t : Task) (e : Endpoint) (s : Progress) : Progress :=
  if t.settings.force then s.after (.fetch e) else { s.after (.fetch e) with choices := s.choices + 1 }

/-- After an image has been delivered, with this file at its place. -/
def delivered (e : Endpoint) (file : ImageFile) (s : Progress) : Progress :=
  { (s.after (.scripts .download)).after (.fetch e) with place := .file file }

/-- An image has been fetched from a source, its bytes are in the file, and they are what the offer announces. -/
structure Stored (w : World) (t : Task) (source : Source) (o : Manifest.Offer) (s : Progress) (e : Endpoint)
    (file : ImageFile) (image : Bytes) : Prop where
  endpoint : source.endpoint t.settings.branch o.image.file = .ok e
  opened : ∃ start, (w.storage (s.after (.scripts .download)).history).openFile s.place = .ok start
  complete : (w.fetch (s.after (.scripts .download)).history e).body? = some image
  content : file.content = image
  checksum : Hash.digest image = o.image.hash
  bounded : ∀ size, o.image.size = some size → image.length ≤ size.toNat

/-- What can come of an offer that is to be taken, with the result and the state after it. -/
inductive Pursuit (w : World) (t : Task) (source : Source) (o : Manifest.Offer) (s : Progress) :
    Except AttemptError Outcome → Progress → Prop where
  | noEndpoint {p : Source.Problem} (h : source.endpoint t.settings.branch o.image.file = .error p) :
    Pursuit w t source o s (.error (.source (.noEndpoint p))) s
  | unopened {e : Endpoint} {cause : OsError} (he : source.endpoint t.settings.branch o.image.file = .ok e)
    (h : (w.storage (s.after (.scripts .download)).history).openFile s.place = .error cause) :
    Pursuit w t source o s (.error (.fatal ⟨t.imagePath, cause⟩))
      ((s.after (.scripts .download)).after (.scripts .abort))
  /-- The image does not come in whole, or is not the one that the manifest announces. -/
  | dropped {e : Endpoint} {x : SourceError} {start file : ImageFile}
    (he : source.endpoint t.settings.branch o.image.file = .ok e)
    (h : (w.storage (s.after (.scripts .download)).history).openFile s.place = .ok start) :
    Pursuit w t source o s (.error (.source x)) (discard w (delivered e file s))
  | simulated {e : Endpoint} {file : ImageFile} {image : Bytes} (hs : Stored w t source o s e file image)
    (h : t.settings.noAction = true) :
    Pursuit w t source o s (.ok .simulated) ((delivered e file s).after (.scripts .abort))
  | notInstalled {e : Endpoint} {file : ImageFile} {image : Bytes} {cause : String} {place : ImagePlace}
    (hs : Stored w t source o s e file image) (h : t.settings.noAction = false)
    (hinstall : w.install ((delivered e file s).after (.scripts .upgrade)).history (.file file) = (cause, place)) :
    Pursuit w t source o s (.error (.source (.notInstalled cause)))
      (discard w
        { ((delivered e file s).after (.scripts .upgrade)).after (.install (.file file)) with place })

/-- What can come of an attempt at a source, with the result and the state after it. -/
inductive Course (w : World) (t : Task) (f : Fortune) (source : Source) (s : Progress) :
    Except AttemptError Outcome → Progress → Prop where
  | noEndpoint {p : Source.Problem} (h : source.manifestEndpoint t.settings.branch = .error p) :
    Course w t f source s (.error (.source (.noEndpoint p))) s
  /-- The manifest does not come in whole, or does not make an offer that can be believed. -/
  | refused {e : Endpoint} {x : SourceError} (he : source.manifestEndpoint t.settings.branch = .ok e) :
    Course w t f source s (.error (.source x)) (s.after (.fetch e))
  | upToDate {e : Endpoint} {body : Bytes} {o : Manifest.Offer} (ho : Offers w t source s e body o)
    (h : isWanted t.settings o.image.version = false) :
    Course w t f source s (.ok .upToDate) (s.after (.fetch e))
  | deferred {e : Endpoint} {body : Bytes} {o : Manifest.Offer} (ho : Offers w t source s e body o)
    (hforce : t.settings.force = false) (h : ¬ f.draw s.choices < chanceOf t f o s.choices) :
    Course w t f source s (.ok .deferred) (decided t e s)
  | pursued {e : Endpoint} {body : Bytes} {o : Manifest.Offer} {result : Except AttemptError Outcome}
    {after : Progress} (ho : Offers w t source s e body o) (hc : Chosen t f o s)
    (h : Pursuit w t source o (decided t e s) result after) : Course w t f source s result after

section
variable (w : World) (t : Task) (f : Fortune) (source : Source)

/-- An image file cannot be opened, or its image is dropped, or it has come in whole and is the right one. -/
theorem fetchImage_cases {o : Manifest.Offer} {e : Endpoint} (s : Progress)
    (he : source.endpoint t.settings.branch o.image.file = .ok e) :
    (∃ cause, (w.storage (s.after (.scripts .download)).history).openFile s.place = .error cause ∧
      fetchImage w t e o.image s =
        (.error (.fatal ⟨t.imagePath, cause⟩), (s.after (.scripts .download)).after (.scripts .abort))) ∨
    (∃ start file x, (w.storage (s.after (.scripts .download)).history).openFile s.place = .ok start ∧
      fetchImage w t e o.image s = (.error (.source x), discard w (delivered e file s))) ∨
    ∃ file image, Stored w t source o s e file image ∧
      fetchImage w t e o.image s = (.ok (), delivered e file s) := by
  unfold fetchImage
  dsimp only
  split
  · rename_i cause hopen
    exact .inl ⟨cause, hopen, rfl⟩
  · rename_i start hopen
    right
    split
    · rename_i cause d htake
      exact .inl ⟨start, d.file, .imageTransfer cause, hopen, rfl⟩
    · rename_i d htake
      -- The hasher has taken the bytes that are in the file, so the comparison is about these.
      obtain ⟨image, hcomplete, hholds⟩ := take_imageSink_eq_none (Storage.content_openFile hopen) htake
      have hdigest : d.hasher.digest = Hash.digest image := by
        rw [hholds.hashed, Hash.Hasher.digest_absorb]
      split
      · rename_i hsum
        right
        exact ⟨d.file, image, ⟨he, ⟨start, hopen⟩, hcomplete, hholds.content, hdigest ▸ hsum, hholds.bounded⟩, rfl⟩
      · exact .inl ⟨start, d.file, .wrongChecksum e, hopen, rfl⟩

theorem takeOffer_pursuit (o : Manifest.Offer) (s : Progress) :
    Pursuit w t source o s (takeOffer w t source o s).1 (takeOffer w t source o s).2 := by
  unfold takeOffer
  split
  · rename_i p he
    exact .noEndpoint he
  · rename_i e he
    rcases fetchImage_cases w t source s he with
      ⟨cause, hopen, hfetch⟩ | ⟨start, file, x, hopen, hfetch⟩ | ⟨file, image, hstored, hfetch⟩
    · rw [hfetch]
      exact .unopened he hopen
    · rw [hfetch]
      exact .dropped he hopen
    · rw [hfetch]
      dsimp only
      unfold installImage
      split
      · rename_i hstop
        exact .simulated hstored hstop
      · rename_i hgo
        exact .notInstalled hstored (by simpa using hgo) rfl

/-- A manifest is fetched whole, or the source is given up. -/
theorem fetchManifest_cases {e : Endpoint} (s : Progress)
    (he : source.manifestEndpoint t.settings.branch = .ok e) :
    (∃ x, fetchManifest w t e s = (.error x, s.after (.fetch e))) ∨
    ∃ body, Fetched w t source s e body ∧
      fetchManifest w t e s = (.ok (manifestOf t body), s.after (.fetch e)) := by
  unfold fetchManifest
  split
  · rename_i cause r htake
    exact .inl ⟨.manifestTransfer e cause, rfl⟩
  · rename_i r htake
    obtain ⟨body, hcomplete, hlines, hread⟩ := take_manifestSink_eq_none htake
    exact .inr ⟨body, ⟨he, hcomplete, hlines⟩, by rw [hread]; rfl⟩

/-- What is believed has been signed by enough keys. -/
theorem offers_of_authenticate {e : Endpoint} {body : Bytes} {o : Manifest.Offer} {s : Progress}
    (hf : Fetched w t source s e body) (h : authenticate t e (manifestOf t body) = .ok o) :
    Offers w t source s e body o := by
  unfold authenticate at h
  dsimp only at h
  split at h
  · cases h
  · rename_i hsigned
    split at h
    · cases h
    · rename_i offer hoffer
      obtain rfl := Except.ok.inj h
      exact ⟨hf, Nat.not_lt.mp hsigned, hoffer⟩

/-- A decision settles an attempt, or the offer is chosen. -/
theorem decideOn_cases (o : Manifest.Offer) (e : Endpoint) (s : Progress) :
    (isWanted t.settings o.image.version = false ∧
      decideOn t f o (s.after (.fetch e)) = (some .upToDate, s.after (.fetch e))) ∨
    (t.settings.force = false ∧ ¬ f.draw s.choices < chanceOf t f o s.choices ∧
      decideOn t f o (s.after (.fetch e)) = (some .deferred, decided t e s)) ∨
    (Chosen t f o s ∧ decideOn t f o (s.after (.fetch e)) = (none, decided t e s)) := by
  unfold decideOn decided
  cases hwanted : isWanted t.settings o.image.version with
  | false => exact .inl ⟨rfl, rfl⟩
  | true =>
    right
    cases hforce : t.settings.force with
    | true => exact .inr ⟨⟨hwanted, .inl hforce⟩, rfl⟩
    | false =>
      by_cases hdraw : f.draw s.choices < chanceOf t f o s.choices
      · right
        have haccepts : Rollout.accepts false (chanceOf t f o s.choices) (f.draw s.choices) = true := by
          simpa [Rollout.accepts] using hdraw
        exact ⟨⟨hwanted, .inr hdraw⟩, if_pos haccepts⟩
      · left
        have haccepts : ¬ Rollout.accepts false (chanceOf t f o s.choices) (f.draw s.choices) = true := by
          simpa [Rollout.accepts] using hdraw
        exact ⟨rfl, hdraw, if_neg haccepts⟩

theorem attempt_course (s : Progress) :
    Course w t f source s (attempt w t f source s).1 (attempt w t f source s).2 := by
  unfold attempt
  split
  · rename_i p he
    exact .noEndpoint he
  · rename_i e he
    rcases fetchManifest_cases w t source s he with ⟨x, hfetch⟩ | ⟨body, hfetched, hfetch⟩
    · rw [hfetch]
      exact .refused he
    · rw [hfetch]
      dsimp only
      split
      · exact .refused he
      · rename_i o hauth
        -- From here on the signatures have been counted, so every end carries the offer.
        have hoffers := offers_of_authenticate w t source hfetched hauth
        rcases decideOn_cases t f o e s with
          ⟨hwanted, hdecide⟩ | ⟨hforce, hdraw, hdecide⟩ | ⟨hchosen, hdecide⟩
        · rw [hdecide]
          exact .upToDate hoffers hwanted
        · rw [hdecide]
          exact .deferred hoffers hforce hdraw
        · rw [hdecide]
          exact .pursued hoffers hchosen (takeOffer_pursuit w t source o (decided t e s))

end

/-! ## The effects of a course -/

@[simp] theorem Progress.history_after (s : Progress) (e : Effect) :
    (s.after e).history = s.history ++ [e] := rfl

@[simp] theorem history_decided (t : Task) (e : Endpoint) (s : Progress) :
    (decided t e s).history = s.history ++ [.fetch e] := by
  unfold decided
  split <;> rfl

@[simp] theorem history_delivered (e : Endpoint) (file : ImageFile) (s : Progress) :
    (delivered e file s).history = s.history ++ [.scripts .download, .fetch e] := by
  simp [delivered]

@[simp] theorem history_discard (w : World) (s : Progress) :
    (discard w s).history = s.history ++ [.scripts .abort] := rfl

/-- Whether an effect runs something on the node itself. -/
def Effect.touchesNode : Effect → Bool
  | .scripts _ => true
  | .install _ => true
  | .fetch _ => false
  | .ask _ => false

section
variable {w : World} {t : Task} {f : Fortune} {source : Source} {o : Manifest.Offer} {s after : Progress}
  {result : Except AttemptError Outcome}

theorem Pursuit.exists_effects (h : Pursuit w t source o s result after) :
    ∃ effects, after.history = s.history ++ effects ∧ ∀ q, Effect.ask q ∉ effects := by
  cases h with
  | noEndpoint => exact ⟨[], by simp, by simp⟩
  | unopened => exact ⟨[.scripts .download, .scripts .abort], by simp, by simp⟩
  | @dropped e => exact ⟨[.scripts .download, .fetch e, .scripts .abort], by simp, by simp⟩
  | @simulated e => exact ⟨[.scripts .download, .fetch e, .scripts .abort], by simp, by simp⟩
  | @notInstalled e file =>
    exact ⟨[.scripts .download, .fetch e, .scripts .upgrade, .install (.file file), .scripts .abort],
      by simp, by simp⟩

/-- An attempt adds to the history, and never asks anything. -/
theorem Course.exists_effects (h : Course w t f source s result after) :
    ∃ effects, after.history = s.history ++ effects ∧ ∀ q, Effect.ask q ∉ effects := by
  cases h with
  | noEndpoint => exact ⟨[], by simp, by simp⟩
  | @refused e => exact ⟨[.fetch e], by simp, by simp⟩
  | @upToDate e => exact ⟨[.fetch e], by simp, by simp⟩
  | @deferred e => exact ⟨[.fetch e], by simp, by simp⟩
  | @pursued e _ _ _ _ _ _ hp =>
    obtain ⟨effects, hafter, hasks⟩ := hp.exists_effects
    refine ⟨.fetch e :: effects, ?_, ?_⟩
    · rw [hafter, history_decided, List.append_assoc, List.singleton_append]
    · intro q hq
      rcases List.mem_cons.mp hq with hq | hq
      · cases hq
      · exact hasks q hq

/-- An attempt that ends the run, or runs something on the node, has believed an offer. -/
theorem Course.exists_offers (h : Course w t f source s result after)
    (hends : (∀ x, result ≠ .error (.source x)) ∨
      ∃ e ∈ after.history.drop s.history.length, e.touchesNode = true) :
    ∃ e body o, Offers w t source s e body o := by
  have hdrop (effects : History) : (s.history ++ effects).drop s.history.length = effects :=
    List.drop_left
  -- Before an offer there are only source errors, and a fetch is the only effect.
  cases h with
  | noEndpoint =>
    rcases hends with hresult | ⟨e, he, -⟩
    · exact absurd rfl (hresult _)
    · simp at he
  | refused =>
    rcases hends with hresult | ⟨e, he, htouches⟩
    · exact absurd rfl (hresult _)
    · rw [Progress.history_after, hdrop, List.mem_singleton] at he
      rw [he] at htouches
      cases htouches
  | upToDate ho => exact ⟨_, _, _, ho⟩
  | deferred ho => exact ⟨_, _, _, ho⟩
  | pursued ho => exact ⟨_, _, _, ho⟩

end

end MeshFirmware.Updater
