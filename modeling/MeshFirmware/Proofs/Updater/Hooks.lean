import MeshFirmware.Proofs.Updater.Installation

/-!
# Hooks and the place of the image

The scripts before a download stop services of the node, and those of an abort start them again. Wherever an
attempt fails, it runs the latter once if it has run the former, and it leaves no image behind that is not to stay
(`hooks_balanced`). What an attempt can do is listed by its effects (`Trail`). What it leaves at the place of the
image depends on whether it has opened a file there (`Opened`), and this goes through whole runs, whose attempts
share that place (`run_clears`).
-/

namespace MeshFirmware.Updater

/-- A world in which an installation that comes back leaves a regular file or nothing, and in which a regular file
can be removed. -/
structure World.Tidy (w : World) : Prop where
  installs : ∀ h place, (w.install h place).2 = .absent ∨
    ∃ content, (w.install h place).2 = .file (.regular content)
  removes : ∀ h content, (w.storage h).remove (.file (.regular content)) = .absent

/-- Whether a download waits for its abort after an effect, if the effect comes in turn: a download when none waits,
and an abort when one does. -/
def Effect.waits? (waits : Bool) : Effect → Option Bool
  | .scripts .download => if waits then none else some true
  | .scripts .abort => if waits then some false else none
  | _ => some waits

/-- Each download is followed by exactly one abort, before the next download and before the end, and there is no
other abort. -/
def Balanced (h : History) : Prop := h.foldlM Effect.waits? false = some false

instance (h : History) : Decidable (Balanced h) := inferInstanceAs (Decidable (_ = _))

/-- The effects of an attempt at a source. -/
inductive Trail (w : World) (t : Task) (source : Source) (s : Progress) : History → Prop where
  | nothing {p : Source.Problem} (h : source.manifestEndpoint t.settings.branch = .error p) : Trail w t source s []
  | manifest {e : Endpoint} (he : source.manifestEndpoint t.settings.branch = .ok e) :
    Trail w t source s [.fetch e]
  /-- The file for the image cannot be opened. -/
  | unopened {e : Endpoint} {cause : OsError} (he : source.manifestEndpoint t.settings.branch = .ok e)
    (h : (w.storage (s.history ++ [.fetch e, .scripts .download])).openFile s.place = .error cause) :
    Trail w t source s [.fetch e, .scripts .download, .scripts .abort]
  | fetched {e e' : Endpoint} {file : String} {start : ImageFile}
    (he : source.manifestEndpoint t.settings.branch = .ok e)
    (h : (w.storage (s.history ++ [.fetch e, .scripts .download])).openFile s.place = .ok start)
    (he' : source.endpoint t.settings.branch file = .ok e') :
    Trail w t source s [.fetch e, .scripts .download, .fetch e', .scripts .abort]
  | installed {e e' : Endpoint} {file : String} {start : ImageFile} {place : ImagePlace}
    (he : source.manifestEndpoint t.settings.branch = .ok e)
    (h : (w.storage (s.history ++ [.fetch e, .scripts .download])).openFile s.place = .ok start)
    (he' : source.endpoint t.settings.branch file = .ok e') :
    Trail w t source s [.fetch e, .scripts .download, .fetch e', .scripts .upgrade, .install place, .scripts .abort]

/-- An attempt with these effects has come as far as opening the file for the image, and has opened it. -/
def Opened (w : World) (s : Progress) (effects : History) : Prop :=
  ∃ e file, [.fetch e, .scripts .download] <+: effects ∧
    (w.storage (s.history ++ [.fetch e, .scripts .download])).openFile s.place = .ok file

/-- A visit has opened the file for the image. -/
def Visit.Opened (w : World) (v : Visit Progress) : Prop := Updater.Opened w v.before v.effects

/-! ## Balance -/

theorem Balanced.append {h h' : History} (hb : Balanced h) (hb' : Balanced h') : Balanced (h ++ h') := by
  unfold Balanced at *
  rw [List.foldlM_append, hb]
  exact hb'

theorem Balanced.flatMap {vs : List (Visit Progress)} (h : ∀ v ∈ vs, Balanced v.effects) :
    Balanced (vs.flatMap Visit.effects) := by
  induction vs with
  | nil => rfl
  | cons v vs ih =>
    rw [List.forall_mem_cons] at h
    rw [List.flatMap_cons]
    exact h.1.append (ih h.2)

theorem balanced_questions (questions : List Discovery.Query) : Balanced (questions.map .ask) := by
  induction questions with
  | nil => rfl
  | cons q questions ih => exact ih

section
variable {w : World} {t : Task} {f : Fortune} {source : Source} {s after : Progress}
  {result : Except AttemptError Outcome}

theorem Trail.balanced {effects : History} (h : Trail w t source s effects) : Balanced effects := by
  cases h <;> rfl

/-! ## One attempt -/

@[simp] theorem place_decided (t : Task) (e : Endpoint) (s : Progress) : (decided t e s).place = s.place := by
  unfold decided
  split <;> rfl

theorem not_opened_of_short {effects : History} (h : effects.length < 2) : ¬ Opened w s effects := by
  rintro ⟨e, file, hstart, -⟩
  have hlen := hstart.length_le
  simp only [List.length_cons, List.length_nil] at hlen
  omega

/-- Whatever file it is, nothing is left of it. -/
theorem World.Tidy.remove_file (hw : w.Tidy) (h : History) (file : ImageFile) :
    (w.storage h).remove (.file file) = .absent := by
  have hregular := hw.removes h []
  unfold Storage.remove at *
  split at hregular
  · rename_i hremoving
    rw [if_pos hremoving]
    rfl
  · cases hregular

theorem World.Tidy.remove_installed (hw : w.Tidy) (h h' : History) (place : ImagePlace) :
    (w.storage h).remove (w.install h' place).2 = .absent := by
  rcases hw.installs h' place with habsent | ⟨content, hregular⟩
  · rw [habsent]
    unfold Storage.remove
    split <;> rfl
  · rw [hregular]
    exact hw.removes h content

/-- What is left at the place of the image by an attempt that does not end in a simulation. -/
def Settled (w : World) (s : Progress) (effects : History) (place : ImagePlace) : Prop :=
  (Opened w s effects ∧ place = .absent) ∨ (¬ Opened w s effects ∧ place = s.place)

/-- The effects of an offer that is pursued, and what is left at the place of the image. -/
theorem Pursuit.trail {o : Manifest.Offer} {e : Endpoint} (he : source.manifestEndpoint t.settings.branch = .ok e)
    (h : Pursuit w t source o (decided t e s) result after) :
    ∃ effects, after.history = s.history ++ effects ∧ Trail w t source s effects ∧
      (w.Tidy → result ≠ .ok .simulated → Settled w s effects after.place) := by
  have hhistory : ((decided t e s).after (.scripts .download)).history =
      s.history ++ [.fetch e, .scripts .download] := by
    simp
  have hopened {start : ImageFile} (rest : History)
      (hopen : (w.storage (s.history ++ [.fetch e, .scripts .download])).openFile s.place = .ok start) :
      Opened w s (.fetch e :: .scripts .download :: rest) :=
    ⟨e, start, ⟨rest, rfl⟩, hopen⟩
  cases h with
  | noEndpoint =>
    refine ⟨[.fetch e], history_decided t e s, .manifest he, ?_⟩
    intro _ _
    exact .inr ⟨not_opened_of_short (by simp), place_decided t e s⟩
  | unopened he' hopen =>
    rw [hhistory, place_decided] at hopen
    refine ⟨[.fetch e, .scripts .download, .scripts .abort], by simp, .unopened he hopen, ?_⟩
    intro _ _
    refine .inr ⟨?_, place_decided t e s⟩
    rintro ⟨e₁, start, hstart, hopen'⟩
    obtain ⟨he₁, -⟩ := List.cons_prefix_cons.mp hstart
    obtain rfl := Effect.fetch.inj he₁
    rw [hopen] at hopen'
    cases hopen'
  | @dropped e' x start file he' hopen =>
    rw [hhistory, place_decided] at hopen
    refine ⟨[.fetch e, .scripts .download, .fetch e', .scripts .abort], by simp, .fetched he hopen he', ?_⟩
    intro hw _
    exact .inl ⟨hopened _ hopen, hw.remove_file _ file⟩
  | @simulated e' file image hs =>
    obtain ⟨start, hopen⟩ := hs.opened
    rw [hhistory, place_decided] at hopen
    refine ⟨[.fetch e, .scripts .download, .fetch e', .scripts .abort], by simp,
      .fetched he hopen hs.endpoint, ?_⟩
    intro _ hsimulated
    exact absurd rfl hsimulated
  | @notInstalled e' file image cause place hs _ hinstall =>
    obtain ⟨start, hopen⟩ := hs.opened
    rw [hhistory, place_decided] at hopen
    refine ⟨[.fetch e, .scripts .download, .fetch e', .scripts .upgrade, .install (.file file), .scripts .abort],
      by simp, .installed he hopen hs.endpoint, ?_⟩
    intro hw _
    refine .inl ⟨hopened _ hopen, ?_⟩
    obtain rfl : (w.install _ _).2 = place := congrArg Prod.snd hinstall
    exact hw.remove_installed _ _ _

/-- The effects of an attempt, and what is left at the place of the image. -/
theorem Course.trail (h : Course w t f source s result after) :
    ∃ effects, after.history = s.history ++ effects ∧ Trail w t source s effects ∧
      (w.Tidy → result ≠ .ok .simulated → Settled w s effects after.place) := by
  have hquiet {effects : History} {place : ImagePlace} (hshort : effects.length < 2) (hplace : place = s.place) :
      w.Tidy → result ≠ .ok .simulated → Settled w s effects place :=
    fun _ _ => .inr ⟨not_opened_of_short hshort, hplace⟩
  cases h with
  | noEndpoint h => exact ⟨[], by simp, .nothing h, hquiet (by simp) rfl⟩
  | @refused e _ he => exact ⟨[.fetch e], rfl, .manifest he, hquiet (by simp) rfl⟩
  | @upToDate e _ _ ho => exact ⟨[.fetch e], rfl, .manifest ho.endpoint, hquiet (by simp) rfl⟩
  | @deferred e _ _ ho =>
    exact ⟨[.fetch e], history_decided t e s, .manifest ho.endpoint, hquiet (by simp) (place_decided t e s)⟩
  | pursued ho _ hp => exact hp.trail ho.endpoint

/-- An attempt that ends in a simulation leaves the image that it has checked in the file that it has opened. -/
structure Kept (w : World) (t : Task) (source : Source) (s : Progress) (effects : History) (place : ImagePlace)
    (e e' : Endpoint) (body image : Bytes) (o : Manifest.Offer) (file : ImageFile) : Prop where
  offers : Offers w t source s e body o
  stored : Stored w t source o (decided t e s) e' file image
  opened : Updater.Opened w s effects
  in_place : place = .file file

theorem Course.kept (h : Course w t f source s result after) (hr : result = .ok .simulated) {effects : History}
    (heffects : after.history = s.history ++ effects) :
    ∃ e e' body image o file, Kept w t source s effects after.place e e' body image o file := by
  cases h with
  | noEndpoint => cases hr
  | refused => cases hr
  | upToDate => cases hr
  | deferred => cases hr
  | @pursued e body o _ _ ho _ hp =>
    cases hp with
    | noEndpoint => cases hr
    | unopened => cases hr
    | dropped => cases hr
    | notInstalled => cases hr
    | @simulated e' file image hs =>
      refine ⟨e, e', body, image, o, file, ho, hs, ?_, rfl⟩
      obtain ⟨start, hopen⟩ := hs.opened
      have heq : s.history ++ [.fetch e, .scripts .download, .fetch e', .scripts .abort] =
          s.history ++ effects := by
        rw [← heffects]
        simp
      rw [← List.append_cancel_left heq]
      refine ⟨e, start, ⟨[.fetch e', .scripts .abort], rfl⟩, ?_⟩
      simpa using hopen

/-! ## One visit -/

theorem Visit.trail {v : Visit Progress} (h : trySource w t f v.source v.before = (v.verdict, v.after)) :
    Trail w t v.source v.before v.effects ∧
      (w.Tidy → (attempt w t f v.source v.before).1 ≠ .ok .simulated →
        Settled w v.before v.effects v.after.place) := by
  obtain ⟨hafter, hgrown⟩ := Visit.effects_eq h
  obtain ⟨effects, hhistory, htrail, hsettled⟩ := (attempt_course w t f v.source v.before).trail
  rw [← hafter] at hhistory hsettled
  have heffects : effects = v.effects := List.append_cancel_left (hhistory.symm.trans hgrown)
  rw [heffects] at htrail hsettled
  exact ⟨htrail, hsettled⟩

theorem Visit.attempt_ne_simulated {v : Visit Progress}
    (h : trySource w t f v.source v.before = (v.verdict, v.after)) (hv : v.verdict ≠ some (.ok .simulated)) :
    (attempt w t f v.source v.before).1 ≠ .ok .simulated := by
  intro hr
  apply hv
  unfold trySource at h
  split at h
  · rename_i outcome s hattempt
    rw [hattempt] at hr
    obtain rfl := Except.ok.inj hr
    exact (congrArg Prod.fst h).symm
  · rename_i hattempt
    rw [hattempt] at hr
    cases hr
  · rename_i hattempt
    rw [hattempt] at hr
    cases hr

/-! ## A whole run -/

/-- What becomes of the place of the image over visits: nothing is left there if one of them has opened the file,
and otherwise it is as before. -/
def Clears (w : World) (vs : List (Visit Progress)) (place place' : ImagePlace) : Prop :=
  ((∃ v ∈ vs, v.Opened w) ∧ place' = .absent) ∨ ((∀ v ∈ vs, ¬ v.Opened w) ∧ place' = place)

theorem Clears.append {vs vs' : List (Visit Progress)} {p p' p'' : ImagePlace} (h : Clears w vs p p')
    (h' : Clears w vs' p' p'') : Clears w (vs ++ vs') p p'' := by
  rcases h' with ⟨⟨v, hv, hopened⟩, rfl⟩ | ⟨hnone', rfl⟩
  · exact .inl ⟨⟨v, List.mem_append_right _ hv, hopened⟩, rfl⟩
  · rcases h with ⟨⟨v, hv, hopened⟩, rfl⟩ | ⟨hnone, rfl⟩
    · exact .inl ⟨⟨v, List.mem_append_left _ hv, hopened⟩, rfl⟩
    · exact .inr ⟨List.forall_mem_append.mpr ⟨hnone, hnone'⟩, rfl⟩

theorem Visit.clears (hw : w.Tidy) {v : Visit Progress}
    (h : trySource w t f v.source v.before = (v.verdict, v.after)) (hv : v.verdict ≠ some (.ok .simulated)) :
    Clears w [v] v.before.place v.after.place := by
  rcases (Visit.trail h).2 hw (Visit.attempt_ne_simulated h hv) with ⟨hopened, hplace⟩ | ⟨hnot, hplace⟩
  · exact .inl ⟨⟨v, List.mem_singleton_self v, hopened⟩, hplace⟩
  · exact .inr ⟨List.forall_mem_singleton.mpr hnot, hplace⟩

/-- A path that does not end in a simulation leaves no image that it has put there. -/
theorem Path.clears (hw : w.Tidy) {move : Progress → Progress → Prop}
    (hmove : ∀ s s', move s s' → s'.place = s.place) {s s' : Progress} {vs : List (Visit Progress)} {v : Verdict}
    (h : Path (trySource w t f) move s vs v s') (hv : v ≠ some (.ok .simulated)) :
    Clears w vs s.place s'.place := by
  induction h with
  | done => exact .inr ⟨List.forall_mem_nil _, rfl⟩
  | @ended s s₁ s₂ source x hm ht =>
    rw [← hmove _ _ hm]
    exact Visit.clears (v := ⟨source, s₁, some x, s₂⟩) hw ht hv
  | @failed s s₁ s₂ s₃ source vs v hm ht _ ih =>
    rw [← hmove _ _ hm]
    exact (Visit.clears (v := ⟨source, s₁, none, s₂⟩) hw ht (by simp)).append (ih hv)

theorem place_of_moves {s s' : Progress} (h : (chooseMirror t.settings f).Moves s s') : s'.place = s.place := by
  obtain ⟨others, rfl⟩ := h
  unfold chooseMirror
  split <;> rfl

theorem run_clears (hw : w.Tidy) (hr : (run w t f s).1 ≠ .ok .simulated) :
    Clears w (visits w t f s) s.place (run w t f s).2.place := by
  obtain ⟨picks, mirrors, others, hvisits, htour⟩ := run_tour w t f s
  rw [hvisits]
  generalize run w t f s = r at htour hr ⊢
  obtain ⟨result, after⟩ := r
  cases htour with
  | amongMirrors hmirrors =>
    rw [List.append_nil]
    exact hmirrors.clears hw (fun _ _ => place_of_moves) fun h => hr (Option.some.inj h)
  | @beyondMirrors _ _ v s₁ _ hmirrors _ _ _ hothers =>
    have hv : v ≠ some (.ok .simulated) := by
      rintro rfl
      exact hr rfl
    have hfound : (findSources w t s₁).2.place = s₁.place := by
      rw [findSources_eq]
    have hlater := hothers.clears hw (fun _ _ h => congrArg Progress.place h.symm) hv
    rw [hfound] at hlater
    exact (hmirrors.clears hw (fun _ _ => place_of_moves) (by simp)).append hlater

/-- The last visit of a run that has a result gives the result and the end of the run. -/
theorem exists_last {r : Except RunError Outcome} (hr : (run w t f s).1 = r) (hsource : r ≠ .error .noSource) :
    ∃ front v, visits w t f s = front ++ [v] ∧ v.Ended w t f r ∧ v.after = (run w t f s).2 := by
  obtain ⟨picks, mirrors, others, hvisits, htour⟩ := run_tour w t f s
  generalize run w t f s = r' at htour hr ⊢
  obtain ⟨result, after⟩ := r'
  obtain rfl : result = r := hr
  have hlast {move : Progress → Progress → Prop} {before vs : List (Visit Progress)} {s₁ : Progress}
      (h : Path (trySource w t f) move s₁ vs (some result) after) (heq : visits w t f s = before ++ vs) :
      ∃ front v, visits w t f s = front ++ [v] ∧ v.Ended w t f result ∧ v.after = after := by
    obtain ⟨front, v, rfl, -, hended⟩ := h.ended_last
    exact ⟨before ++ front, v, by rw [heq, List.append_assoc], hended, h.after_of_getLast? List.getLast?_concat⟩
  cases htour with
  | amongMirrors hmirrors => exact hlast hmirrors (by rw [hvisits, List.append_nil, List.nil_append])
  | @beyondMirrors _ _ v _ _ _ _ _ _ hothers =>
    cases v with
    | none => exact absurd rfl hsource
    | some x => exact hlast hothers hvisits

end

/-- What a run does to the node: its visits go their ways one after the other, each download has its abort, and
what lies at the place of the image after it. -/
structure Tidied (w : World) (t : Task) (f : Fortune) (s : Progress) : Prop where
  follow : ∃ mirrors others, ∃ questions : List Discovery.Query, visits w t f s = mirrors ++ others ∧
    (run w t f s).2.history = s.history ++
      (mirrors.flatMap Visit.effects ++ (questions.map .ask ++ others.flatMap Visit.effects))
  trails : ∀ v ∈ visits w t f s, v.after = (attempt w t f v.source v.before).2 ∧
    v.after.history = v.before.history ++ v.effects ∧ Trail w t v.source v.before v.effects ∧ Balanced v.effects
  balanced : ∃ effects, (run w t f s).2.history = s.history ++ effects ∧ Balanced effects
  untouched : (∀ v ∈ visits w t f s, ¬ v.Opened w) → (run w t f s).2.place = s.place
  simulated : (run w t f s).1 = .ok .simulated → ∃ front v e e' body image o file,
    visits w t f s = front ++ [v] ∧
      Kept w t v.source v.before v.effects (run w t f s).2.place e e' body image o file
  cleared : (∃ v ∈ visits w t f s, v.Opened w) → (run w t f s).1 ≠ .ok .simulated →
    (run w t f s).2.place = .absent

section
variable {w : World} {t : Task} {f : Fortune} {s : Progress}

theorem run_kept (hr : (run w t f s).1 = .ok .simulated) :
    ∃ front v e e' body image o file, visits w t f s = front ++ [v] ∧
      Kept w t v.source v.before v.effects (run w t f s).2.place e e' body image o file := by
  obtain ⟨front, v, hvisits, hended, hafter⟩ := exists_last hr (by simp)
  have hv : v ∈ visits w t f s := by
    rw [hvisits]
    simp
  obtain ⟨hattempt, hgrown⟩ := Visit.effects_eq (trySource_of_mem_visits hv)
  have hresult : (attempt w t f v.source v.before).1 = .ok .simulated := by
    rcases hended with ⟨outcome, ho, hsame⟩ | ⟨cause, -, hsame⟩
    · rw [ho, ← Except.ok.inj hsame]
    · cases hsame
  have hcourse := attempt_course w t f v.source v.before
  rw [← hattempt] at hcourse
  obtain ⟨e, e', body, image, o, file, hkept⟩ := hcourse.kept hresult hgrown
  rw [hafter] at hkept
  exact ⟨front, v, e, e', body, image, o, file, hvisits, hkept⟩

theorem run_balanced (w : World) (t : Task) (f : Fortune) (s : Progress) :
    ∃ effects, (run w t f s).2.history = s.history ++ effects ∧ Balanced effects := by
  obtain ⟨mirrors, others, questions, hvisits, hhistory⟩ := run_history w t f s
  have hbalanced : ∀ v ∈ mirrors ++ others, Balanced v.effects := by
    intro v hv
    rw [← hvisits] at hv
    exact (Visit.trail (trySource_of_mem_visits hv)).1.balanced
  obtain ⟨hmirrors, hothers⟩ := List.forall_mem_append.mp hbalanced
  refine ⟨_, hhistory, ?_⟩
  exact (Balanced.flatMap hmirrors).append ((balanced_questions questions).append (Balanced.flatMap hothers))

end

/-- The effects of an attempt are those of one of five ways, and on each of them a download has exactly one abort. A
run puts such ways together. If it has opened no file for the image, it leaves the place of the image as it was. A
simulation leaves exactly the image that it has checked, and every other run that has opened a file leaves none. -/
theorem hooks_balanced {w : World} (hw : w.Tidy) (t : Task) (f : Fortune) :
    (∀ source s, ∃ effects, (attempt w t f source s).2.history = s.history ++ effects ∧
      Trail w t source s effects ∧ Balanced effects) ∧
    ∀ s, Tidied w t f s := by
  constructor
  · intro source s
    obtain ⟨effects, hhistory, htrail, -⟩ := (attempt_course w t f source s).trail
    exact ⟨effects, hhistory, htrail, htrail.balanced⟩
  · intro s
    constructor
    case follow => exact run_history w t f s
    case trails =>
      intro v hv
      have htrial := trySource_of_mem_visits hv
      obtain ⟨hafter, hgrown⟩ := Visit.effects_eq htrial
      have htrail := (Visit.trail htrial).1
      exact ⟨hafter, hgrown, htrail, htrail.balanced⟩
    case balanced => exact run_balanced w t f s
    case untouched =>
      intro hnone
      by_cases hr : (run w t f s).1 = .ok .simulated
      · -- A simulation has opened the file in its last visit.
        obtain ⟨front, v, e, e', body, image, o, file, hvisits, hkept⟩ := run_kept hr
        refine absurd hkept.opened (hnone v ?_)
        rw [hvisits]
        simp
      · rcases run_clears hw hr with ⟨⟨v, hv, hopened⟩, -⟩ | ⟨-, hplace⟩
        · exact absurd hopened (hnone v hv)
        · exact hplace
    case simulated => exact run_kept
    case cleared =>
      rintro ⟨v, hv, hopened⟩ hr
      rcases run_clears hw hr with ⟨-, hplace⟩ | ⟨hnone, -⟩
      · exact hplace
      · exact absurd hopened (hnone v hv)

/-- The task of the small node that is to stop short of the installation. -/
def simulatedTask : Task :=
  { smallTask "1" 0 with settings := { (smallTask "1" 0).settings with noAction := true } }

/-- In the small world an old file lies at the place of the image. A simulation leaves the image of the mirror there,
and a run whose installation comes back leaves nothing. -/
theorem hooks_balanced_in_small_world :
    let s : Progress := { place := .file (.regular [1]) }
    smallWorld.Tidy ∧ (run smallWorld simulatedTask smallFortune s).1 = .ok .simulated ∧
      (∃ v ∈ visits smallWorld simulatedTask smallFortune s, ∃ e e' body image o file,
        Kept smallWorld simulatedTask v.source v.before v.effects
          (run smallWorld simulatedTask smallFortune s).2.place e e' body image o file) ∧
      (run smallWorld (smallTask "1" 0) smallFortune s).1 = .error .noSource ∧
      (∃ v ∈ visits smallWorld (smallTask "1" 0) smallFortune s, v.Opened smallWorld) ∧
      (run smallWorld (smallTask "1" 0) smallFortune s).2.place = .absent := by
  intro s
  have hw : smallWorld.Tidy := ⟨fun _ _ => .inl rfl, fun _ _ => rfl⟩
  have hkeeps := (hooks_balanced hw simulatedTask smallFortune).2 s
  have hclears := (hooks_balanced hw (smallTask "1" 0) smallFortune).2 s
  have hsimulated : (run smallWorld simulatedTask smallFortune s).1 = .ok .simulated := by decide +kernel
  have hfailed : (run smallWorld (smallTask "1" 0) smallFortune s).1 = .error .noSource := by decide +kernel
  have hmoved : (run smallWorld (smallTask "1" 0) smallFortune s).2.place ≠ s.place := by decide +kernel
  have hopened : ∃ v ∈ visits smallWorld (smallTask "1" 0) smallFortune s, v.Opened smallWorld := by
    by_contra hnone
    exact hmoved (hclears.untouched fun v hv hv' => hnone ⟨v, hv, hv'⟩)
  refine ⟨hw, hsimulated, ?_, hfailed, hopened, hclears.cleared hopened ?_⟩
  · obtain ⟨front, v, e, e', body, image, o, file, hvisits, hkept⟩ := hkeeps.simulated hsimulated
    refine ⟨v, ?_, e, e', body, image, o, file, hkept⟩
    rw [hvisits]
    simp
  · rw [hfailed]
    simp

end MeshFirmware.Updater
