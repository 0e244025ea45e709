import MeshFirmware.Proofs.Updater.Installation

/-!
# Forced runs

A forced run takes an offer that is wanted without a look at the clock and without a draw (`decideOn_forced`), so an
attempt in it is the same under any fortune and makes no random choice (`attempt_congr`, `choices_trySource`). What chance
is left to it is the order of the mirrors: the picks that the run makes are the first among all its mirrors, then one
among the mirrors but one, and so on (`Fortune.PicksAlike`). Two forced runs with the same picks are the same run.
-/

namespace MeshFirmware.Updater

/-! ## Two ways that choose alike -/

section
variable {σ : Type} {trial : Trial σ} {choose choose' : Choice σ}

/-- Two ways of choosing agree where a run goes: a relation between the number of mirrors that are left and the state
makes the choices the same, and a mirror that fails keeps it. -/
structure ChooseAlike (trial : Trial σ) (choose choose' : Choice σ) (alike : Nat → σ → Prop) : Prop where
  choice : ∀ {others s}, alike (others + 1) s → choose others s = choose' others s
  failed : ∀ {others s s' source}, alike (others + 1) s → trial source (choose others s).2 = (none, s') → alike others s'

theorem tryMirrors_congr {alike : Nat → σ → Prop} (hsame : ChooseAlike trial choose choose' alike) {s : σ}
    {left : List String} (h : alike left.length s) :
    tryMirrors trial choose s left = tryMirrors trial choose' s left := by
  -- On the number of mirrors that are left, as a choice does not leave a tail of the list.
  induction hn : left.length generalizing s left with
  | zero =>
    obtain rfl := List.length_eq_zero_iff.mp hn
    rw [tryMirrors_nil, tryMirrors_nil]
  | succ n ih =>
    cases left with
    | nil => cases hn
    | cons m rest =>
      obtain ⟨⟨k, s₁⟩, hk⟩ : ∃ c, choose rest.length s = c := ⟨_, rfl⟩
      have hk' : choose' rest.length s = (k, s₁) := by rw [← hsame.choice h, hk]
      cases htrial : trial (.mirror (m :: rest)[k]) s₁ with
      | mk v s₂ =>
        cases v with
        | some x => rw [tryMirrors_ended hk rfl htrial, tryMirrors_ended hk' rfl htrial]
        | none =>
          rw [tryMirrors_failed hk rfl htrial, tryMirrors_failed hk' rfl htrial]
          have hlength : ((m :: rest).eraseIdx k).length = rest.length := by
            rw [List.length_eraseIdx_of_lt k.isLt, List.length_cons, Nat.add_sub_cancel]
          have hleft : alike rest.length s₂ := hsame.failed h (by rw [hk, htrial])
          refine ih ?_ ?_
          · rwa [hlength]
          · rw [hlength]
            exact Nat.succ.inj hn

theorem tryAll_congr {alike : Nat → σ → Prop} (hsame : ChooseAlike trial choose choose' alike) (find : Finder σ) {s : σ}
    {mirrors : List String} (h : alike mirrors.length s) :
    tryAll trial choose find s mirrors = tryAll trial choose' find s mirrors := by
  unfold tryAll
  rw [tryMirrors_congr hsame h]

/-- Ways that agree also agree when their visits are noted. -/
theorem ChooseAlike.noted {alike : Nat → σ → Prop} (hsame : ChooseAlike trial choose choose' alike) :
    ChooseAlike (noting trial) (keepingChoice choose) (keepingChoice choose') fun n s => alike n s.1 where
  choice h := by simp only [keepingChoice, hsame.choice h]
  failed {others s s' source} h htrial := by
    have hverdict : (noting trial source (keepingChoice choose others s).2).1 = none := by rw [htrial]
    have hafter : (noting trial source (keepingChoice choose others s).2).2.1 = s'.1 := by rw [htrial]
    exact hsame.failed h (Prod.ext hverdict hafter)

end

/-! ## Attempts -/

section
variable {w : World} {t : Task} {f f' : Fortune} {source : Source} {s : Progress}

/-- In a forced run it is the version that decides. -/
theorem decideOn_forced (hforce : t.settings.force = true) (f : Fortune) (o : Manifest.Offer) (s : Progress) :
    decideOn t f o s = (if isWanted t.settings o.image.version then none else some .upToDate, s) := by
  unfold decideOn
  cases isWanted t.settings o.image.version <;> simp [hforce]

theorem attempt_congr (hforce : t.settings.force = true) (f f' : Fortune) : attempt w t f = attempt w t f' := by
  funext source s
  simp only [attempt, decideOn_forced hforce]

theorem trySource_congr (hforce : t.settings.force = true) (f f' : Fortune) : trySource w t f = trySource w t f' := by
  funext source s
  simp only [trySource, attempt_congr hforce f f']

theorem choices_decided (hforce : t.settings.force = true) (e : Endpoint) (s : Progress) :
    (decided t e s).choices = s.choices := by
  rw [decided, if_pos hforce]
  rfl

theorem Pursuit.choices_eq {o : Manifest.Offer} {result : Except AttemptError Outcome} {after : Progress}
    (h : Pursuit w t source o s result after) : after.choices = s.choices := by
  cases h <;> rfl

theorem Course.choices_eq {result : Except AttemptError Outcome} {after : Progress}
    (h : Course w t f source s result after) (hforce : t.settings.force = true) : after.choices = s.choices := by
  cases h with
  | noEndpoint => rfl
  | refused => rfl
  | upToDate => rfl
  | deferred => exact choices_decided hforce _ s
  | pursued _ _ hpursuit => rw [hpursuit.choices_eq, choices_decided hforce]

/-- A source that is tried in a forced run costs no random choice. -/
theorem choices_trySource (hforce : t.settings.force = true) (f : Fortune) (source : Source) (s : Progress) :
    (trySource w t f source s).2.choices = s.choices := by
  rw [snd_trySource]
  exact (attempt_course w t f source s).choices_eq hforce

/-! ## Mirrors -/

/-- Two fortunes make the same picks of mirrors, after so many random choices and with so many mirrors left: the first
among all of them, and each other one among one mirror less. -/
def Fortune.PicksAlike (f f' : Fortune) (choices mirrors : Nat) : Prop :=
  ∀ k others, k + others + 1 = mirrors → f.pick (choices + k) others = f'.pick (choices + k) others

theorem Fortune.PicksAlike.succ {choices others : Nat} (h : f.PicksAlike f' choices (others + 1)) :
    f.PicksAlike f' (choices + 1) others := by
  intro k rest hk
  rw [Nat.add_assoc, Nat.add_comm 1 k]
  exact h (k + 1) rest (by omega)

/-- Mirrors are chosen alike if their order is fixed, or else if the picks are the same. -/
theorem chooseAlike_of_forced (hforce : t.settings.force = true) (f f' : Fortune) :
    ChooseAlike (trySource w t f) (chooseMirror t.settings f) (chooseMirror t.settings f') fun n s =>
      t.settings.mirrorsInOrder = true ∨ f.PicksAlike f' s.choices n where
  choice {others s} h := by
    unfold chooseMirror
    rcases h with hinorder | hpicks
    · rw [if_pos hinorder, if_pos hinorder]
    · rw [show f.pick s.choices others = f'.pick s.choices others from hpicks 0 others (by omega)]
  failed {others s s' source} h htrial := by
    rcases h with hinorder | hpicks
    · exact .inl hinorder
    · by_cases hinorder : t.settings.mirrorsInOrder = true
      · exact .inl hinorder
      · right
        have hchoices : s'.choices = s.choices + 1 := by
          calc s'.choices
              = (trySource w t f source (chooseMirror t.settings f others s).2).2.choices := by rw [htrial]
            _ = (chooseMirror t.settings f others s).2.choices := choices_trySource hforce f _ _
            _ = s.choices + 1 := by rw [chooseMirror, if_neg hinorder]
        rw [hchoices]
        exact hpicks.succ

end

/-! ## Whole runs -/

/-- A forced run pays no heed to time, nor to chance beyond the picks of its mirrors: whatever the clock, the uptime and
the draws of two fortunes, its result, its history, its image and its visits are the same under both, if the mirrors are
tried in their order or the picks are the same. -/
theorem forced_run_eq {w : World} {t : Task} (hforce : t.settings.force = true) {f f' : Fortune} {s : Progress}
    (hpicks : t.settings.mirrorsInOrder = true ∨ f.PicksAlike f' s.choices t.settings.mirrors.length) :
    run w t f s = run w t f' s ∧ visits w t f s = visits w t f' s := by
  have hsame := chooseAlike_of_forced (w := w) hforce f f'
  constructor
  · unfold run
    rw [← trySource_congr hforce f f', tryAll_congr hsame _ hpicks]
  · unfold visits
    rw [← trySource_congr hforce f f', tryAll_congr hsame.noted _ hpicks]

/-- The task of a node with two mirrors that are tried in a random order. -/
def twoMirrorTask (force : Bool) : Task :=
  { smallTask "1" 0 with
    settings := { (smallTask "1" 0).settings with
      force
      mirrors := ["http://[fd00::1]/", "http://[fd00::2]/"]
      mirrorsInOrder := false } }

/-- A fortune with the picks of the small one, in 1970, just after a start, and with the highest draws. -/
def earlyFortune : Fortune where
  pick := smallFortune.pick
  draw _ := 1.0
  now _ := ⟨0, 0⟩
  uptime _ := .zero

/-- Two fortunes that differ in everything but the picks: a forced run is the same under both, and a run that is not
forced installs an image under one of them only. -/
theorem forced_run_eq_in_small_world :
    (run smallWorld (twoMirrorTask true) smallFortune { place := .absent } =
        run smallWorld (twoMirrorTask true) earlyFortune { place := .absent } ∧
      visits smallWorld (twoMirrorTask true) smallFortune { place := .absent } =
        visits smallWorld (twoMirrorTask true) earlyFortune { place := .absent }) ∧
    (run smallWorld (twoMirrorTask false) smallFortune { place := .absent }).2.history ≠
      (run smallWorld (twoMirrorTask false) earlyFortune { place := .absent }).2.history :=
  ⟨forced_run_eq rfl (.inr fun _ _ _ => rfl), by decide +kernel⟩

end MeshFirmware.Updater
