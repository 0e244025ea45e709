import MeshFirmware.Discovery

/-!
# Listening

A request takes one wait after the other while they bring answers and time remains. Nothing more is received for one
of the reasons of `Silence`. A handler that always goes on gets the answers before that, in their order
(`listen_onward`); waits that take no time and whose answers change nothing for it may be left out or put in
anywhere (`listen_of_withExtra`).
-/

namespace MeshFirmware.Discovery
variable {σ τ : Type}

/-- The time that a wait takes, with the handling of what it brings. -/
def Wait.duration (w : Wait) : Nat := w.waiting + w.handling

/-- The time that waits take one after the other. -/
def spent : List Wait → Nat
  | [] => 0
  | w :: rest => w.duration + spent rest

/-- With a wait in front, waits are begun in time if they are with what that wait leaves. -/
theorem spent_take_cons_lt {remaining : Nat} {w : Wait} {taken : List Wait} (hpos : 0 < remaining)
    (hlater : ∀ k < taken.length, spent (taken.take k) < remaining - w.duration) :
    ∀ k < (w :: taken).length, spent ((w :: taken).take k) < remaining := by
  intro k hk
  cases k with
  | zero => exact hpos
  | succ k =>
    have hrest := hlater k (Nat.lt_of_succ_lt_succ hk)
    rw [List.take_succ_cons, spent]
    omega

/-- The answer that a wait brings, if it brings one that there is room for. -/
def Wait.response? (w : Wait) : Option Response :=
  match w.arrival with
  | .datagram payload length source index =>
    if bufferSize < length then none else some ⟨received payload length, source, index⟩
  | _ => none

/-- With so much time left and these waits ahead nothing more is received, and the request ends in this way. -/
inductive Silence : Nat → List Wait → Ending → Prop where
  | spent (waits : List Wait) : Silence 0 waits .done
  | ended {remaining : Nat} : Silence remaining [] .done
  | timeout {remaining : Nat} {w : Wait} {rest : List Wait} (h : w.arrival = .nothing) :
      Silence remaining (w :: rest) .done
  | broken {remaining : Nat} {w : Wait} {rest : List Wait} {cause : String} (hpos : 0 < remaining)
      (h : w.arrival = .failure cause) : Silence remaining (w :: rest) (.transportFailed cause)
  | overrun {remaining : Nat} {w : Wait} {rest : List Wait} {payload : Bytes} {length : Nat} {source : Ipv6}
      {index : UInt32} (hpos : 0 < remaining) (h : w.arrival = .datagram payload length source index)
      (hlength : bufferSize < length) : Silence remaining (w :: rest) .overrun

theorem silence_or_response (remaining : Nat) (waits : List Wait) :
    (∃ e, Silence remaining waits e) ∨
      0 < remaining ∧ ∃ w rest r, waits = w :: rest ∧ w.response? = some r := by
  cases remaining with
  | zero => exact .inl ⟨_, .spent waits⟩
  | succ remaining =>
    have hpos : 0 < remaining + 1 := Nat.succ_pos remaining
    cases waits with
    | nil => exact .inl ⟨_, .ended⟩
    | cons w rest =>
      cases harrival : w.arrival with
      | nothing => exact .inl ⟨_, .timeout harrival⟩
      | failure cause => exact .inl ⟨_, .broken hpos harrival⟩
      | datagram payload length source index =>
        by_cases hlength : bufferSize < length
        · exact .inl ⟨_, .overrun hpos harrival hlength⟩
        · refine .inr ⟨hpos, w, rest, ⟨received payload length, source, index⟩, rfl, ?_⟩
          rw [Wait.response?, harrival]
          exact if_neg hlength

theorem listen_eq_of_silence {remaining : Nat} {waits : List Wait} {e : Ending} (h : Silence remaining waits e)
    (handler : Handler σ) (state : σ) :
    listen handler state remaining waits = ⟨e, if remaining = 0 then [] else [remaining], state⟩ := by
  cases h with
  | spent => cases waits <;> simp [listen]
  | ended => by_cases hzero : remaining = 0 <;> simp [listen, hzero]
  | timeout h => by_cases hzero : remaining = 0 <;> simp [listen, hzero, h]
  | broken hpos h => simp [listen, Nat.ne_of_gt hpos, h]
  | overrun hpos h hlength => simp [listen, Nat.ne_of_gt hpos, h, hlength]

theorem listen_of_silence {remaining : Nat} {waits : List Wait} {e : Ending} (h : Silence remaining waits e)
    (handler : Handler σ) (state : σ) :
    (listen handler state remaining waits).ending = e ∧ (listen handler state remaining waits).state = state := by
  rw [listen_eq_of_silence h]
  exact ⟨rfl, rfl⟩

/-- Two requests that receive nothing end alike, and leave the states that they were given. -/
theorem listen_of_both_silent {remaining : Nat} {waits waits' : List Wait} {e : Ending}
    (h : Silence remaining waits e) (h' : Silence remaining waits' e) (handler : Handler σ) (handler' : Handler τ)
    (φ : σ → τ) (s : σ) :
    (listen handler' (φ s) remaining waits').ending = (listen handler s remaining waits).ending ∧
      (listen handler' (φ s) remaining waits').state = φ (listen handler s remaining waits).state := by
  obtain ⟨hending, hstate⟩ := listen_of_silence h handler s
  obtain ⟨hending', hstate'⟩ := listen_of_silence h' handler' (φ s)
  exact ⟨hending'.trans hending.symm, hstate'.trans (congrArg φ hstate.symm)⟩

/-- Only the next wait matters for whether something is received. -/
theorem Silence.of_cons {remaining : Nat} {w : Wait} {rest : List Wait} {e : Ending}
    (h : Silence remaining (w :: rest) e) (others : List Wait) : Silence remaining (w :: others) e := by
  cases h with
  | spent => exact .spent _
  | timeout h => exact .timeout h
  | broken hpos h => exact .broken hpos h
  | overrun hpos h hlength => exact .overrun hpos h hlength

/-- Silence is never the will of a handler. -/
theorem Silence.goes_on {remaining : Nat} {waits : List Wait} {e : Ending} (h : Silence remaining waits e) :
    e ≠ .cancelled ∧ ∀ cause, e ≠ .handlerFailed cause := by
  cases h <;> exact ⟨nofun, nofun⟩

theorem listen_of_response {remaining : Nat} {w : Wait} {r : Response} (hpos : 0 < remaining)
    (hr : w.response? = some r) (handler : Handler σ) (state : σ) (rest : List Wait) :
    listen handler state remaining (w :: rest) =
      match handler state r with
      | (.cancel, state) => ⟨.cancelled, [remaining], state⟩
      | (.fail cause, state) => ⟨.handlerFailed cause, [remaining], state⟩
      | (.goOn, state) =>
        let next := listen handler state (remaining - w.duration) rest
        { next with timeouts := remaining :: next.timeouts } := by
  unfold Wait.response? at hr
  split at hr
  · case _ payload length source index harrival =>
    split at hr
    · cases hr
    · case _ hlength =>
      cases hr
      rw [listen, if_neg (Nat.ne_of_gt hpos), harrival]
      simp only [if_neg hlength]
      rfl
  · cases hr

/-! ## A handler that goes on -/

/-- The handler that goes on after every answer. -/
def onward (f : σ → Response → σ) : Handler σ := fun s r => (.goOn, f s r)

section
variable {remaining : Nat} {w : Wait} {r : Response} (hpos : 0 < remaining) (hr : w.response? = some r)
  (f : σ → Response → σ) (s : σ) (rest : List Wait)
include hpos hr

theorem ending_listen_onward :
    (listen (onward f) s remaining (w :: rest)).ending =
      (listen (onward f) (f s r) (remaining - w.duration) rest).ending := by
  rw [listen_of_response hpos hr]
  rfl

theorem state_listen_onward :
    (listen (onward f) s remaining (w :: rest)).state =
      (listen (onward f) (f s r) (remaining - w.duration) rest).state := by
  rw [listen_of_response hpos hr]
  rfl

end

/-- What is received in this time, when the first of these waits are taken and the rest is not: the answers of
those that are taken, each of them begun in time, until nothing more is received. -/
structure Heard (remaining : Nat) (waits taken rest : List Wait) (offered : List Response) (e : Ending) : Prop where
  cut : waits = taken ++ rest
  answers : taken.map Wait.response? = offered.map some
  in_time : ∀ k < taken.length, spent (taken.take k) < remaining
  silence : Silence (remaining - spent taken) rest e

theorem heard_of_silence {remaining : Nat} {waits : List Wait} {e : Ending} (h : Silence remaining waits e) :
    Heard remaining waits [] waits [] e where
  cut := rfl
  answers := rfl
  in_time := fun _ hk => absurd hk (Nat.not_lt_zero _)
  silence := h

theorem Heard.cons {remaining : Nat} {w : Wait} {r : Response} {waits taken rest : List Wait}
    {offered : List Response} {e : Ending} (hpos : 0 < remaining) (hr : w.response? = some r)
    (h : Heard (remaining - w.duration) waits taken rest offered e) :
    Heard remaining (w :: waits) (w :: taken) rest (r :: offered) e where
  cut := congrArg (w :: ·) h.cut
  answers := by rw [List.map_cons, List.map_cons, hr, h.answers]
  in_time := spent_take_cons_lt hpos h.in_time
  silence := by
    rw [spent, Nat.sub_add_eq]
    exact h.silence

/-- A handler that always goes on is handed every answer that is received, in order, and the request never ends at its
will. -/
theorem listen_onward (f : σ → Response → σ) (s : σ) (remaining : Nat) (waits : List Wait) :
    ∃ taken rest offered,
      Heard remaining waits taken rest offered (listen (onward f) s remaining waits).ending ∧
        (listen (onward f) s remaining waits).state = offered.foldl f s := by
  induction waits generalizing s remaining with
  | nil =>
    obtain ⟨hending, hstate⟩ := listen_of_silence .ended (onward f) s
    exact ⟨[], [], [], hending ▸ heard_of_silence .ended, hstate⟩
  | cons w waits ih =>
    obtain ⟨e, hsilence⟩ | ⟨hpos, _, _, r, heq, hr⟩ := silence_or_response remaining (w :: waits)
    · obtain ⟨hending, hstate⟩ := listen_of_silence hsilence (onward f) s
      exact ⟨[], w :: waits, [], hending ▸ heard_of_silence hsilence, hstate⟩
    · cases heq
      obtain ⟨taken, rest, offered, hheard, hstate⟩ := ih (f s r) (remaining - w.duration)
      refine ⟨w :: taken, rest, r :: offered, ?_, ?_⟩
      · rw [ending_listen_onward hpos hr]
        exact hheard.cons hpos hr
      · rw [state_listen_onward hpos hr, hstate]
        rfl

/-- Handlers whose states belong together receive the same, and their states still belong together. -/
theorem listen_onward_map {f : σ → Response → σ} {f' : τ → Response → τ} {φ : σ → τ}
    (hφ : ∀ s r, f' (φ s) r = φ (f s r)) (s : σ) (remaining : Nat) (waits : List Wait) :
    (listen (onward f') (φ s) remaining waits).ending = (listen (onward f) s remaining waits).ending ∧
      (listen (onward f') (φ s) remaining waits).state = φ (listen (onward f) s remaining waits).state := by
  induction waits generalizing s remaining with
  | nil => exact listen_of_both_silent .ended .ended (onward f) (onward f') φ s
  | cons w waits ih =>
    obtain ⟨e, hsilence⟩ | ⟨hpos, _, _, r, heq, hr⟩ := silence_or_response remaining (w :: waits)
    · exact listen_of_both_silent hsilence hsilence (onward f) (onward f') φ s
    · cases heq
      obtain ⟨hending, hstate⟩ := ih (f s r) (remaining - w.duration)
      rw [ending_listen_onward hpos hr, ending_listen_onward hpos hr, state_listen_onward hpos hr,
        state_listen_onward hpos hr, hφ]
      exact ⟨hending, hstate⟩

/-! ## Waits put in -/

/-- The second waits are the first ones, with others of a kind put in anywhere. -/
inductive WithExtra (P : Wait → Prop) : List Wait → List Wait → Prop where
  | nil : WithExtra P [] []
  | keep (w : Wait) {waits more : List Wait} (h : WithExtra P waits more) : WithExtra P (w :: waits) (w :: more)
  | extra {w : Wait} {waits more : List Wait} (hw : P w) (h : WithExtra P waits more) : WithExtra P waits (w :: more)

/-- Waits that take no time, and whose answers leave the state as it is, change nothing. -/
theorem listen_of_withExtra {P : Wait → Prop} {f : σ → Response → σ}
    (hquiet : ∀ w, P w → w.duration = 0 ∧ ∃ r, w.response? = some r ∧ ∀ s, f s r = s)
    {waits more : List Wait} (h : WithExtra P waits more) (s : σ) (remaining : Nat) :
    (listen (onward f) s remaining more).ending = (listen (onward f) s remaining waits).ending ∧
      (listen (onward f) s remaining more).state = (listen (onward f) s remaining waits).state := by
  -- On where the waits are put in. When the time is used up before one of them, it is not reached in either run.
  induction h generalizing s remaining with
  | nil => exact ⟨rfl, rfl⟩
  | @keep w waits more h ih =>
    obtain ⟨e, hsilence⟩ | ⟨hpos, _, _, r, heq, hr⟩ := silence_or_response remaining (w :: waits)
    · exact listen_of_both_silent hsilence (hsilence.of_cons more) (onward f) (onward f) id s
    · cases heq
      rw [ending_listen_onward hpos hr, ending_listen_onward hpos hr, state_listen_onward hpos hr,
        state_listen_onward hpos hr]
      exact ih (f s r) (remaining - w.duration)
  | @extra w waits more hw h ih =>
    obtain ⟨hinstant, r, hr, hsame⟩ := hquiet w hw
    obtain rfl | hpos := Nat.eq_zero_or_pos remaining
    · exact listen_of_both_silent (.spent waits) (.spent (w :: more)) (onward f) (onward f) id s
    · rw [ending_listen_onward hpos hr, state_listen_onward hpos hr, hsame, hinstant, Nat.sub_zero]
      exact ih s remaining

theorem request_of_withExtra {P : Wait → Prop} {f : σ → Response → σ}
    (hquiet : ∀ w, P w → w.duration = 0 ∧ ∃ r, w.response? = some r ∧ ∀ s, f s r = s)
    {waits more : List Wait} (h : WithExtra P waits more) (sending : Sending) (budget : Nat) (s : σ) :
    (request sending more budget (some (onward f)) s).ending =
        (request sending waits budget (some (onward f)) s).ending ∧
      (request sending more budget (some (onward f)) s).state =
        (request sending waits budget (some (onward f)) s).state := by
  unfold request
  cases sending.failure with
  | some cause => exact ⟨rfl, rfl⟩
  | none => exact listen_of_withExtra hquiet h s (budget - sending.taken)

/-! ## Conversations -/

section
variable (sending : Sending) (waits : List Wait) (budget : Nat)

/-- A handler that always goes on gets the answers of the conversation, and its request ends like the conversation. -/
theorem request_onward (f : σ → Response → σ) (s : σ) :
    (request sending waits budget (some (onward f)) s).ending = (converse sending waits budget).ending ∧
      (request sending waits budget (some (onward f)) s).state =
        (converse sending waits budget).responses.foldl f s := by
  rw [converse, request, request]
  cases sending.failure with
  | some cause => exact ⟨rfl, rfl⟩
  | none =>
    have hsnoc (heard : List Response) (r : Response) : f (heard.foldl f s) r = (heard ++ [r]).foldl f s := by
      rw [List.foldl_append]
      rfl
    exact listen_onward_map (φ := fun heard => heard.foldl f s) hsnoc [] (budget - sending.taken) waits

/-- When the question is sent, the conversation has every answer that comes in time. -/
theorem heard_converse (hsent : sending.failure = none) :
    ∃ taken rest, Heard (budget - sending.taken) waits taken rest (converse sending waits budget).responses
      (converse sending waits budget).ending := by
  obtain ⟨taken, rest, offered, hheard, hstate⟩ :=
    listen_onward (fun heard r => heard ++ [r]) [] (budget - sending.taken) waits
  have hoffered : (converse sending waits budget).responses = offered := by
    rw [converse, request, hsent]
    calc (listen (onward fun heard r => heard ++ [r]) [] (budget - sending.taken) waits).state
        = offered.foldl (fun heard r => heard ++ [r]) [] := hstate
      _ = (offered.map fun r => [r]).flatten := List.foldl_append_eq_append
      _ = offered := List.flatMap_singleton' offered
  have hending : (converse sending waits budget).ending =
      (listen (onward fun heard r => heard ++ [r]) [] (budget - sending.taken) waits).ending := by
    rw [converse, request, hsent]
    rfl
  rw [hoffered, hending]
  exact ⟨taken, rest, hheard⟩

theorem converse_of_unsent {cause : String} (hunsent : sending.failure = some cause) :
    converse sending waits budget = ⟨[], .transportFailed cause⟩ := by
  rw [converse, request, hunsent]

/-- A conversation does not end at the will of a handler. -/
theorem converse_goes_on :
    (converse sending waits budget).ending ≠ .cancelled ∧
      ∀ cause, (converse sending waits budget).ending ≠ .handlerFailed cause := by
  cases hsending : sending.failure with
  | some cause =>
    rw [converse_of_unsent sending waits budget hsending]
    exact ⟨nofun, nofun⟩
  | none =>
    obtain ⟨taken, rest, hheard⟩ := heard_converse sending waits budget hsending
    exact hheard.silence.goes_on

end

end MeshFirmware.Discovery
