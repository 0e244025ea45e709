import MeshFirmware.Discovery.Exchange
import MeshFirmware.Proofs.Discovery.Listening

/-!
# What a request does with a script

A request sends its question first and once. Then it does what its script says (`Follows`): it waits while time remains,
and hands on each answer that comes, until nothing more is received or the handler does not go on. Nothing else
happens, and nothing happens after that (`request_follows_script`). The bytes of an answer are those of its own
datagram, whatever the buffer had in it before (`first?_write_fill`).
-/

namespace MeshFirmware.Discovery
variable {σ : Type}

/-! ## The buffer -/

/-- What is read from the buffer after a datagram does not depend on what was in the buffer before. -/
theorem first?_write_fill (b : Buffer) (payload : Bytes) (n : Nat) :
    ((b.fill 0).write payload).first? n = if bufferSize < n then none else some (received payload n) := by
  have hrest : (b.fill 0).bytes.drop payload.length = List.replicate (bufferSize - payload.length) 0 := by
    rw [Buffer.bytes_fill, List.map_const', b.length_bytes, List.drop_replicate]
  have hroom : bufferSize - (payload.take bufferSize).length = bufferSize - payload.length := by
    rw [List.length_take]
    omega
  rw [Buffer.first?, Buffer.bytes_write, hrest, received, hroom]

example (b : Buffer) : (((b.write [1, 2, 3]).fill 0).write [4]).first? 3 = some [4, 0, 0] := by
  rw [first?_write_fill]
  decide

/-! ## Scripts -/

/-- The handler takes these answers one after the other and goes on after each, from one state to another. -/
inductive GoesOn (handler : Handler σ) : σ → List Response → σ → Prop where
  | nil (s : σ) : GoesOn handler s [] s
  | cons {s s₁ s' : σ} {r : Response} {rs : List Response} (h : handler s r = (.goOn, s₁))
      (later : GoesOn handler s₁ rs s') : GoesOn handler s (r :: rs) s'

/-- These waits are begun in time, and bring answers after which the handler goes on. -/
structure Answered (handler : Handler σ) (s : σ) (left : Nat) (taken : List Wait) (answers : List Response)
    (s' : σ) : Prop where
  responses : taken.map Wait.response? = answers.map some
  in_time : ∀ k < taken.length, spent (taken.take k) < left
  goes_on : GoesOn handler s answers s'

/-- What a request does with waits that bring these answers: it waits as long as it has time left, and hands on what
has come. -/
def rounds : Nat → List Wait → List Response → List Event
  | left, w :: ws, r :: rs => .waits left :: .hands r :: rounds (left - w.duration) ws rs
  | _, _, _ => []

/-- With so much time left and these waits ahead, a request ends in this way, after these events: nothing more is
received, or the handler does not go on after the next answer. -/
inductive Stops (handler : Handler σ) (s : σ) (left : Nat) : List Wait → Ending → List Event → σ → Prop where
  | silence {waits : List Wait} {e : Ending} (h : Silence left waits e) :
      Stops handler s left waits e (if left = 0 then [] else [.waits left]) s
  | cancelled {w : Wait} {rest : List Wait} {r : Response} {s' : σ} (hpos : 0 < left) (hr : w.response? = some r)
      (h : handler s r = (.cancel, s')) : Stops handler s left (w :: rest) .cancelled [.waits left, .hands r] s'
  | failed {w : Wait} {rest : List Wait} {r : Response} {cause : String} {s' : σ} (hpos : 0 < left)
      (hr : w.response? = some r) (h : handler s r = (.fail cause, s')) :
      Stops handler s left (w :: rest) (.handlerFailed cause) [.waits left, .hands r] s'

/-- With so much time left, a request does this after its question is sent: the first waits bring answers that are
handed on, and with what comes then the request stops. -/
def Follows (handler : Handler σ) (s : σ) (left : Nat) (waits : List Wait) (x : Exchange σ) : Prop :=
  ∃ taken rest answers s' last, waits = taken ++ rest ∧ Answered handler s left taken answers s' ∧
    Stops handler s' (left - spent taken) rest x.ending last x.state ∧ x.events = rounds left taken answers ++ last

section
variable {handler : Handler σ} {s s₁ s' : σ} {left : Nat} {w : Wait} {taken : List Wait} {r : Response}
  {answers : List Response}

theorem Answered.nil (handler : Handler σ) (s : σ) (left : Nat) : Answered handler s left [] [] s where
  responses := rfl
  in_time := fun _ hk => absurd hk (Nat.not_lt_zero _)
  goes_on := .nil s

theorem Answered.cons (hpos : 0 < left) (hr : w.response? = some r) (h : handler s r = (.goOn, s₁))
    (later : Answered handler s₁ (left - w.duration) taken answers s') :
    Answered handler s left (w :: taken) (r :: answers) s' where
  responses := by rw [List.map_cons, List.map_cons, hr, later.responses]
  in_time := spent_take_cons_lt hpos later.in_time
  goes_on := .cons h later.goes_on

/-- What a request does that stops at once. -/
theorem Stops.follows {waits : List Wait} {e : Ending} {last : List Event} (h : Stops handler s left waits e last s') :
    Follows handler s left waits ⟨e, last, s'⟩ :=
  ⟨[], waits, [], s, last, rfl, .nil handler s left, h, rfl⟩

/-- What a request does whose next answer is handed on. -/
theorem Follows.cons {waits : List Wait} {x : Exchange σ} (hpos : 0 < left) (hr : w.response? = some r)
    (h : handler s r = (.goOn, s₁)) (later : Follows handler s₁ (left - w.duration) waits x) :
    Follows handler s left (w :: waits) (x.after [.waits left, .hands r]) := by
  obtain ⟨taken, rest, answers, s', last, rfl, hanswered, hstops, hevents⟩ := later
  refine ⟨w :: taken, rest, r :: answers, s', last, rfl, hanswered.cons hpos hr h, ?_, ?_⟩
  · rw [spent, Nat.sub_add_eq]
    exact hstops
  · rw [Exchange.after, hevents]
    rfl

theorem Answered.uncons (h : Answered handler s left (w :: taken) (r :: answers) s') :
    0 < left ∧ w.response? = some r ∧ ∃ s₁, handler s r = (.goOn, s₁) ∧
      Answered handler s₁ (left - w.duration) taken answers s' := by
  obtain ⟨hfirst, hresponses⟩ := List.cons.inj h.responses
  refine ⟨h.in_time 0 (Nat.succ_pos _), hfirst, ?_⟩
  cases h.goes_on with
  | cons hgo hlater =>
    refine ⟨_, hgo, hresponses, ?_, hlater⟩
    intro k hk
    have hlate := h.in_time (k + 1) (Nat.succ_lt_succ hk)
    rw [List.take_succ_cons, spent] at hlate
    omega

/-- A request stops at once, or its next answer is handed on. -/
theorem Follows.stops_or_goes_on {waits : List Wait} {x : Exchange σ} (h : Follows handler s left waits x) :
    Stops handler s left waits x.ending x.events x.state ∨
      ∃ w rest r s₁ y, waits = w :: rest ∧ 0 < left ∧ w.response? = some r ∧ handler s r = (.goOn, s₁) ∧
        Follows handler s₁ (left - w.duration) rest y ∧ x = y.after [.waits left, .hands r] := by
  obtain ⟨taken, rest, answers, s', last, rfl, hanswered, hstops, hevents⟩ := h
  have hlength : taken.length = answers.length := by
    simpa using congrArg List.length hanswered.responses
  match taken, answers, hlength with
  | [], [], _ =>
    left
    cases hanswered.goes_on
    rw [hevents]
    exact hstops
  | w :: taken, r :: answers, _ =>
    right
    obtain ⟨hpos, hr, s₁, hgo, hlater⟩ := hanswered.uncons
    rw [spent, Nat.sub_add_eq] at hstops
    refine ⟨w, taken ++ rest, r, s₁, ⟨x.ending, rounds (left - w.duration) taken answers ++ last, x.state⟩, rfl, hpos,
      hr, hgo, ⟨taken, rest, answers, s', last, rfl, hlater, hstops, rfl⟩, ?_⟩
    cases x
    exact congrArg (Exchange.mk _ · _) hevents

/-- What a request does, one answer after the other. -/
@[elab_as_elim]
theorem Follows.induct
    {motive : ∀ (s : σ) (left : Nat) (waits : List Wait) (x : Exchange σ), Follows handler s left waits x → Prop}
    (stops : ∀ {s left waits x} (h : Stops handler s left waits x.ending x.events x.state),
      motive s left waits x h.follows)
    (goes_on : ∀ {s s₁ left w r rest y} (hpos : 0 < left) (hr : w.response? = some r)
      (hgo : handler s r = (.goOn, s₁)) (later : Follows handler s₁ (left - w.duration) rest y),
      motive s₁ (left - w.duration) rest y later →
        motive s left (w :: rest) (y.after [.waits left, .hands r]) (later.cons hpos hr hgo))
    {waits : List Wait} {x : Exchange σ} (h : Follows handler s left waits x) : motive s left waits x h := by
  induction waits generalizing s left x with
  | nil =>
    obtain hstops | ⟨w, rest, r, s₁, y, heq, -⟩ := h.stops_or_goes_on
    · exact stops hstops
    · cases heq
  | cons w waits ih =>
    obtain hstops | ⟨w, rest, r, s₁, y, heq, hpos, hr, hgo, hlater, rfl⟩ := h.stops_or_goes_on
    · exact stops hstops
    · obtain ⟨rfl, rfl⟩ := List.cons.inj heq
      exact goes_on hpos hr hgo hlater (ih hlater)

theorem Stops.sends_notMem {waits : List Wait} {e : Ending} {last : List Event}
    (h : Stops handler s left waits e last s') (payload : Bytes) (destination : Destination) :
    Event.sends payload destination ∉ last := by
  cases h with
  | silence => split <;> simp
  | cancelled => simp
  | failed => simp

/-- Nothing is sent while answers are waited for. -/
theorem Follows.sends_notMem {waits : List Wait} {x : Exchange σ} (h : Follows handler s left waits x)
    (payload : Bytes) (destination : Destination) : Event.sends payload destination ∉ x.events := by
  induction h using Follows.induct with
  | stops h => exact h.sends_notMem payload destination
  | goes_on hpos hr hgo later ih => simp [Exchange.after, ih]

end

/-- Every script tells a request what to do. -/
theorem exists_follows (handler : Handler σ) (s : σ) (left : Nat) (waits : List Wait) :
    ∃ x, Follows handler s left waits x := by
  induction waits generalizing s left with
  | nil => exact ⟨_, (Stops.silence .ended).follows⟩
  | cons w waits ih =>
    obtain ⟨e, hsilence⟩ | ⟨hpos, _, _, r, heq, hr⟩ := silence_or_response left (w :: waits)
    · exact ⟨_, (Stops.silence hsilence).follows⟩
    · cases heq
      cases hverdict : handler s r with
      | mk verdict s₁ =>
        cases verdict with
        | goOn =>
          obtain ⟨x, hx⟩ := ih s₁ (left - w.duration)
          exact ⟨_, hx.cons hpos hr hverdict⟩
        | cancel => exact ⟨_, (Stops.cancelled hpos hr hverdict).follows⟩
        | fail cause => exact ⟨_, (Stops.failed hpos hr hverdict).follows⟩

/-! ## Requests -/

/-- The readings of the clock tell how long the sending takes. -/
theorem Dispatch.sent_sub_started (dispatch : Dispatch) : dispatch.sent - dispatch.started = dispatch.taken := by
  rw [dispatch.elapsed]
  omega

/-- The readings of the clock tell how long a turn takes. -/
theorem Turn.closed_sub_opened (turn : Turn) : turn.closed - turn.opened = turn.toWait.duration := by
  rw [turn.elapsed, Wait.duration]
  omega

theorem attend_of_silence {left : Nat} {turns : List Turn} {e : Ending}
    (h : Silence left (turns.map Turn.toWait) e) (handler : Handler σ) (s : σ) (b : Buffer) :
    attend handler s b left turns = ⟨e, if left = 0 then [] else [.waits left], s⟩ := by
  generalize hwaits : turns.map Turn.toWait = waits at h
  cases h with
  | spent => cases turns <;> simp [attend]
  | ended =>
    obtain rfl := List.map_eq_nil_iff.mp hwaits
    by_cases hzero : left = 0 <;> simp [attend, hzero]
  | timeout h =>
    obtain ⟨turn, rest, rfl, rfl, -⟩ := List.map_eq_cons_iff.mp hwaits
    by_cases hzero : left = 0 <;> simp [attend, hzero, h]
  | broken hpos h =>
    obtain ⟨turn, rest, rfl, rfl, -⟩ := List.map_eq_cons_iff.mp hwaits
    simp [attend, Nat.ne_of_gt hpos, h]
  | overrun hpos h hlength =>
    obtain ⟨turn, rest, rfl, rfl, -⟩ := List.map_eq_cons_iff.mp hwaits
    simp [attend, Nat.ne_of_gt hpos, h, first?_write_fill, hlength]

theorem attend_of_response {left : Nat} {turn : Turn} {r : Response} (hpos : 0 < left)
    (hr : turn.toWait.response? = some r) (handler : Handler σ) (s : σ) (b : Buffer) (rest : List Turn) :
    ∃ b', attend handler s b left (turn :: rest) =
      match handler s r with
      | (.cancel, s) => ⟨.cancelled, [.waits left, .hands r], s⟩
      | (.fail cause, s) => ⟨.handlerFailed cause, [.waits left, .hands r], s⟩
      | (.goOn, s) => (attend handler s b' (left - turn.toWait.duration) rest).after [.waits left, .hands r] := by
  unfold Wait.response? at hr
  split at hr
  · case _ payload length source index harrival =>
    split at hr
    · cases hr
    · case _ hlength =>
      cases hr
      refine ⟨(b.fill 0).write payload, ?_⟩
      cases hverdict : handler s ⟨received payload length, source, index⟩ with
      | mk verdict s₁ =>
        cases verdict <;>
          simp [attend, Nat.ne_of_gt hpos, harrival, first?_write_fill, hlength, hverdict, turn.closed_sub_opened]
  · cases hr

section
variable {handler : Handler σ} {s s' : σ} {left : Nat}

theorem attend_of_stops {turns : List Turn} {e : Ending} {last : List Event}
    (h : Stops handler s left (turns.map Turn.toWait) e last s') (b : Buffer) :
    attend handler s b left turns = ⟨e, last, s'⟩ := by
  generalize hwaits : turns.map Turn.toWait = waits at h
  cases h with
  | silence h =>
    subst hwaits
    exact attend_of_silence h handler s b
  | cancelled hpos hr h =>
    obtain ⟨turn, rest, rfl, rfl, -⟩ := List.map_eq_cons_iff.mp hwaits
    obtain ⟨b', heq⟩ := attend_of_response hpos hr handler s b rest
    rw [heq, h]
  | failed hpos hr h =>
    obtain ⟨turn, rest, rfl, rfl, -⟩ := List.map_eq_cons_iff.mp hwaits
    obtain ⟨b', heq⟩ := attend_of_response hpos hr handler s b rest
    rw [heq, h]

/-- What a request does is what its script says. -/
theorem attend_of_follows {waits : List Wait} {x : Exchange σ} (h : Follows handler s left waits x)
    (turns : List Turn) (hwaits : turns.map Turn.toWait = waits) (b : Buffer) :
    attend handler s b left turns = x := by
  -- For all buffers, since each turn finds in the buffer what the turn before it has left there.
  induction h using Follows.induct generalizing turns b with
  | stops h =>
    subst hwaits
    exact attend_of_stops h b
  | @goes_on s s₁ left w r waits y hpos hr hgo later ih =>
    obtain ⟨turn, rest, rfl, rfl, hrest⟩ := List.map_eq_cons_iff.mp hwaits
    obtain ⟨b', hattend⟩ := attend_of_response hpos hr handler s b rest
    rw [hattend, hgo]
    exact congrArg (Exchange.after _) (ih rest hrest b')

theorem follows_attend (handler : Handler σ) (s : σ) (b : Buffer) (left : Nat) (turns : List Turn) :
    Follows handler s left (turns.map Turn.toWait) (attend handler s b left turns) := by
  obtain ⟨x, hx⟩ := exists_follows handler s left (turns.map Turn.toWait)
  rw [attend_of_follows hx turns rfl b]
  exact hx

end

/-! ## The request without its socket -/

@[simp] theorem timeouts_after (events : List Event) (x : Exchange σ) :
    (x.after events).timeouts = events.filterMap Event.timeout? ++ x.timeouts := List.filterMap_append

/-- A request as its results alone tell it. -/
def Exchange.summary (x : Exchange σ) : Request σ := ⟨x.ending, x.timeouts, x.state⟩

theorem listen_of_stops {handler : Handler σ} {s s' : σ} {left : Nat} {waits : List Wait} {e : Ending}
    {last : List Event} (h : Stops handler s left waits e last s') :
    listen handler s left waits = ⟨e, last.filterMap Event.timeout?, s'⟩ := by
  cases h with
  | silence h =>
    rw [listen_eq_of_silence h]
    by_cases hzero : left = 0 <;> simp [hzero, Event.timeout?]
  | cancelled hpos hr h => rw [listen_of_response hpos hr, h]; rfl
  | failed hpos hr h => rw [listen_of_response hpos hr, h]; rfl

theorem listen_of_follows {handler : Handler σ} {s : σ} {left : Nat} {waits : List Wait} {x : Exchange σ}
    (h : Follows handler s left waits x) : listen handler s left waits = x.summary := by
  induction h using Follows.induct with
  | stops h => exact listen_of_stops h
  | goes_on hpos hr hgo later ih =>
    rw [listen_of_response hpos hr, hgo]
    dsimp only
    rw [ih]
    rfl

/-- A request without its socket has the results of the request on one. -/
theorem request_eq_summary (query : Query) (scene : Scene) (handler : Option (Handler σ)) (state : σ) :
    request scene.dispatch.toSending (scene.turns.map Turn.toWait) query.budget handler state =
      (ask query scene handler state).summary := by
  have htaken := scene.dispatch.sent_sub_started
  unfold request ask
  cases scene.dispatch.failure with
  | some cause => rfl
  | none =>
    cases handler with
    | none => rfl
    | some handler =>
      dsimp only
      rw [htaken, listen_of_follows (follows_attend handler state (Octets.zero bufferSize) _ scene.turns)]
      rfl

/-! ## All that a request does -/

theorem after_injective (events : List Event) :
    Function.Injective (Exchange.after events : Exchange σ → Exchange σ) := by
  rintro ⟨e, later, s⟩ ⟨e', later', s'⟩ h
  simpa [Exchange.after] using h

/-- A request sends its question, and then does no more, when that fails or there is no handler, or else what its script
says and nothing other. -/
theorem request_follows_script (query : Query) (scene : Scene) (handler : Option (Handler σ)) (state : σ) :
    (∃ later, (ask query scene handler state).events = .asks query :: later ∧
        ∀ payload destination, Event.sends payload destination ∉ later) ∧
      (match scene.dispatch.failure, handler with
        | some cause, _ => ask query scene handler state = ⟨.transportFailed cause, [.asks query], state⟩
        | none, none => ask query scene handler state = ⟨.done, [.asks query], state⟩
        | none, some h => ∀ x, ask query scene handler state = x.after [.asks query] ↔
            Follows h state (query.budget - scene.dispatch.taken) (scene.turns.map Turn.toWait) x) ∧
      request scene.dispatch.toSending (scene.turns.map Turn.toWait) query.budget handler state =
        (ask query scene handler state).summary := by
  refine ⟨?_, ?_, request_eq_summary query scene handler state⟩
  · unfold ask
    cases scene.dispatch.failure with
    | some cause => exact ⟨[], rfl, fun _ _ => List.not_mem_nil⟩
    | none =>
      cases handler with
      | none => exact ⟨[], rfl, fun _ _ => List.not_mem_nil⟩
      | some h => exact ⟨_, rfl, (follows_attend h state _ _ scene.turns).sends_notMem⟩
  · have htaken := scene.dispatch.sent_sub_started
    unfold ask
    cases scene.dispatch.failure with
    | some cause => rfl
    | none =>
      cases handler with
      | none => rfl
      | some h =>
        dsimp only
        rw [htaken]
        intro x
        -- The question is at the beginning on both sides, so that only what comes after it is compared.
        rw [(after_injective _).eq_iff]
        constructor
        · rintro rfl
          exact follows_attend h state _ _ scene.turns
        · intro hfollows
          exact attend_of_follows hfollows scene.turns rfl _

end MeshFirmware.Discovery
