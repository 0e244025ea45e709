import MeshFirmware.Proofs.Relay.Response

/-!
# Tries of mirrors

Mirrors are tried in order, and every try is told by the calls that it makes (`Tries`). Nothing is written before a
mirror has started to deliver the file, and nothing is tried after that, so the response comes from one mirror
alone, or it is a message (`tryMirrors_eq`). Mirrors are told apart by their places, as a list may name one twice.
-/

namespace MeshFirmware.Relay

/-- A transfer that has been started: the mirror, the length it announced, the pieces of the file that came, and why
it did not come to its end, if it did not. -/
structure Transfer where
  mirror : String
  length : Option UInt64
  pieces : List Bytes
  failure : Option String

/-- How serving a request ends with a transfer. -/
def Transfer.outcome (x : Transfer) : Outcome :=
  match x.failure with
  | none => .relayed x.mirror
  | some cause => .interrupted (.server cause)

/-- The response of a transfer. -/
def Transfer.response (file : String) (x : Transfer) : Bytes :=
  headBytes ((fileHead (contentType file) x.length).map Bytes.ofText) ++ x.pieces.flatten

/-- What a mirror delivers in a transfer. -/
def Transfer.delivery (x : Transfer) : Delivery := .started x.length x.pieces x.failure

/-- Tries of mirrors at the given places, after the given calls: the places that are tried, each with its calls, and
the transfer that has been started, if one has. -/
inductive Tries {ι : Type} (m : Mirrors) (file : String) (name : ι → String) :
    List Call → List ι → List (ι × List Call) → Option Transfer → Prop where
  | done (before : List Call) : Tries m file name before [] [] none
  | noUrl {before : List Call} {i : ι} {rest : List ι} {tries : List (ι × List Call)} {x : Option Transfer}
    {p : MirrorProblem} (hurl : mirrorFileUrl (name i) file = .error p)
    (hrest : Tries m file name before rest tries x) : Tries m file name before (i :: rest) ((i, []) :: tries) x
  | unprobed {before : List Call} {i : ι} {rest : List ι} {tries : List (ι × List Call)} {x : Option Transfer}
    {url : Url} {cause : String} (hurl : mirrorFileUrl (name i) file = .ok url)
    (hprobe : m.probe before { url } = some cause)
    (hrest : Tries m file name (before ++ [.probe { url }]) rest tries x) :
    Tries m file name before (i :: rest) ((i, [.probe { url }]) :: tries) x
  | refused {before : List Call} {i : ι} {rest : List ι} {tries : List (ι × List Call)} {x : Option Transfer}
    {url : Url} {cause : String} (hurl : mirrorFileUrl (name i) file = .ok url)
    (hprobe : m.probe before { url } = none)
    (hfetch : m.fetch (before ++ [.probe { url }]) { url } = .refused cause)
    (hrest : Tries m file name (before ++ [.probe { url }, .fetch { url }]) rest tries x) :
    Tries m file name before (i :: rest) ((i, [.probe { url }, .fetch { url }]) :: tries) x
  | started {before : List Call} {i : ι} {rest : List ι} {url : Url} {x : Transfer}
    (hurl : mirrorFileUrl (name i) file = .ok url) (hprobe : m.probe before { url } = none)
    (hfetch : m.fetch (before ++ [.probe { url }]) { url } = x.delivery) (hmirror : x.mirror = name i) :
    Tries m file name before (i :: rest) [(i, [.probe { url }, .fetch { url }])] (some x)

/-- The calls of tries, in order. -/
def callsOf {ι : Type} (tries : List (ι × List Call)) : List Call := tries.flatMap Prod.snd

@[simp] theorem callsOf_nil {ι : Type} : callsOf ([] : List (ι × List Call)) = [] := rfl

@[simp] theorem callsOf_cons {ι : Type} (i : ι) (calls : List Call) (tries : List (ι × List Call)) :
    callsOf ((i, calls) :: tries) = calls ++ callsOf tries := rfl

/-! ## Transfers -/

theorem takePieces_sink (file : String) (r : Response) (pieces : List Bytes) (h : r.output.room = none)
    (hr : r.started = true) :
    (sink file).takePieces r pieces =
      (none, ⟨true, { r.output with written := r.output.written ++ pieces.flatten }⟩) := by
  induction pieces generalizing r with
  | nil =>
    obtain ⟨started, output⟩ := r
    obtain rfl : started = true := hr
    simp [Sink.takePieces]
  | cons piece rest ih =>
    obtain ⟨started, ⟨written, room⟩⟩ := r
    obtain rfl : room = none := h
    have hwrite : (sink file).data ⟨started, ⟨written, none⟩⟩ piece = (none, ⟨true, ⟨written ++ piece, none⟩⟩) := rfl
    rw [Sink.takePieces, hwrite]
    dsimp only
    rw [ih _ rfl rfl, List.flatten_cons, List.append_assoc]

/-- A delivery that has been started leaves its header and its pieces in the output, and fails only if the mirror
does. -/
theorem take_sink_started (file : String) (written : Bytes) (x : Transfer) :
    (sink file).take { output := { written } } x.delivery =
      (x.failure.map .server, ⟨true, { written := written ++ x.response file }⟩) := by
  have hheader : (sink file).header { output := { written } } x.length =
      (none, ⟨true, { written := written ++ Bytes.ofText (fileHeader (contentType file) x.length) }⟩) := rfl
  rw [Transfer.delivery, Sink.take, hheader]
  dsimp only
  rw [takePieces_sink file _ _ rfl rfl, ofText_fileHeader]
  dsimp only
  rw [List.append_assoc, ← Transfer.response]
  cases x.failure <;> rfl

/-- What comes of mirrors whose tries are known. -/
def servedBy (file : String) (written : Bytes) (calls : List Call) : Option Transfer → Served
  | none => answer .badGateway "no mirror could deliver the file" { written } calls
  | some x => ⟨x.outcome, { written := written ++ x.response file }, calls⟩

/-- Mirrors are tried at their places until one has started to deliver the file, and nothing is written before. -/
theorem tryMirrors_eq {ι : Type} (m : Mirrors) (file : String) (name : ι → String) (written : Bytes)
    (before : List Call) (places : List ι) :
    ∃ tries x, Tries m file name before places tries x ∧
      tryMirrors m file { written } before (places.map name) =
        servedBy file written (before ++ callsOf tries) x := by
  induction places generalizing before with
  | nil => exact ⟨[], none, .done before, by simp [tryMirrors, servedBy]⟩
  | cons i rest ih =>
    rw [List.map_cons, tryMirrors]
    cases hurl : mirrorFileUrl (name i) file with
    | error p =>
      obtain ⟨tries, x, htries, heq⟩ := ih before
      exact ⟨_, x, .noUrl hurl htries, heq⟩
    | ok url =>
      dsimp only
      cases hprobe : m.probe before { url } with
      | some cause =>
        obtain ⟨tries, x, htries, heq⟩ := ih (before ++ [.probe { url }])
        refine ⟨_, x, .unprobed hurl hprobe htries, ?_⟩
        rw [callsOf_cons, ← List.append_assoc]
        exact heq
      | none =>
        have hboth : before ++ [.probe { url }] ++ [.fetch { url }] =
            before ++ [.probe { url }, .fetch { url }] := by
          simp
        dsimp only
        rw [hboth]
        cases hfetch : m.fetch (before ++ [.probe { url }]) { url } with
        | refused cause =>
          -- The sink has not been called, so the next mirror finds the output as it was.
          obtain ⟨tries, x, htries, heq⟩ := ih (before ++ [.probe { url }, .fetch { url }])
          refine ⟨_, x, .refused hurl hprobe hfetch htries, ?_⟩
          rw [callsOf_cons, ← List.append_assoc]
          exact heq
        | started length pieces failure =>
          refine ⟨_, some ⟨name i, length, pieces, failure⟩, .started hurl hprobe hfetch rfl, ?_⟩
          rw [callsOf_cons, callsOf_nil, List.append_nil]
          have htake := take_sink_started file written ⟨name i, length, pieces, failure⟩
          rw [Transfer.delivery] at htake
          rw [htake]
          cases failure <;> rfl

/-! ## Calls -/

section
variable {ι : Type} {m : Mirrors} {file : String} {name : ι → String} {before : List Call} {places : List ι}
  {tries : List (ι × List Call)} {x : Option Transfer}

/-- Places are tried in their order. -/
theorem Tries.places_prefix (h : Tries m file name before places tries x) : tries.map Prod.fst <+: places := by
  induction h with
  | done => exact List.prefix_rfl
  | noUrl _ _ ih => exact (List.prefix_cons_inj _).mpr ih
  | unprobed _ _ _ ih => exact (List.prefix_cons_inj _).mpr ih
  | refused _ _ _ _ ih => exact (List.prefix_cons_inj _).mpr ih
  | started => exact ⟨_, rfl⟩

/-- A mirror with this name is not called at all, or it is asked whether it has the file, and then perhaps for the
file. -/
def Called (file mirror : String) (calls : List Call) : Prop :=
  calls = [] ∨ ∃ url, mirrorFileUrl mirror file = .ok url ∧
    (calls = [.probe { url }] ∨ calls = [.probe { url }, .fetch { url }])

theorem Tries.called (h : Tries m file name before places tries x) : ∀ a ∈ tries, Called file (name a.1) a.2 := by
  induction h with
  | done => exact List.forall_mem_nil _
  | noUrl _ _ ih => exact List.forall_mem_cons.mpr ⟨.inl rfl, ih⟩
  | unprobed hurl _ _ ih => exact List.forall_mem_cons.mpr ⟨.inr ⟨_, hurl, .inl rfl⟩, ih⟩
  | refused hurl _ _ _ ih => exact List.forall_mem_cons.mpr ⟨.inr ⟨_, hurl, .inr rfl⟩, ih⟩
  | started hurl => exact List.forall_mem_singleton.mpr (.inr ⟨_, hurl, .inr rfl⟩)

/-- In these calls a file is fetched right after its own probe has succeeded, and only the last call may start a
transfer. -/
def Orderly (m : Mirrors) (before calls : List Call) (x : Option Transfer) : Prop :=
  ∀ front rest e, calls = front ++ .fetch e :: rest →
    (∃ front', front = front' ++ [.probe e] ∧ m.probe (before ++ front') e = none) ∧
      ((∃ cause, m.fetch (before ++ front) e = .refused cause) ∨ rest = [] ∧ x ≠ none)

theorem orderly_probe (e : Endpoint) : Orderly m before [.probe e] none := by
  intro front rest e' hcalls
  cases front with
  | nil => cases hcalls
  | cons c front =>
    obtain ⟨-, htail⟩ := List.cons.inj hcalls
    simp at htail

theorem orderly_fetch {e : Endpoint} (hprobe : m.probe before e = none)
    (hfetch : (∃ cause, m.fetch (before ++ [.probe e]) e = .refused cause) ∨ x ≠ none) :
    Orderly m before [.probe e, .fetch e] x := by
  intro front rest e' hcalls
  match front with
  | [] => cases hcalls
  | [c] =>
    cases hcalls
    exact ⟨⟨[], rfl, by simpa using hprobe⟩, hfetch.imp_right fun h => ⟨rfl, h⟩⟩
  | c :: c' :: front => simp at hcalls

/-- A mirror that has started no transfer can be followed by others. -/
theorem Orderly.append {own calls : List Call} (h : Orderly m before own none)
    (h' : Orderly m (before ++ own) calls x) : Orderly m before (own ++ calls) x := by
  intro front rest e hcalls
  rcases List.append_eq_append_iff.mp hcalls with ⟨front', rfl, hlater⟩ | ⟨own', rfl, hown⟩
  · -- The fetch comes later, and so does its probe.
    obtain ⟨⟨front'', rfl, hprobe⟩, hlast⟩ := h' _ _ _ hlater
    refine ⟨⟨own ++ front'', by rw [List.append_assoc], ?_⟩, ?_⟩
    · rwa [← List.append_assoc]
    · rwa [← List.append_assoc]
  · cases own' with
    | nil =>
      obtain ⟨⟨front', hnil, -⟩, -⟩ := h' [] _ _ hown.symm
      simp at hnil
    | cons c own' =>
      obtain ⟨rfl, -⟩ := List.cons.inj hown
      obtain ⟨hprobed, hlast⟩ := h _ _ _ rfl
      exact ⟨hprobed, .inl (hlast.resolve_right fun hx => hx.2 rfl)⟩

theorem Tries.orderly (h : Tries m file name before places tries x) : Orderly m before (callsOf tries) x := by
  induction h with
  | done =>
    intro front rest e hcalls
    simp at hcalls
  | noUrl _ _ ih => exact ih
  | unprobed _ _ _ ih => exact (orderly_probe _).append ih
  | refused _ hprobe hfetch _ ih => exact (orderly_fetch hprobe (.inl ⟨_, hfetch⟩)).append ih
  | started _ hprobe => exact orderly_fetch hprobe (.inr (by simp))

/-- A transfer that has been started comes from the last calls. -/
theorem Tries.exists_transfer {x : Transfer} (h : Tries m file name before places tries (some x)) :
    ∃ i ∈ places, ∃ url front, x.mirror = name i ∧ mirrorFileUrl x.mirror file = .ok url ∧
      callsOf tries = front ++ [.probe { url }, .fetch { url }] ∧
      m.fetch (before ++ front ++ [.probe { url }]) { url } = x.delivery := by
  generalize hx : some x = y at h
  induction h with
  | done => cases hx
  | @noUrl _ _ _ _ _ _ _ _ ih =>
    obtain ⟨i, hi, url, front, hname, hurl, hcalls, hfetch⟩ := ih hx
    exact ⟨i, List.mem_cons_of_mem _ hi, url, front, hname, hurl, hcalls, hfetch⟩
  | @unprobed _ _ _ _ _ own _ _ _ _ ih =>
    obtain ⟨i, hi, url, front, hname, hurl, hcalls, hfetch⟩ := ih hx
    refine ⟨i, List.mem_cons_of_mem _ hi, url, .probe { url := own } :: front, hname, hurl, ?_, ?_⟩
    · rw [callsOf_cons, hcalls]
      rfl
    · simpa using hfetch
  | @refused _ _ _ _ _ own _ _ _ _ _ ih =>
    obtain ⟨i, hi, url, front, hname, hurl, hcalls, hfetch⟩ := ih hx
    refine ⟨i, List.mem_cons_of_mem _ hi, url, .probe { url := own } :: .fetch { url := own } :: front, hname, hurl,
      ?_, ?_⟩
    · rw [callsOf_cons, hcalls]
      rfl
    · simpa using hfetch
  | @started _ i _ url _ hurl _ hfetch hmirror =>
    obtain rfl := Option.some.inj hx
    exact ⟨i, List.mem_cons_self, url, [], hmirror, hmirror ▸ hurl, rfl, by simpa using hfetch⟩

end

end MeshFirmware.Relay
