import Mathlib.Data.List.FinRange
import Mathlib.Data.List.Perm.Basic
import MeshFirmware.Proofs.Relay.Tries
import MeshFirmware.Relay.Shuffle

/-!
# One response for each request

Whatever a query says and however mirrors fail, the relay writes one response: a message, or the file as one mirror
delivered it (`one_response`). It tries each place of the list of mirrors at most once, in any order.
-/

namespace MeshFirmware.Relay

/-! ## Orders -/

section
variable {α : Type}

theorem perm_exchange (i j : Nat) (xs : List α) : (exchange i j xs).Perm xs := by
  unfold exchange
  split
  next a b ha hb =>
    obtain ⟨hi, rfl⟩ := List.getElem?_eq_some_iff.mp ha
    obtain ⟨hj, rfl⟩ := List.getElem?_eq_some_iff.mp hb
    exact List.set_set_perm hi hj
  next => exact .refl xs

/-- A random order has the same items. -/
theorem perm_shuffle (pick : Pick) (xs : List α) : (shuffle pick xs).Perm xs := by
  have go (i : Nat) (ys : List α) : (shuffleFrom pick i ys).Perm ys := by
    induction i generalizing ys with
    | zero => exact .refl ys
    | succ i ih => exact (ih _).trans (perm_exchange _ _ ys)
  exact go ..

/-- Another order of a list is an order of its places. -/
theorem exists_places {xs ys : List α} (h : ys.Perm xs) :
    ∃ places : List (Fin xs.length), places.Perm (List.finRange xs.length) ∧ ys = places.map xs.get := by
  have hget : ys.Perm ((List.finRange xs.length).map xs.get) := by
    rwa [List.map_get_finRange]
  have hcomp : Relation.Comp (· = List.map xs.get ·) List.Perm ys (List.finRange xs.length) := by
    rwa [List.eq_map_comp_perm]
  obtain ⟨places, heq, hperm⟩ := hcomp
  exact ⟨places, hperm, heq⟩

end

/-! ## Responses -/

/-- What has been written is one response, with this header and this body, and a reader finds them. -/
def IsResponse (written : Bytes) (head : List String) (body : Bytes) : Prop :=
  written = headBytes (head.map Bytes.ofText) ++ body ∧
    readHead [] written = some (head.map Bytes.ofText, body)

theorem isResponse_message (status : Status) (message : String) :
    IsResponse (Bytes.ofText (messageResponse status message)) (messageHead status)
      (Bytes.ofText (message ++ "\n")) := by
  have heq := ofText_messageResponse status message
  refine ⟨heq, ?_⟩
  rw [heq]
  exact readHead_headBytes (isHeadLine_messageHead status) _

theorem Transfer.isResponse (file : String) (x : Transfer) :
    IsResponse (x.response file) (fileHead (contentType file) x.length) x.pieces.flatten :=
  ⟨rfl, readHead_headBytes (isHeadLine_fileHead file x.length) _⟩

/-! ## Requests -/

/-- A query asks for a file of a branch with these mirrors. -/
def Wanted (c : Config) (query : Option String) (request : Request) (mirrors : List String) : Prop :=
  ∃ q, query = some q ∧ Request.read q = .ok request ∧ mirrorsOf? c request.branch = some mirrors

/-- The calls for a file, made to mirrors that are tried in some order. -/
structure Asked (m : Mirrors) (file : String) (mirrors : List String) (calls : List Call) : Prop where
  /-- No place is tried twice. -/
  tried : ∃ tries : List (Fin mirrors.length × List Call), (tries.map Prod.fst).Nodup ∧ calls = callsOf tries ∧
    ∀ a ∈ tries, Called file (mirrors.get a.1) a.2
  /-- A file is fetched right after its own probe has succeeded. -/
  probed : ∀ {front rest e}, calls = front ++ .fetch e :: rest →
    ∃ front', front = front' ++ [.probe e] ∧ m.probe front' e = none
  /-- Nothing is called after a transfer that has been started. -/
  last : ∀ {front rest e}, calls = front ++ .fetch e :: rest →
    (∃ cause, m.fetch front e = .refused cause) ∨ rest = []

theorem Tries.asked {m : Mirrors} {file : String} {mirrors : List String} {places : List (Fin mirrors.length)}
    {tries : List (Fin mirrors.length × List Call)} {x : Option Transfer}
    (h : Tries m file mirrors.get [] places tries x) (hplaces : places.Nodup) :
    Asked m file mirrors (callsOf tries) where
  tried := ⟨tries, hplaces.sublist h.places_prefix.sublist, rfl, h.called⟩
  probed hcalls := (h.orderly _ _ _ hcalls).1
  last hcalls := (h.orderly _ _ _ hcalls).2.imp_right And.left

/-- A request is answered with this status before any mirror is asked: another transfer is in progress, or the query
does not say what to ask for. -/
def Unasked (c : Config) (admission : Admission) (query : Option String) (status : Status) : Prop :=
  (admission = .busy ∧ status = .unavailable) ∨
    (admission ≠ .busy ∧ (∀ request mirrors, ¬ Wanted c query request mirrors) ∧ status = .badRequest)

/-- The response of a request, and the calls for it. -/
inductive Answers (c : Config) (m : Mirrors) (admission : Admission) (query : Option String)
    (r : Served) : Prop where
  /-- No mirror is asked. -/
  | unasked {status : Status} {message : String} (hunasked : Unasked c admission query status)
    (hcalls : r.calls = []) (houtcome : r.outcome = .failed status)
    (hwritten : IsResponse r.output.written (messageHead status) (Bytes.ofText (message ++ "\n")))
  /-- No mirror has started to deliver the file. -/
  | undelivered {request : Request} {mirrors : List String} (hadmitted : admission ≠ .busy)
    (hwanted : Wanted c query request mirrors) (hasked : Asked m request.file mirrors r.calls)
    (hrefused : ∀ {front rest e}, r.calls = front ++ .fetch e :: rest → ∃ cause, m.fetch front e = .refused cause)
    (houtcome : r.outcome = .failed .badGateway)
    (hwritten : IsResponse r.output.written (messageHead .badGateway)
      (Bytes.ofText ("no mirror could deliver the file" ++ "\n")))
  /-- The last calls are for a transfer that has been started, and all of it and nothing else is in the response. -/
  | delivered {request : Request} {mirrors : List String} (hadmitted : admission ≠ .busy)
    (hwanted : Wanted c query request mirrors) (hasked : Asked m request.file mirrors r.calls)
    {x : Transfer} (hmirror : x.mirror ∈ mirrors) {url : Url}
    (hurl : mirrorFileUrl x.mirror request.file = .ok url) {front : List Call}
    (hcalls : r.calls = front ++ [.probe { url }, .fetch { url }])
    (hfetch : m.fetch (front ++ [.probe { url }]) { url } = .started x.length x.pieces x.failure)
    (houtcome : r.outcome = x.outcome) (htype : contentType request.file ∈ contentTypes)
    (hwritten : IsResponse r.output.written (fileHead (contentType request.file) x.length) x.pieces.flatten)

/-- A request is answered with a message before any mirror is asked, or its mirrors are tried. -/
theorem serve_cases (c : Config) (m : Mirrors) (shuffle : List String → List String) (admission : Admission)
    (query : Option String) (output : Output) :
    (∃ status message, Unasked c admission query status ∧
      serve c m shuffle admission query output = answer status message output []) ∨
    ∃ request mirrors, admission ≠ .busy ∧ Wanted c query request mirrors ∧
      serve c m shuffle admission query output = tryMirrors m request.file output [] (shuffle mirrors) := by
  unfold serve
  split
  · exact .inl ⟨_, _, .inl ⟨rfl, rfl⟩, rfl⟩
  next hbusy =>
    split
    · refine .inl ⟨_, _, .inr ⟨hbusy, ?_, rfl⟩, rfl⟩
      rintro request mirrors ⟨q, hq, -⟩
      cases hq
    next q =>
      split
      next hread =>
        refine .inl ⟨_, _, .inr ⟨hbusy, ?_, rfl⟩, rfl⟩
        rintro request mirrors ⟨q', hq, hread', -⟩
        obtain rfl := Option.some.inj hq
        rw [hread] at hread'
        cases hread'
      next request hread =>
        split
        next hunknown =>
          refine .inl ⟨_, _, .inr ⟨hbusy, ?_, rfl⟩, rfl⟩
          rintro request' mirrors ⟨q', hq, hread', hmirrors⟩
          obtain rfl := Option.some.inj hq
          rw [hread] at hread'
          obtain rfl := Except.ok.inj hread'
          rw [hunknown] at hmirrors
          cases hmirrors
        next mirrors hmirrors => exact .inr ⟨request, mirrors, hbusy, ⟨q, rfl, hread, hmirrors⟩, rfl⟩

/-- A request has one response, whatever its query is and whatever mirrors do. -/
theorem one_response (c : Config) (m : Mirrors) {shuffle : List String → List String}
    (hshuffle : ∀ mirrors, (shuffle mirrors).Perm mirrors) (admission : Admission) (query : Option String) :
    Answers c m admission query (serve c m shuffle admission query {}) := by
  rcases serve_cases c m shuffle admission query {} with
    ⟨status, message, hunasked, heq⟩ | ⟨request, mirrors, hadmitted, hwanted, heq⟩
  · rw [heq]
    exact .unasked hunasked rfl rfl (isResponse_message status message)
  · obtain ⟨places, hplaces, hnames⟩ := exists_places (hshuffle mirrors)
    obtain ⟨tries, x, htries, hserved⟩ := tryMirrors_eq m request.file mirrors.get [] [] places
    have hasked := htries.asked (hplaces.nodup_iff.mpr (List.nodup_finRange _))
    rw [List.nil_append] at hserved
    rw [heq, hnames, hserved]
    cases x with
    | none =>
      refine .undelivered hadmitted hwanted hasked ?_ rfl (isResponse_message .badGateway _)
      intro front rest e hcalls
      exact (htries.orderly _ _ _ hcalls).2.resolve_right fun h => h.2 rfl
    | some x =>
      obtain ⟨i, -, url, front, hname, hurl, hcalls, hfetch⟩ := htries.exists_transfer
      have hmirror : x.mirror ∈ mirrors := by
        rw [hname]
        exact List.get_mem ..
      exact .delivered hadmitted hwanted hasked hmirror hurl hcalls hfetch rfl (contentType_mem _) (x.isResponse _)

/-- A configuration with one branch. One of its mirrors is no URL. -/
def relayConfig : Config where
  branches := NameTable.empty.insert "stable"
    { name := "stable", mirrors := ["http://[fd00::2]", "nowhere", "http://[fd00::1]"] }

/-- Mirrors of which the first that is asked for a file has lost it, and the second breaks off. -/
def fickleMirrors : Mirrors where
  probe _ _ := none
  fetch calls _ := if calls.length < 2 then .refused "404" else .started (some 4) [[1], [2, 3]] (some "reset")

/-- The second mirror that is asked breaks off, and the response is what it has delivered. -/
theorem one_response_broken_off :
    let query := some "branch=stable&file=a.bin"
    let r := serve relayConfig fickleMirrors (shuffle fun _ => 0) .locked query {}
    (∀ mirrors : List String, (shuffle (fun _ => 0) mirrors).Perm mirrors) ∧
      r.outcome = .interrupted (.server "reset") ∧ r.calls.length = 4 ∧
      Answers relayConfig fickleMirrors .locked query r := by
  intro query r
  have hshuffle : ∀ mirrors : List String, (shuffle (fun _ => 0) mirrors).Perm mirrors := perm_shuffle _
  have hrun : r.outcome = .interrupted (.server "reset") ∧ r.calls.length = 4 := by decide +kernel
  exact ⟨hshuffle, hrun.1, hrun.2, one_response relayConfig fickleMirrors hshuffle .locked query⟩

end MeshFirmware.Relay
