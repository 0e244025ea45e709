import MeshFirmware.Proofs.Discovery.Listening
import MeshFirmware.Proofs.Neighbour.Round

/-!
# Junk among the answers

An answer that is junk leaves what a round has gathered as it is, whatever came before it. Junk that takes no time can
be put in anywhere on any of the sockets of a round, and the round stays the same: what is asked, what fails, what is
found and what the judge is asked (`junk_suppresses_nobody`). No request of a round ends at the will of its handler.
-/

namespace MeshFirmware.Neighbour
open Discovery

variable {α τ : Type}

/-- An answer on an unknown interface, or one that is not a strict JSON text with a text as its node id. -/
def IsJunk (r : Response) : Prop :=
  r.index = 0 ∨ ∀ v, Json.Value.read? r.data = some v → ∀ id, v.get? "node_id" ≠ some (.text id)

theorem nodeId?_eq_some {v : Json.Value} {id : String} : nodeId? v = some id ↔ v.get? "node_id" = some (.text id) := by
  rw [nodeId?, Option.bind_eq_some_iff]
  constructor
  · rintro ⟨w, hw, hid⟩
    cases w with
    | text s =>
      obtain rfl := Option.some.inj hid
      exact hw
    | _ => cases hid
  · exact fun h => ⟨.text id, h, rfl⟩

theorem isJunk_iff (r : Response) : IsJunk r ↔ r.index = 0 ∨ (Json.Value.read? r.data).bind nodeId? = none := by
  rw [IsJunk, Option.bind_eq_none_iff]
  simp only [Option.eq_none_iff_forall_ne_some, ne_eq, nodeId?_eq_some]

instance (r : Response) : Decidable (IsJunk r) := decidable_of_iff _ (isJunk_iff r).symm

/-- Junk never reaches the judge, and takes no place of a node. -/
theorem accept_of_isJunk {r : Response} (h : IsJunk r) (judge : Judge τ α) (i : Interface) (g : Gathering τ α) :
    accept judge i g r = g := by
  obtain hindex | hid := (isJunk_iff r).mp h
  · rw [accept, if_pos (beq_iff_eq.mpr hindex)]
  · unfold accept
    split
    · rfl
    · cases hread : Json.Value.read? r.data with
      | none => rfl
      | some v =>
        rw [hread, Option.bind_some] at hid
        simp only [hid]

/-- A wait that takes no time and brings junk that there is room for. -/
def JunkWait (w : Wait) : Prop := w.duration = 0 ∧ ∃ r, w.response? = some r ∧ IsJunk r

/-! ## Sockets with scripts -/

/-- What happens on a socket: how a question is sent, and what is received. -/
structure Script where
  sending : Sending := {}
  waits : List Wait

/-- The scripts of the sockets of a round, for each question and those that were asked before. -/
abbrev Scripts := List Query → Query → Script

/-- The answers to questions that are asked on these sockets. -/
def Scripts.air (scripts : Scripts) : Air := fun asked query =>
  converse (scripts asked query).sending (scripts asked query).waits query.budget

/-- The second scripts are the first ones, with junk put in anywhere. -/
def Littered (scripts littered : Scripts) : Prop :=
  ∀ asked query, (littered asked query).sending = (scripts asked query).sending ∧
    WithExtra JunkWait (scripts asked query).waits (littered asked query).waits

section
variable {scripts littered : Scripts} (h : Littered scripts littered)
include h

/-- The conversations on littered sockets end like those on clean ones, and bring a handler to the same state. -/
theorem air_of_littered (asked : List Query) (query : Query) (judge : Judge τ α) (i : Interface) (g : Gathering τ α) :
    (littered.air asked query).ending = (scripts.air asked query).ending ∧
      (littered.air asked query).responses.foldl (accept judge i) g =
        (scripts.air asked query).responses.foldl (accept judge i) g := by
  obtain ⟨hsending, hwaits⟩ := h asked query
  have hquiet (w : Wait) (hw : JunkWait w) :
      w.duration = 0 ∧ ∃ r, w.response? = some r ∧ ∀ g, accept judge i g r = g := by
    obtain ⟨hinstant, r, hr, hjunk⟩ := hw
    exact ⟨hinstant, r, hr, accept_of_isJunk hjunk judge i⟩
  obtain ⟨hending, hstate⟩ := request_of_withExtra hquiet hwaits (scripts asked query).sending query.budget g
  obtain ⟨hclean, hcleanState⟩ := request_onward (scripts asked query).sending (scripts asked query).waits
    query.budget (accept judge i) g
  obtain ⟨hnoisy, hnoisyState⟩ := request_onward (scripts asked query).sending (littered asked query).waits
    query.budget (accept judge i) g
  rw [Scripts.air, Scripts.air, hsending]
  exact ⟨hnoisy.symm.trans (hending.trans hclean), hnoisyState.symm.trans (hstate.trans hcleanState)⟩

theorem askOn_of_littered (search : Search) (judge : Judge τ α) :
    askOn littered.air search judge = askOn scripts.air search judge := by
  funext r i
  obtain ⟨hending, hgathered⟩ := air_of_littered h r.asked (search.query i) judge i r.gathering
  simp only [askOn, hending, hgathered]

theorem askAll_of_littered (search : Search) (judge : Judge τ α) (state : τ) (is : List Interface) :
    askAll littered.air search judge state is = askAll scripts.air search judge state is := by
  rw [askAll, askAll, askOn_of_littered h]

end

/-! ## The calls of a judge -/

/-- A judge that also keeps what it is asked. -/
def recording (judge : Judge τ α) : Judge (τ × List (Json.Value × Neighbour α)) α := fun state v n =>
  ((judge state.1 v n).1, (judge state.1 v n).2, state.2 ++ [(v, n)])

/-- What the judge is asked in a round, in order. -/
def calls (air : Air) (search : Search) (judge : Judge τ α) (state : τ) (is : List Interface) :
    List (Json.Value × Neighbour α) :=
  (askAll air search (recording judge) (state, []) is).gathering.state.2

/-- A gathering without what a judge kept beside its state. -/
def Gathering.plain {κ : Type} (g : Gathering (τ × κ) α) : Gathering τ α := ⟨g.found, g.seen, g.state.1⟩

theorem accept_plain (judge : Judge τ α) (i : Interface) (g : Gathering (τ × List (Json.Value × Neighbour α)) α)
    (r : Response) : accept judge i g.plain r = (accept (recording judge) i g r).plain := by
  unfold accept
  split
  · rfl
  · cases Json.Value.read? r.data with
    | none => rfl
    | some v =>
      dsimp only
      cases nodeId? v with
      | none => rfl
      | some id =>
        dsimp only
        by_cases hseen : g.seen.contains id = true
        · have hplain : g.plain.seen.contains id = true := hseen
          rw [if_pos hplain, if_pos hseen]
        · have hplain : ¬ g.plain.seen.contains id = true := hseen
          rw [if_neg hplain, if_neg hseen]
          dsimp only [Gathering.plain, recording]
          generalize judge g.state.1 v { nodeId := id, address := r.source, interface := i } = answer
          obtain ⟨⟨kept, n⟩, state⟩ := answer
          match kept with
          | .ok true => rfl
          | .ok false => rfl
          | .error cause => rfl

/-- Recording does not change a round. -/
theorem askAll_recording (air : Air) (search : Search) (judge : Judge τ α) (state : τ) (is : List Interface) :
    (askAll air search (recording judge) (state, []) is).asked = (askAll air search judge state is).asked ∧
      (askAll air search (recording judge) (state, []) is).failures = (askAll air search judge state is).failures ∧
      (askAll air search (recording judge) (state, []) is).gathering.plain =
        (askAll air search judge state is).gathering := by
  rw [askAll_eq, askAll_eq]
  refine ⟨rfl, rfl, ?_⟩
  exact (List.foldl_hom Gathering.plain fun g a => accept_plain judge a.1 g a.2).symm

/-- Junk among the answers, also on several sockets at once, changes nothing about a round: what it brings, why it
fails, and what the judge is asked. A request never ends at the will of its handler. Unless the question cannot be
sent, the handler is given each answer that is received before the time is used up, nothing more comes or receiving
fails. -/
theorem junk_suppresses_nobody {scripts littered : Scripts} (h : Littered scripts littered) (search : Search)
    (judge : Judge τ α) (state : τ) (is : List Interface) :
    collect littered.air search judge state is = collect scripts.air search judge state is ∧
      calls littered.air search judge state is = calls scripts.air search judge state is ∧
      askAll littered.air search judge state is = askAll scripts.air search judge state is ∧
      ∀ (script : Script) (budget : Nat) (i : Interface) (g : Gathering τ α),
        let done := request script.sending script.waits budget (some (handler judge i)) g
        let talk := converse script.sending script.waits budget
        done.ending = talk.ending ∧ done.state = talk.responses.foldl (accept judge i) g ∧
          done.ending ≠ .cancelled ∧ (∀ cause, done.ending ≠ .handlerFailed cause) ∧
          ((∃ cause, script.sending.failure = some cause ∧ talk = ⟨[], .transportFailed cause⟩) ∨
            script.sending.failure = none ∧ ∃ taken rest,
              Heard (budget - script.sending.taken) script.waits taken rest talk.responses talk.ending) := by
  refine ⟨?_, ?_, askAll_of_littered h search judge state is, ?_⟩
  · rw [collect, collect, askAll_of_littered h]
  · rw [calls, calls, askAll_of_littered h]
  · intro script budget i g done talk
    obtain ⟨hending, hstate⟩ := request_onward script.sending script.waits budget (accept judge i) g
    have hgoesOn := converse_goes_on script.sending script.waits budget
    refine ⟨hending, hstate, ?_, ?_, ?_⟩
    · intro hcancelled
      exact hgoesOn.1 (hending.symm.trans hcancelled)
    · intro cause hfailed
      exact hgoesOn.2 cause (hending.symm.trans hfailed)
    · cases hsending : script.sending.failure with
      | some cause => exact .inl ⟨cause, rfl, converse_of_unsent script.sending script.waits budget hsending⟩
      | none => exact .inr ⟨rfl, heard_converse script.sending script.waits budget hsending⟩

/-! ## A littered socket -/

def meshInterface : Interface := ⟨"mesh0", 3, true, "gluon_mesh"⟩

def meshSearch : Search := ⟨["gluon_mesh"], 1001, 2000000000⟩

/-- A judge that keeps every node, and counts them. -/
def keepingAll : Judge Nat Unit := fun count _ n => ((.ok true, n), count + 1)

/-- A wait that brings a text. -/
def waitFor (text : String) (index : UInt32) (waiting : Nat) : Wait where
  arrival := .datagram (Bytes.ofText text) (Bytes.ofText text).length allNodes index
  waiting

def nodeText : String := "\x7b\"node_id\":\"a\"\x7d"

def cleanScripts : Scripts := fun _ _ => { waits := [waitFor nodeText 3 500] }

/-- Junk of each kind around the answer of the node. -/
def litteredScripts : Scripts := fun _ _ =>
  { waits := [waitFor "\x7b\"node_id\":" 3 0, waitFor nodeText 0 0, waitFor nodeText 3 500,
      waitFor "\x7b\"node_id\":5\x7d" 3 0] }

theorem littered_litteredScripts : Littered cleanScripts litteredScripts := by
  intro asked query
  refine ⟨rfl, ?_⟩
  apply WithExtra.extra ⟨rfl, _, rfl, by decide +kernel⟩
  apply WithExtra.extra ⟨rfl, _, rfl, by decide +kernel⟩
  apply WithExtra.keep
  apply WithExtra.extra ⟨rfl, _, rfl, by decide +kernel⟩
  exact .nil

theorem junk_suppresses_nobody_on_mesh :
    Littered cleanScripts litteredScripts ∧
      collect litteredScripts.air meshSearch keepingAll 0 [meshInterface] =
        collect cleanScripts.air meshSearch keepingAll 0 [meshInterface] ∧
      calls litteredScripts.air meshSearch keepingAll 0 [meshInterface] =
        calls cleanScripts.air meshSearch keepingAll 0 [meshInterface] ∧
      (collect cleanScripts.air meshSearch keepingAll 0 [meshInterface]).toOption.map
        (fun ns => ns.map Neighbour.nodeId) = some ["a"] := by
  have h := junk_suppresses_nobody littered_litteredScripts meshSearch keepingAll 0 [meshInterface]
  exact ⟨littered_litteredScripts, h.1, h.2.1, by decide +kernel⟩

end MeshFirmware.Neighbour
