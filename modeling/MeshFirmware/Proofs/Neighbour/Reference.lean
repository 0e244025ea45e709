import Mathlib.Data.List.Forall2
import Mathlib.Data.List.Nodup
import MeshFirmware.Proofs.Neighbour.Junk

/-!
# What a round finds

Answers are taken one after the other, over all interfaces of a round. One that may be from a new neighbour goes to the
judge, and no other one does (`Gathers`). A round gathers what this relation says and nothing else
(`round_gathers_reference`): at each moment the ids that count as known are those of the neighbours found so far
(`gathers_foldl`), so a node that the judge has turned down may be found in a later answer.
-/

namespace MeshFirmware.Neighbour
open Discovery

variable {α τ : Type}

/-- The answer may be from a new neighbour: it came over an interface, and it is a JSON text with a node id that no
neighbour has which was found before. -/
structure IsNew (found : List (Neighbour α)) (r : Response) (v : Json.Value) (id : String) : Prop where
  index : r.index ≠ 0
  read : Json.Value.read? r.data = some v
  nodeId : v.get? "node_id" = some (.text id)
  unknown : id ∉ found.map Neighbour.nodeId

/-- The neighbour that such an answer is from, on the interface that was asked on. -/
def sender (i : Interface) (r : Response) (id : String) : Neighbour α :=
  { nodeId := id, address := r.source, interface := i }

/-- What comes of answers that arrive one after the other, from a state of the judge and the neighbours found so far:
what the judge is asked, and the neighbours found in the end. -/
inductive Gathers (judge : Judge τ α) : τ → List (Neighbour α) → List (Interface × Response) →
    List (Json.Value × Neighbour α) → List (Neighbour α) → Prop where
  | done {state found} : Gathers judge state found [] [] found
  | passed {state found i r rest asked out} (other : ∀ v id, ¬ IsNew found r v id)
    (later : Gathers judge state found rest asked out) : Gathers judge state found ((i, r) :: rest) asked out
  | rejected {state state' found i r rest asked out v id verdict n} (new : IsNew found r v id)
    (judged : judge state v (sender i r id) = ((verdict, n), state')) (against : verdict ≠ .ok true)
    (later : Gathers judge state' found rest asked out) :
    Gathers judge state found ((i, r) :: rest) ((v, sender i r id) :: asked) out
  | kept {state state' found i r rest asked out v id n} (new : IsNew found r v id)
    (judged : judge state v (sender i r id) = ((.ok true, n), state'))
    (later : Gathers judge state' (found ++ [n]) rest asked out) :
    Gathers judge state found ((i, r) :: rest) ((v, sender i r id) :: asked) out

/-! ## One answer -/

theorem IsNew.unique {found : List (Neighbour α)} {r : Response} {v w : Json.Value} {id id' : String}
    (h : IsNew found r v id) (h' : IsNew found r w id') : v = w ∧ id = id' := by
  obtain rfl : v = w := Option.some.inj (h.read.symm.trans h'.read)
  have hid := h.nodeId.symm.trans h'.nodeId
  simp only [Option.some.injEq, Json.Value.text.injEq] at hid
  exact ⟨rfl, hid⟩

/-- The ids that count as known are those of the neighbours found. -/
def Gathering.IsSettled (g : Gathering τ α) : Prop := g.seen = g.found.map nodeId

section
variable (judge : Judge τ α) (i : Interface) (r : Response)

/-- All that an answer can do. -/
theorem accept_cases {g : Gathering τ α} (hg : g.IsSettled) :
    ((∀ v id, ¬ IsNew g.found r v id) ∧ accept judge i g r = g) ∨
      ∃ v id verdict n state, IsNew g.found r v id ∧ judge g.state v (sender i r id) = ((verdict, n), state) ∧
        (verdict ≠ .ok true ∧ accept judge i g r = { g with state } ∨
          verdict = .ok true ∧ accept judge i g r = ⟨g.found ++ [n], g.seen ++ [n.nodeId], state⟩) := by
  unfold accept
  split
  · rename_i hindex
    exact .inl ⟨fun v id h => h.index (eq_of_beq hindex), rfl⟩
  rename_i hindex
  cases hread : Json.Value.read? r.data with
  | none =>
    left
    refine ⟨fun v id h => ?_, rfl⟩
    rw [h.read] at hread
    cases hread
  | some v =>
    dsimp only
    cases hid : nodeId? v with
    | none =>
      left
      refine ⟨fun w id h => ?_, rfl⟩
      obtain rfl : v = w := Option.some.inj (hread.symm.trans h.read)
      rw [nodeId?_eq_some.mpr h.nodeId] at hid
      cases hid
    | some id =>
      dsimp only
      by_cases hseen : g.seen.contains id = true
      · rw [if_pos hseen]
        left
        refine ⟨fun w id' h => ?_, rfl⟩
        obtain rfl : v = w := Option.some.inj (hread.symm.trans h.read)
        obtain rfl : id = id' := Option.some.inj (hid.symm.trans (nodeId?_eq_some.mpr h.nodeId))
        apply h.unknown
        rw [← hg]
        exact List.contains_iff_mem.mp hseen
      · rw [if_neg hseen]
        have hnew : IsNew g.found r v id := by
          refine ⟨fun h => hindex (beq_iff_eq.mpr h), hread, nodeId?_eq_some.mp hid, ?_⟩
          rw [← hg]
          exact fun hmem => hseen (List.contains_iff_mem.mpr hmem)
        right
        cases hjudge : judge g.state v (sender i r id) with
        | mk answer state =>
          obtain ⟨verdict, n⟩ := answer
          refine ⟨v, id, verdict, n, state, hnew, hjudge, ?_⟩
          rw [sender] at hjudge
          rw [hjudge]
          match verdict with
          | .ok true => exact .inr ⟨rfl, rfl⟩
          | .ok false => exact .inl ⟨nofun, rfl⟩
          | .error cause => exact .inl ⟨nofun, rfl⟩

theorem accept_settled {g : Gathering τ α} (hg : g.IsSettled) : (accept judge i g r).IsSettled := by
  obtain ⟨-, heq⟩ | ⟨v, id, verdict, n, state, -, -, ⟨-, heq⟩ | ⟨-, heq⟩⟩ := accept_cases judge i r hg
  · rwa [heq]
  · rw [heq]
    exact hg
  · rw [heq, Gathering.IsSettled, List.map_append, ← hg]
    rfl

end

/-! ## All answers -/

section
variable {judge : Judge τ α}

theorem Gathers.unique {state : τ} {found out out' : List (Neighbour α)} {answers : List (Interface × Response)}
    {asked asked' : List (Json.Value × Neighbour α)} (h : Gathers judge state found answers asked out)
    (h' : Gathers judge state found answers asked' out') : asked = asked' ∧ out = out' := by
  induction h generalizing asked' out' with
  | done =>
    cases h'
    exact ⟨rfl, rfl⟩
  | passed other later ih =>
    cases h' with
    | passed _ later' => exact ih later'
    | rejected new _ _ _ => exact absurd new (other _ _)
    | kept new _ _ => exact absurd new (other _ _)
  | rejected new judged against later ih =>
    cases h' with
    | passed other' _ => exact absurd new (other' _ _)
    | rejected new' judged' _ later' =>
      obtain ⟨rfl, rfl⟩ := new.unique new'
      rw [judged] at judged'
      cases judged'
      obtain ⟨rfl, rfl⟩ := ih later'
      exact ⟨rfl, rfl⟩
    | kept new' judged' _ =>
      obtain ⟨rfl, rfl⟩ := new.unique new'
      rw [judged] at judged'
      cases judged'
      exact absurd rfl against
  | kept new judged later ih =>
    cases h' with
    | passed other' _ => exact absurd new (other' _ _)
    | rejected new' judged' against' _ =>
      obtain ⟨rfl, rfl⟩ := new.unique new'
      rw [judged] at judged'
      cases judged'
      exact absurd rfl against'
    | kept new' judged' later' =>
      obtain ⟨rfl, rfl⟩ := new.unique new'
      rw [judged] at judged'
      cases judged'
      obtain ⟨rfl, rfl⟩ := ih later'
      exact ⟨rfl, rfl⟩

variable (judge) in
theorem gathers_foldl (answers : List (Interface × Response))
    {g : Gathering (τ × List (Json.Value × Neighbour α)) α} (hg : g.IsSettled) :
    let after := answers.foldl (fun g a => accept (recording judge) a.1 g a.2) g
    after.IsSettled ∧ ∃ asked, after.state.2 = g.state.2 ++ asked ∧
      Gathers judge g.state.1 g.found answers asked after.found := by
  induction answers generalizing g with
  | nil => exact ⟨hg, [], (List.append_nil _).symm, .done⟩
  | cons answer rest ih =>
    obtain ⟨i, r⟩ := answer
    obtain ⟨hsettled, asked, hstate, hrest⟩ := ih (accept_settled (recording judge) i r hg)
    refine ⟨hsettled, ?_⟩
    rw [List.foldl_cons]
    obtain ⟨hother, heq⟩ | ⟨v, id, verdict, n, state, hnew, hjudge, hcases⟩ := accept_cases (recording judge) i r hg
    · rw [heq] at hstate hrest ⊢
      exact ⟨asked, hstate, .passed hother hrest⟩
    · -- The judge that records asks the judge itself.
      obtain ⟨hanswer, hafter⟩ := Prod.mk.inj hjudge
      have hjudged : judge g.state.1 v (sender i r id) = ((verdict, n), state.1) :=
        Prod.ext hanswer (congrArg Prod.fst hafter)
      have hrecorded : g.state.2 ++ [(v, sender i r id)] = state.2 := congrArg Prod.snd hafter
      refine ⟨(v, sender i r id) :: asked, ?_, ?_⟩
      · obtain ⟨-, heq⟩ | ⟨-, heq⟩ := hcases
        all_goals
          rw [heq] at hstate
          rw [heq, hstate, ← hrecorded, List.append_assoc]
          rfl
      · obtain ⟨hagainst, heq⟩ | ⟨rfl, heq⟩ := hcases
        · rw [heq] at hrest ⊢
          exact .rejected hnew hjudged hagainst hrest
        · rw [heq] at hrest ⊢
          exact .kept hnew hjudged hrest

/-! ## Judges that keep the sender -/

/-- The judge changes nothing about a neighbour but its payload. -/
def FillsPayload (judge : Judge τ α) : Prop := ∀ state v n, ∃ payload, (judge state v n).1.2 = { n with payload }

/-- The neighbour is the sender of an answer to a question on an interface. -/
structure IsSender (n : Neighbour α) (answer : Interface × Response) : Prop where
  interface : n.interface = answer.1
  address : n.address = answer.2.source
  nodeId : ∃ v, Json.Value.read? answer.2.data = some v ∧ v.get? "node_id" = some (.text n.nodeId)

theorem Gathers.exists_senders {state : τ} {found out : List (Neighbour α)} {answers : List (Interface × Response)}
    {asked : List (Json.Value × Neighbour α)} (h : Gathers judge state found answers asked out)
    (hjudge : FillsPayload judge) : ∃ new picked, out = found ++ new ∧ picked.Sublist answers ∧
      List.Forall₂ IsSender new picked ∧ ((found.map nodeId).Nodup → (out.map nodeId).Nodup) := by
  induction h with
  | done => exact ⟨[], [], (List.append_nil _).symm, .slnil, .nil, id⟩
  | passed _ _ ih =>
    obtain ⟨new, picked, hout, hpicked, hsenders, hnodup⟩ := ih
    exact ⟨new, picked, hout, hpicked.cons _, hsenders, hnodup⟩
  | rejected _ _ _ _ ih =>
    obtain ⟨new, picked, hout, hpicked, hsenders, hnodup⟩ := ih
    exact ⟨new, picked, hout, hpicked.cons _, hsenders, hnodup⟩
  | @kept state state' found i r rest asked out v id n hnew hjudged _ ih =>
    obtain ⟨new, picked, hout, hpicked, hsenders, hnodup⟩ := ih
    obtain ⟨payload, hpayload⟩ := hjudge state v (sender i r id)
    rw [hjudged] at hpayload
    have hn : n = { (sender i r id : Neighbour α) with payload := payload } := hpayload
    subst hn
    refine ⟨_ :: new, (i, r) :: picked, by rw [hout, List.append_assoc]; rfl, hpicked.cons_cons _,
      .cons ⟨rfl, rfl, v, hnew.read, hnew.nodeId⟩ hsenders, ?_⟩
    intro hfound
    apply hnodup
    rw [List.map_append, List.map_singleton, ← List.concat_eq_append]
    exact List.Nodup.concat hnew.unknown hfound

end

/-! ## Rounds -/

section
variable (air : Air) (search : Search) (judge : Judge τ α) (state : τ) (is : List Interface)

/-- A round in which every request fails has the failure of the last one. -/
theorem result_of_allFailed (h : AllFailed (talks air search [] is)) :
    ∃ talk f, (talks air search [] is).getLast? = some talk ∧ failureOf? talk = some f ∧
      collect air search judge state is = .error f := by
  have hlength := ((allFailed_iff _).mp h).2
  have hasked := length_talks air search [] is
  rw [collect, askAll_eq, Round.result]
  dsimp only
  rw [List.length_map, ← hasked]
  generalize talks air search [] is = ts at h hlength
  obtain ⟨ts, talk, rfl⟩ : ∃ front talk, ts = front ++ [talk] := ⟨_, _, (List.dropLast_concat_getLast h.1).symm⟩
  have hfailed : (failureOf? talk).isSome = true := by
    rw [isSome_failureOf?]
    exact h.2 talk (List.mem_append_right _ (List.mem_singleton_self talk))
  obtain ⟨f, hf⟩ := Option.isSome_iff_exists.mp hfailed
  have hlast : ((ts ++ [talk]).filterMap failureOf?).getLast? = some f := by
    rw [List.filterMap_append, List.filterMap_cons_some hf, List.filterMap_nil, List.getLast?_concat]
  refine ⟨talk, f, List.getLast?_concat, hf, ?_⟩
  rw [hlast]
  exact if_pos hlength

/-- What a round gathers from its answers. -/
theorem gathers_askAll :
    (askAll air search judge state is).gathering.IsSettled ∧
      Gathers judge state [] (arrivals (talks air search [] is)) (calls air search judge state is)
        (askAll air search judge state is).gathering.found := by
  have hstart : ({ state := (state, []) } : Gathering (τ × List (Json.Value × Neighbour α)) α).IsSettled := rfl
  obtain ⟨hsettled, asked, hasked, hgathers⟩ := gathers_foldl judge (arrivals (talks air search [] is)) hstart
  obtain ⟨-, -, hplain⟩ := askAll_recording air search judge state is
  rw [← hplain, calls, askAll_eq]
  dsimp only at hasked ⊢
  rw [hasked]
  exact ⟨hsettled, hgathers⟩

end

/-- What a round asks, what it asks the judge, what it finds and how it fails. -/
theorem round_gathers_reference (air : Air) (search : Search) (judge : Judge τ α) (state : τ) (is : List Interface) :
    let ts := talks air search [] is
    let round := askAll air search judge state is
    let meshes := is.filter fun i => i.up && search.protocols.contains i.protocol
    ts.map Prod.fst = meshes ∧
      round.asked = meshes.map (fun i => ⟨⟨allNodes, search.port, i.index⟩, "nodeinfo", search.budget⟩) ∧
      (∀ asked out, Gathers judge state [] (arrivals ts) asked out ↔
        asked = calls air search judge state is ∧ out = round.gathering.found) ∧
      round.gathering.seen = round.gathering.found.map nodeId ∧
      (∀ f, collect air search judge state is = .error f ↔
        AllFailed ts ∧ ∃ talk, ts.getLast? = some talk ∧ failureOf? talk = some f) ∧
      (∀ found, collect air search judge state is = .ok found ↔ ¬ AllFailed ts ∧ found = round.gathering.found) ∧
      (FillsPayload judge → (round.gathering.found.map nodeId).Nodup ∧
        ∃ picked, picked.Sublist (arrivals ts) ∧ List.Forall₂ IsSender round.gathering.found picked) := by
  intro ts round meshes
  obtain ⟨hsettled, hgathers⟩ := gathers_askAll air search judge state is
  have hresult := result_eq air search judge state is
  refine ⟨map_fst_talks air search [] is, ?asked, ?reference, hsettled, ?error, ?ok, ?senders⟩
  case asked => exact congrArg Round.asked (askAll_eq air search judge state is)
  case reference =>
    intro asked out
    constructor
    · exact fun h => h.unique hgathers
    · rintro ⟨rfl, rfl⟩
      exact hgathers
  case error =>
    intro f
    obtain ⟨hall, -⟩ | ⟨hnot, hok⟩ := hresult
    · obtain ⟨talk, f', hlast, hf', hfails⟩ := result_of_allFailed air search judge state is hall
      rw [hfails, Except.error.injEq]
      constructor
      · rintro rfl
        exact ⟨hall, talk, hlast, hf'⟩
      · rintro ⟨-, talk', hlast', hf⟩
        obtain rfl : talk = talk' := Option.some.inj (hlast.symm.trans hlast')
        exact Option.some.inj (hf'.symm.trans hf)
    · constructor
      · intro hfails
        cases hok.symm.trans hfails
      · exact fun h => absurd h.1 hnot
  case ok =>
    intro found
    have hfound := congrArg (fun r : Round τ α => r.gathering.found) (askAll_eq air search judge state is)
    obtain ⟨hall, f, hfails⟩ | ⟨hnot, hok⟩ := hresult
    · constructor
      · intro hok
        cases hfails.symm.trans hok
      · exact fun h => absurd hall h.1
    · rw [collect, hok, Except.ok.injEq, ← hfound]
      exact ⟨fun h => ⟨hnot, h.symm⟩, fun h => h.2.symm⟩
  case senders =>
    intro hjudge
    obtain ⟨new, picked, hout, hpicked, hsenders, hnodup⟩ := hgathers.exists_senders hjudge
    rw [List.nil_append] at hout
    rw [hout] at hnodup ⊢
    exact ⟨hnodup .nil, picked, hpicked, hsenders⟩

/-! ## A round with a second chance -/

/-- A judge that turns down the first node it sees. -/
def rejectingFirst : Judge Nat Unit := fun count _ n => ((.ok (count != 0), { n with payload := some () }), count + 1)

theorem fillsPayload_rejectingFirst : FillsPayload rejectingFirst := fun _ _ _ => ⟨some (), rfl⟩

def answerFrom (id : String) (index : UInt32) : Response where
  data := Bytes.ofText ("\x7b\"node_id\":\"" ++ id ++ "\"\x7d")
  source := allNodes
  index

/-- The first request fails after three answers, the second one brings two more. -/
def failingFirst : Air := fun asked _ =>
  if asked.isEmpty then ⟨[answerFrom "a" 3, answerFrom "a" 3, answerFrom "c" 0], .transportFailed "down"⟩
  else ⟨[answerFrom "a" 4, answerFrom "b" 4], .done⟩

theorem round_gathers_reference_with_second_chance :
    let is := [meshInterface, { meshInterface with up := false }, ⟨"mesh1", 4, true, "gluon_mesh"⟩]
    let found := (askAll failingFirst meshSearch rejectingFirst 0 is).gathering.found
    FillsPayload rejectingFirst ∧ (found.map nodeId).Nodup ∧
      collect failingFirst meshSearch rejectingFirst 0 is = .ok found ∧ found.map nodeId = ["a", "b"] ∧
      found.map (fun n => n.interface.name) = ["mesh0", "mesh1"] := by
  intro is found
  obtain ⟨-, -, -, -, -, hok, hsenders⟩ := round_gathers_reference failingFirst meshSearch rejectingFirst 0 is
  have hsome : ¬ AllFailed (talks failingFirst meshSearch [] is) := by decide +kernel
  exact ⟨fillsPayload_rejectingFirst, (hsenders fillsPayload_rejectingFirst).1, (hok found).mpr ⟨hsome, rfl⟩,
    by decide +kernel, by decide +kernel⟩

end MeshFirmware.Neighbour
