import MeshFirmware.Proofs.Neighbour.Reference

/-!
# Judges that rename

An answer goes to the judge only if no neighbour found before has the node id in the answer. What counts as known
afterwards is the id of the neighbour as the judge leaves it. So two neighbours of a round have the same id only
where the judge has given the later one another id than its answer had (`ids_differ_unless_renamed`). Such a judge can
make two neighbours of one id (`renamed_node_found_twice`).
-/

namespace MeshFirmware.Neighbour
open Discovery

variable {α τ : Type}

/-- The answer has this node id, and the judge, asked about its sender, keeps this neighbour. -/
def FoundBy (judge : Judge τ α) (answer : Interface × Response) (id : String) (n : Neighbour α) : Prop :=
  ∃ v state state', Json.Value.read? answer.2.data = some v ∧ v.get? "node_id" = some (.text id) ∧
    judge state v (sender answer.1 answer.2 id) = ((.ok true, n), state')

/-- The judge leaves the node ids of the neighbours that it keeps as they are. -/
def KeepsIds (judge : Judge τ α) : Prop :=
  ∀ state v n n' state', judge state v n = ((.ok true, n'), state') → n'.nodeId = n.nodeId

section
variable {judge : Judge τ α}

theorem FoundBy.nodeId_eq {answer : Interface × Response} {id : String} {n : Neighbour α}
    (h : FoundBy judge answer id n) (hjudge : KeepsIds judge) : n.nodeId = id := by
  obtain ⟨v, state, state', -, -, hjudged⟩ := h
  exact hjudge state v (sender answer.1 answer.2 id) n state' hjudged

/-- The neighbours found, each with the id in its answer: none of the neighbours before it has this id. -/
theorem Gathers.exists_finds {state : τ} {found out : List (Neighbour α)} {answers all : List (Interface × Response)}
    {asked : List (Json.Value × Neighbour α)} (h : Gathers judge state found answers asked out)
    (hall : answers ⊆ all) :
    ∃ finds : List (String × Neighbour α), out = found ++ finds.map Prod.snd ∧
      (∀ find ∈ finds, (∃ answer ∈ all, FoundBy judge answer find.1 find.2) ∧ find.1 ∉ found.map nodeId) ∧
      finds.Pairwise fun earlier later => later.1 ≠ earlier.2.nodeId := by
  induction h with
  | done => exact ⟨[], (List.append_nil _).symm, by simp, .nil⟩
  | passed _ _ ih => exact ih (List.cons_subset.mp hall).2
  | rejected _ _ _ _ ih => exact ih (List.cons_subset.mp hall).2
  | @kept state state' found i r rest asked out v id n hnew hjudged _ ih =>
    obtain ⟨hanswer, hrest⟩ := List.cons_subset.mp hall
    obtain ⟨finds, hout, hfinds, hapart⟩ := ih hrest
    -- The neighbour kept here is among those that the later answers are compared with.
    have hlater (find : String × Neighbour α) (hfind : find ∈ finds) :
        find.1 ∉ found.map nodeId ∧ find.1 ≠ n.nodeId := by
      have hunknown := (hfinds find hfind).2
      rw [List.map_append, List.map_singleton, List.mem_append, List.mem_singleton, not_or] at hunknown
      exact hunknown
    refine ⟨(id, n) :: finds, ?_, ?_, ?_⟩
    · rw [hout, List.append_assoc]
      rfl
    · intro find hfind
      rcases List.mem_cons.mp hfind with rfl | hfind
      · exact ⟨⟨(i, r), hanswer, v, state, state', hnew.read, hnew.nodeId, hjudged⟩, hnew.unknown⟩
      · exact ⟨(hfinds find hfind).1, (hlater find hfind).1⟩
    · exact List.pairwise_cons.mpr ⟨fun find hfind => (hlater find hfind).2, hapart⟩

end

section
variable {air : Air} {search : Search} {judge : Judge τ α} {state : τ} {is : List Interface}

/-- What a round brings is what it has gathered. -/
theorem eq_found_of_collect {found : List (Neighbour α)} (h : collect air search judge state is = .ok found) :
    found = (askAll air search judge state is).gathering.found := by
  unfold collect Round.result at h
  split at h
  · split at h
    · cases h
    · exact (Except.ok.inj h).symm
  · exact (Except.ok.inj h).symm

theorem exists_of_ids {ids : List String}
    (h : (collect air search judge state is).toOption.map (fun ns => ns.map nodeId) = some ids) :
    ∃ found, collect air search judge state is = .ok found ∧ found.map nodeId = ids := by
  cases hround : collect air search judge state is with
  | error f =>
    rw [hround] at h
    cases h
  | ok found =>
    rw [hround] at h
    exact ⟨found, rfl, Option.some.inj h⟩

end

/-- Each neighbour of a round is found by an answer with an id that none of the neighbours before it has. So the ids
of the neighbours are different, unless the judge renames one. -/
theorem ids_differ_unless_renamed (air : Air) (search : Search) (judge : Judge τ α) (state : τ) (is : List Interface)
    (found : List (Neighbour α)) (h : collect air search judge state is = .ok found) :
    (∃ finds : List (String × Neighbour α), finds.map Prod.snd = found ∧
        (∀ find ∈ finds, ∃ answer ∈ arrivals (talks air search [] is), FoundBy judge answer find.1 find.2) ∧
        finds.Pairwise fun earlier later => later.1 ≠ earlier.2.nodeId) ∧
      (KeepsIds judge → (found.map nodeId).Nodup) := by
  obtain ⟨-, hgathers⟩ := gathers_askAll air search judge state is
  obtain ⟨finds, hout, hfinds, hapart⟩ := hgathers.exists_finds (List.Subset.refl _)
  rw [← eq_found_of_collect h, List.nil_append] at hout
  refine ⟨⟨finds, hout.symm, fun find hfind => (hfinds find hfind).1, hapart⟩, ?_⟩
  intro hjudge
  rw [hout, List.map_map, List.Nodup, List.pairwise_map]
  refine hapart.imp_of_mem ?_
  intro earlier later _ hlater hne heq
  obtain ⟨⟨answer, -, hby⟩, -⟩ := hfinds later hlater
  exact hne ((hby.nodeId_eq hjudge).symm.trans heq.symm)

/-- Two nodes answer, and the second one asks for the name of the first. -/
def nameTaking : Air := fun _ _ =>
  ⟨[answerFrom "a" 3, ⟨Bytes.ofText "\x7b\"node_id\":\"b\",\"rename\":\"a\"\x7d", allNodes, 3⟩], .done⟩

theorem keepsIds_keepingAll : KeepsIds keepingAll := by
  intro count v n n' count' h
  cases h
  rfl

theorem ids_differ_where_names_are_kept :
    ∃ found, collect nameTaking meshSearch keepingAll 0 [meshInterface] = .ok found ∧
      found.map nodeId = ["a", "b"] ∧ KeepsIds keepingAll ∧ (found.map nodeId).Nodup := by
  obtain ⟨found, hround, hids⟩ : ∃ found, collect nameTaking meshSearch keepingAll 0 [meshInterface] = .ok found ∧
      found.map nodeId = ["a", "b"] := exists_of_ids (by decide +kernel)
  have hdiffer := ids_differ_unless_renamed nameTaking meshSearch keepingAll 0 [meshInterface] found hround
  exact ⟨found, hround, hids, keepsIds_keepingAll, hdiffer.2 keepsIds_keepingAll⟩

/-- A judge that keeps every node, under the name that its answer asks for. -/
def nameGiving : Judge Unit Unit := fun state v n =>
  match (v.get? "rename").bind Json.Value.asText? with
  | some id => ((.ok true, { n with nodeId := id }), state)
  | none => ((.ok true, n), state)

theorem renamed_node_found_twice :
    ∃ found, collect nameTaking meshSearch nameGiving () [meshInterface] = .ok found ∧
      found.map nodeId = ["a", "a"] ∧ ¬ (found.map nodeId).Nodup := by
  obtain ⟨found, hround, hids⟩ : ∃ found, collect nameTaking meshSearch nameGiving () [meshInterface] = .ok found ∧
      found.map nodeId = ["a", "a"] := exists_of_ids (by decide +kernel)
  refine ⟨found, hround, hids, ?_⟩
  rw [hids]
  decide

end MeshFirmware.Neighbour
