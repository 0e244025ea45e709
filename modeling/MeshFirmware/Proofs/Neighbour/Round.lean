import MeshFirmware.Neighbour

/-!
# A round of questions

A round asks on the interfaces that the search covers, in their order and once each (`talks`). What it gathers
comes from the answers in the order in which they arrive over all interfaces (`askAll_eq`). The round fails
exactly if something was asked and every request failed (`result_eq`).
-/

namespace MeshFirmware.Neighbour

/-- The conversations of a round, each with its interface, when these questions have been asked before. -/
def talks (air : Air) (search : Search) : List Discovery.Query → List Interface →
    List (Interface × Discovery.Conversation)
  | _, [] => []
  | asked, i :: rest =>
    if search.covers i then
      (i, air asked (search.query i)) :: talks air search (asked ++ [search.query i]) rest
    else talks air search asked rest

/-- The answers of conversations in the order of their arrival, each with its interface. -/
def arrivals (ts : List (Interface × Discovery.Conversation)) : List (Interface × Discovery.Response) :=
  ts.flatMap fun talk => talk.2.responses.map (Prod.mk talk.1)

/-- The failure of a conversation, if it failed. -/
def failureOf? (talk : Interface × Discovery.Conversation) : Option Failure :=
  talk.2.ending.account?.map (Failure.mk talk.1.name)

/-- Whether something was asked, and every request failed. -/
def AllFailed (ts : List (Interface × Discovery.Conversation)) : Prop :=
  ts ≠ [] ∧ ∀ talk ∈ ts, talk.2.ending.problem?.isSome = true

instance (ts : List (Interface × Discovery.Conversation)) : Decidable (AllFailed ts) :=
  inferInstanceAs (Decidable (_ ∧ _))

section
variable {τ α : Type} (air : Air) (search : Search) (judge : Judge τ α)

theorem foldl_askOn (r : Round τ α) (is : List Interface) :
    is.foldl (askOn air search judge) r =
      { asked := r.asked ++ (is.filter search.covers).map search.query
        failures := r.failures ++ (talks air search r.asked is).filterMap failureOf?
        gathering := (arrivals (talks air search r.asked is)).foldl (fun g a => accept judge a.1 g a.2)
          r.gathering } := by
  -- On the interfaces, from any round: an answer may depend on all the questions before it.
  induction is generalizing r with
  | nil => simp [talks, arrivals]
  | cons i rest ih =>
    rw [List.foldl_cons, ih, askOn]
    cases hcovers : search.covers i with
    | false => simp [talks, hcovers]
    | true =>
      have hfailure (talk : Interface × Discovery.Conversation)
          (others : List (Interface × Discovery.Conversation)) :
          (talk :: others).filterMap failureOf? = (failureOf? talk).toList ++ others.filterMap failureOf? := by
        cases h : failureOf? talk <;> simp [h]
      simp [talks, hcovers, arrivals, hfailure, failureOf?, List.foldl_append, List.foldl_map]

/-- What a round asks, which requests fail, and what it gathers. -/
theorem askAll_eq (state : τ) (is : List Interface) :
    askAll air search judge state is =
      { asked := (is.filter search.covers).map search.query
        failures := (talks air search [] is).filterMap failureOf?
        gathering := (arrivals (talks air search [] is)).foldl (fun g a => accept judge a.1 g a.2)
          { state } } := by
  rw [askAll, foldl_askOn]
  simp

theorem map_fst_talks (asked : List Discovery.Query) (is : List Interface) :
    (talks air search asked is).map Prod.fst = is.filter search.covers := by
  induction is generalizing asked with
  | nil => rfl
  | cons i rest ih =>
    rw [talks]
    cases hcovers : search.covers i <;> simp [hcovers, ih]

theorem length_talks (asked : List Discovery.Query) (is : List Interface) :
    (talks air search asked is).length = (is.filter search.covers).length := by
  rw [← map_fst_talks air search asked, List.length_map]

theorem isSome_failureOf? (talk : Interface × Discovery.Conversation) :
    (failureOf? talk).isSome = talk.2.ending.problem?.isSome := by
  rw [failureOf?, Option.isSome_map]
  unfold Discovery.Ending.account?
  split <;> simp

/-- Every request failed exactly if there is a failure for each of them. -/
theorem allFailed_iff (ts : List (Interface × Discovery.Conversation)) :
    AllFailed ts ↔ ts ≠ [] ∧ (ts.filterMap failureOf?).length = ts.length := by
  have hall : (ts.filterMap failureOf?).length = ts.length ↔
      ∀ talk ∈ ts, talk.2.ending.problem?.isSome = true := by
    rw [List.length_filterMap_eq_countP, List.countP_eq_length]
    simp only [isSome_failureOf?]
  rw [AllFailed, hall]

/-- A round that fails brings nothing, and any other one brings what it has gathered. -/
theorem result_eq (state : τ) (is : List Interface) :
    AllFailed (talks air search [] is) ∧ (∃ f, (askAll air search judge state is).result = .error f) ∨
      ¬ AllFailed (talks air search [] is) ∧ (askAll air search judge state is).result =
        .ok ((arrivals (talks air search [] is)).foldl (fun g a => accept judge a.1 g a.2) { state }).found := by
  rw [askAll_eq, Round.result, allFailed_iff]
  dsimp only
  rw [List.length_map, ← length_talks air search []]
  generalize talks air search [] is = ts
  -- Without a failure the round brings something, even if nothing was asked.
  cases hlast : (ts.filterMap failureOf?).getLast? with
  | none =>
    right
    refine ⟨?_, rfl⟩
    rintro ⟨hne, hlen⟩
    rw [List.getLast?_eq_none_iff.mp hlast] at hlen
    exact hne (List.length_eq_zero_iff.mp hlen.symm)
  | some f =>
    have hne : ts ≠ [] := by
      rintro rfl
      cases hlast
    by_cases hlen : (ts.filterMap failureOf?).length = ts.length
    · exact .inl ⟨⟨hne, hlen⟩, f, if_pos hlen⟩
    · exact .inr ⟨fun h => hlen h.2, if_neg hlen⟩

end

/-! ## The first answer of each node -/

/-- The first of the neighbours with each node id. -/
def firstOfEach {α : Type} : List (Neighbour α) → List (Neighbour α)
  | [] => []
  | n :: rest => n :: (firstOfEach rest).filter fun m => m.nodeId != n.nodeId

/-- No two of them have the same node id. -/
theorem nodup_firstOfEach {α : Type} (ns : List (Neighbour α)) : ((firstOfEach ns).map nodeId).Nodup := by
  induction ns with
  | nil => exact .nil
  | cons n rest ih =>
    rw [firstOfEach, List.map_cons, List.nodup_cons]
    refine ⟨?_, (List.filter_sublist.map nodeId).nodup ih⟩
    intro hmem
    obtain ⟨m, hm, heq⟩ := List.mem_map.mp hmem
    simpa [heq] using (List.mem_filter.mp hm).2

/-- A neighbour after others is kept if it has an id that none of them has. -/
theorem firstOfEach_concat {α : Type} (ns : List (Neighbour α)) (n : Neighbour α) :
    firstOfEach (ns ++ [n]) = firstOfEach ns ++ if n.nodeId ∈ ns.map nodeId then [] else [n] := by
  induction ns with
  | nil => rfl
  | cons m rest ih =>
    rw [List.cons_append, firstOfEach, firstOfEach, ih, List.filter_append, List.cons_append, List.map_cons]
    congr 2
    by_cases hm : n.nodeId = m.nodeId
    · rw [hm, if_pos List.mem_cons_self]
      split <;> simp [hm]
    · by_cases hrest : n.nodeId ∈ rest.map nodeId
      · rw [if_pos hrest, if_pos (List.mem_cons_of_mem _ hrest), List.filter_nil]
      · rw [if_neg hrest, if_neg (by simpa [hm] using hrest), List.filter_cons_of_pos (by simpa using hm),
          List.filter_nil]

end MeshFirmware.Neighbour
