import Mathlib.Data.List.Induction
import MeshFirmware.Proofs.Neighbour.Junk
import MeshFirmware.Proofs.Updater.Journal

/-!
# Whom a run tries beside its mirrors

Which neighbours a run may try is told by the answers to its questions alone: of each node the first answer counts,
and the node is a candidate if this answer announces a release that is wanted (`CandidateAt`). A search brings all
candidates, in the order of their answers, and no one else (`brings_candidatesAfter`).
-/

namespace MeshFirmware.Updater
open Discovery (Response)

/-- The answer is from the node with this id: it came over an interface, and it is a JSON text with the id. -/
def IsFrom (r : Response) (id : String) : Prop :=
  r.index ≠ 0 ∧ ∃ v, Json.Value.read? r.data = some v ∧ v.get? "node_id" = some (.text id)

/-- The answer is a JSON text with this release under `software`, `firmware`, `release`. -/
def Announces (r : Response) (release : String) : Prop :=
  ∃ v software firmware, Json.Value.read? r.data = some v ∧ v.get? "software" = some software ∧
    software.get? "firmware" = some firmware ∧ firmware.get? "release" = some (.text release)

/-- The release is newer than the one that the node has, or the run is forced and takes any release. -/
def IsWanted (t : Settings) (release : String) : Prop :=
  t.force = true ∨ Version.isNewer release t.oldVersion = true

/-- The neighbour is the one that an answer on an interface is from, and the answer announces a wanted release. -/
structure Recommends (t : Settings) (a : Interface × Response) (n : Neighbour String) : Prop where
  interface : n.interface = a.1
  address : n.address = a.2.source
  sender : IsFrom a.2 n.nodeId
  wanted : ∃ release, n.payload = some release ∧ Announces a.2 release ∧ IsWanted t release

/-- The answer at this position recommends the neighbour and is the first one from its node. -/
structure CandidateAt (t : Settings) (answers : List (Interface × Response)) (position : Nat)
    (n : Neighbour String) : Prop where
  recommended : ∃ a, answers[position]? = some a ∧ Recommends t a n
  first : ∀ earlier < position, ∀ a, answers[earlier]? = some a → ¬ IsFrom a.2 n.nodeId

/-- These are all candidates among the answers, in the order of the answers. -/
def ListsCandidates (t : Settings) (answers : List (Interface × Response)) (ns : List (Neighbour String)) : Prop :=
  ∃ placed : List (Nat × Neighbour String), placed.map Prod.snd = ns ∧ placed.Pairwise (fun a b => a.1 < b.1) ∧
    ∀ position n, (position, n) ∈ placed ↔ CandidateAt t answers position n

/-- What a search after this history brings: the candidates among all answers, or nobody if every request failed.
Where the interfaces cannot be listed there are no answers. -/
def Brings (w : World) (t : Task) (h : History) (ns : List (Neighbour String)) : Prop :=
  Neighbour.AllFailed (talksAfter w t h) ∧ ns = [] ∨
    ¬ Neighbour.AllFailed (talksAfter w t h) ∧
      ListsCandidates t.settings (Neighbour.arrivals (talksAfter w t h)) ns

/-! ## One answer -/

theorem release?_eq_some {v : Json.Value} {release : String} :
    release? v = some release ↔ ∃ software firmware, v.get? "software" = some software ∧
      software.get? "firmware" = some firmware ∧ firmware.get? "release" = some (.text release) := by
  have hfollow : v.follow? ["software", "firmware", "release"] =
      (v.get? "software").bind fun software => (software.get? "firmware").bind fun firmware =>
        firmware.get? "release" := by
    simp [Json.Value.follow?]
  rw [release?, hfollow]
  constructor
  · intro h
    obtain ⟨last, hpath, htext⟩ := Option.bind_eq_some_iff.mp h
    obtain ⟨software, hsoftware, hpath⟩ := Option.bind_eq_some_iff.mp hpath
    obtain ⟨firmware, hfirmware, hrelease⟩ := Option.bind_eq_some_iff.mp hpath
    cases last with
    | text s =>
      obtain rfl := Option.some.inj htext
      exact ⟨software, firmware, hsoftware, hfirmware, hrelease⟩
    | _ => cases htext
  · rintro ⟨software, firmware, hsoftware, hfirmware, hrelease⟩
    rw [hsoftware, Option.bind_some, hfirmware, Option.bind_some, hrelease, Option.bind_some]
    rfl

theorem isEligible_iff {t : Settings} {n : Neighbour String} :
    isEligible t n = true ↔ ∃ release, n.payload = some release ∧ IsWanted t release := by
  rw [isEligible]
  cases n.payload with
  | none => simp
  | some release => simp [IsWanted]

section
variable {t : Settings} {a : Interface × Response} {n : Neighbour String}

theorem announced?_eq_some : announced? a = some n ↔ n.interface = a.1 ∧ n.address = a.2.source ∧
    a.2.index ≠ 0 ∧ ∃ v, Json.Value.read? a.2.data = some v ∧ v.get? "node_id" = some (.text n.nodeId) ∧
      n.payload = release? v := by
  rw [announced?]
  by_cases hindex : a.2.index = 0
  · simp [hindex]
  · rw [if_neg (by simpa using hindex), Option.bind_eq_some_iff]
    constructor
    · rintro ⟨v, hv, hn⟩
      obtain ⟨id, hid, rfl⟩ := Option.map_eq_some_iff.mp hn
      exact ⟨rfl, rfl, hindex, v, hv, Neighbour.nodeId?_eq_some.mp hid, rfl⟩
    · rintro ⟨hinterface, haddress, -, v, hv, hid, hpayload⟩
      refine ⟨v, hv, ?_⟩
      rw [Neighbour.nodeId?_eq_some.mpr hid, Option.map_some, ← hinterface, ← haddress, ← hpayload]

/-- An answer is from the node that its neighbour is. -/
theorem isFrom_iff {id : String} : IsFrom a.2 id ↔ ∃ n, announced? a = some n ∧ n.nodeId = id := by
  constructor
  · rintro ⟨hindex, v, hv, hid⟩
    exact ⟨⟨id, a.2.source, a.1, release? v⟩, announced?_eq_some.mpr ⟨rfl, rfl, hindex, v, hv, hid, rfl⟩, rfl⟩
  · rintro ⟨n, hn, rfl⟩
    obtain ⟨-, -, hindex, v, hv, hid, -⟩ := announced?_eq_some.mp hn
    exact ⟨hindex, v, hv, hid⟩

theorem recommends_iff : Recommends t a n ↔ announced? a = some n ∧ isEligible t n = true := by
  rw [announced?_eq_some, isEligible_iff]
  constructor
  · rintro ⟨hinterface, haddress, ⟨hindex, v, hv, hid⟩, release, hpayload, ⟨v', software, firmware, hv', hpath⟩, hwanted⟩
    obtain rfl : v = v' := Option.some.inj (hv.symm.trans hv')
    refine ⟨⟨hinterface, haddress, hindex, v, hv, hid, ?_⟩, release, hpayload, hwanted⟩
    rw [hpayload, release?_eq_some.mpr ⟨software, firmware, hpath⟩]
  · rintro ⟨⟨hinterface, haddress, hindex, v, hv, hid, hrelease⟩, release, hpayload, hwanted⟩
    obtain ⟨software, firmware, hpath⟩ := release?_eq_some.mp (hrelease.symm.trans hpayload)
    exact ⟨hinterface, haddress, ⟨hindex, v, hv, hid⟩, release, hpayload, ⟨v, software, firmware, hv, hpath⟩, hwanted⟩

end

/-! ## All answers -/

section
variable {t : Settings} {answers : List (Interface × Response)} {a : Interface × Response} {n : Neighbour String}

/-- An answer more adds a candidate where it recommends a neighbour that no answer before it is from. -/
theorem candidateAt_concat {position : Nat} : CandidateAt t (answers ++ [a]) position n ↔
    CandidateAt t answers position n ∨
      position = answers.length ∧ Recommends t a n ∧ ∀ b ∈ answers, ¬ IsFrom b.2 n.nodeId := by
  have hearlier {earlier : Nat} (h : earlier < answers.length) : (answers ++ [a])[earlier]? = answers[earlier]? :=
    List.getElem?_append_left h
  have hlast : (answers ++ [a])[answers.length]? = some a := List.getElem?_concat_length
  constructor
  · rintro ⟨⟨b, hb, hrecommends⟩, hfirst⟩
    obtain hlt | rfl | hgt := Nat.lt_trichotomy position answers.length
    · rw [hearlier hlt] at hb
      refine .inl ⟨⟨b, hb, hrecommends⟩, fun earlier hle c hc => hfirst earlier hle c ?_⟩
      rw [hearlier (Nat.lt_trans hle hlt), hc]
    · obtain rfl : a = b := Option.some.inj (hlast.symm.trans hb)
      refine .inr ⟨rfl, hrecommends, fun c hc => ?_⟩
      obtain ⟨earlier, hlt, hget⟩ := List.getElem_of_mem hc
      refine hfirst earlier hlt c ?_
      rw [hearlier hlt, List.getElem?_eq_getElem hlt, hget]
    · have hend : (answers ++ [a]).length ≤ position := by
        rw [List.length_append, List.length_singleton]
        exact hgt
      rw [List.getElem?_eq_none hend] at hb
      cases hb
  · rintro (⟨⟨b, hb, hrecommends⟩, hfirst⟩ | ⟨rfl, hrecommends, hfirst⟩)
    · have hlt : position < answers.length := (List.getElem?_eq_some_iff.mp hb).1
      refine ⟨⟨b, by rw [hearlier hlt, hb], hrecommends⟩, fun earlier hle c hc => hfirst earlier hle c ?_⟩
      rw [← hc, hearlier (Nat.lt_trans hle hlt)]
    · refine ⟨⟨a, hlast, hrecommends⟩, fun earlier hlt c hc => hfirst c ?_⟩
      rw [hearlier hlt] at hc
      exact List.mem_of_getElem? hc

/-- The neighbours that answers bring, before any of them is turned down. -/
theorem mem_ids_announced {id : String} :
    id ∈ (answers.filterMap announced?).map Neighbour.nodeId ↔ ∃ b ∈ answers, IsFrom b.2 id := by
  simp only [List.mem_map, List.mem_filterMap, isFrom_iff]
  constructor
  · rintro ⟨n, ⟨b, hb, hn⟩, rfl⟩
    exact ⟨b, hb, n, hn, rfl⟩
  · rintro ⟨b, hb, n, hn, rfl⟩
    exact ⟨n, ⟨b, hb, hn⟩, rfl⟩

/-- The candidates as a run finds them. -/
def candidatesIn (t : Settings) (answers : List (Interface × Response)) : List (Neighbour String) :=
  (Neighbour.firstOfEach (answers.filterMap announced?)).filter (isEligible t)

theorem candidatesIn_concat_of_new (hn : Recommends t a n) (hnew : ∀ b ∈ answers, ¬ IsFrom b.2 n.nodeId) :
    candidatesIn t (answers ++ [a]) = candidatesIn t answers ++ [n] := by
  obtain ⟨hannounced, heligible⟩ := recommends_iff.mp hn
  have hid : n.nodeId ∉ (answers.filterMap announced?).map Neighbour.nodeId := by
    rw [mem_ids_announced]
    rintro ⟨b, hb, hfrom⟩
    exact hnew b hb hfrom
  rw [candidatesIn, List.filterMap_append, List.filterMap_cons_some hannounced, List.filterMap_nil,
    Neighbour.firstOfEach_concat, if_neg hid, List.filter_append, List.filter_cons_of_pos heligible, List.filter_nil,
    candidatesIn]

theorem candidatesIn_concat_of_not_new (h : ∀ n, Recommends t a n → ∃ b ∈ answers, IsFrom b.2 n.nodeId) :
    candidatesIn t (answers ++ [a]) = candidatesIn t answers := by
  rw [candidatesIn, List.filterMap_append]
  cases hannounced : announced? a with
  | none => rw [List.filterMap_cons_none hannounced, List.filterMap_nil, List.append_nil, candidatesIn]
  | some n =>
    rw [List.filterMap_cons_some hannounced, List.filterMap_nil, Neighbour.firstOfEach_concat, List.filter_append]
    -- Its node has answered before, or its release is not wanted.
    by_cases heligible : isEligible t n = true
    · have hid := mem_ids_announced.mpr (h n (recommends_iff.mpr ⟨hannounced, heligible⟩))
      rw [if_pos hid, List.filter_nil, List.append_nil, candidatesIn]
    · have hnone : List.filter (isEligible t)
          (if n.nodeId ∈ (answers.filterMap announced?).map Neighbour.nodeId then [] else [n]) = [] := by
        split <;> simp [heligible]
      rw [hnone, List.append_nil, candidatesIn]

end

theorem listsCandidates (t : Settings) (answers : List (Interface × Response)) :
    ListsCandidates t answers (candidatesIn t answers) := by
  -- From the last answer: whether a node has answered before is told by those in front.
  induction answers using List.reverseRecOn with
  | nil =>
    refine ⟨[], rfl, .nil, fun position n => ⟨nofun, ?_⟩⟩
    rintro ⟨⟨a, ha, -⟩, -⟩
    cases ha
  | append_singleton answers a ih =>
    obtain ⟨placed, hmap, hsorted, hmem⟩ := ih
    by_cases hnew : ∃ n, Recommends t a n ∧ ∀ b ∈ answers, ¬ IsFrom b.2 n.nodeId
    · obtain ⟨n, hn, hfirst⟩ := hnew
      refine ⟨placed ++ [(answers.length, n)], ?_, ?_, fun position m => ?_⟩
      · rw [List.map_append, hmap, candidatesIn_concat_of_new hn hfirst]
        rfl
      · refine List.pairwise_append.mpr ⟨hsorted, List.pairwise_singleton _ _, ?_⟩
        intro p hp q hq
        obtain rfl := List.mem_singleton.mp hq
        obtain ⟨⟨b, hb, -⟩, -⟩ := (hmem p.1 p.2).mp hp
        exact (List.getElem?_eq_some_iff.mp hb).1
      · rw [List.mem_append, hmem, candidateAt_concat, List.mem_singleton, Prod.mk.injEq]
        refine or_congr_right (and_congr_right fun _ => ?_)
        constructor
        · rintro rfl
          exact ⟨hn, hfirst⟩
        · rintro ⟨hm, -⟩
          obtain ⟨hsame, -⟩ := recommends_iff.mp hm
          exact Option.some.inj (hsame.symm.trans (recommends_iff.mp hn).1)
    · refine ⟨placed, ?_, hsorted, fun position m => ?_⟩
      · rw [hmap, candidatesIn_concat_of_not_new]
        intro n hn
        by_contra hnone
        exact hnew ⟨n, hn, fun b hb hfrom => hnone ⟨b, hb, hfrom⟩⟩
      · rw [hmem, candidateAt_concat, or_iff_left]
        rintro ⟨-, hm⟩
        exact hnew ⟨m, hm⟩

/-- A search brings the candidates among all answers to its questions, and nobody else. -/
theorem brings_candidatesAfter (w : World) (t : Task) (h : History) : Brings w t h (candidatesAfter w t h) := by
  unfold Brings candidatesAfter foundIn
  split
  · rename_i hfailed
    exact .inl ⟨hfailed, rfl⟩
  · rename_i hfailed
    exact .inr ⟨hfailed, listsCandidates t.settings _⟩

end MeshFirmware.Updater
