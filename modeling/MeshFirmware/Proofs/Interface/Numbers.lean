import Mathlib.Data.List.Nodup
import MeshFirmware.Proofs.Neighbour.Round

/-!
# Each interface once

The network service may list several devices under one number of the kernel. The interfaces that are taken from its
list are those of the first record of each number (`FirstAt`), in the order of the list (`listsFirsts_ofEntries`). A
record that describes no interface keeps no later one out. So no number is zero, no two are the same, and a round of
questions asks at most once on each interface of the kernel, and never without one (`each_interface_once`).
-/

namespace MeshFirmware.Interface

attribute [ext] Interface

/-- The record says this of an interface that the kernel knows. -/
structure Entry.Describes (indexOf : String → UInt32) (e : Entry) (i : Interface) : Prop where
  device : e.device = some i.name
  index : i.index = indexOf i.name
  known : i.index ≠ 0
  up : i.up = e.up
  protocol : i.protocol = e.protocol.getD ""

/-- The record at this position describes the interface, and none before it describes one with the same number. -/
structure FirstAt (indexOf : String → UInt32) (es : List Entry) (position : Nat) (i : Interface) : Prop where
  described : ∃ e, es[position]? = some e ∧ e.Describes indexOf i
  first : ∀ earlier < position, ∀ e i', es[earlier]? = some e → e.Describes indexOf i' → i'.index ≠ i.index

/-- The interfaces are those that the list describes for the first time, in its order. -/
def ListsFirsts (indexOf : String → UInt32) (es : List Entry) (is : List Interface) : Prop :=
  ∃ firsts : List (Nat × Interface), firsts.map Prod.snd = is ∧
    firsts.Pairwise (fun a b => a.1 < b.1) ∧ ∀ position i, (position, i) ∈ firsts ↔ FirstAt indexOf es position i

variable {indexOf : String → UInt32}

/-! ## One record -/

theorem Entry.Describes.unique {e : Entry} {i i' : Interface} (h : e.Describes indexOf i)
    (h' : e.Describes indexOf i') : i = i' := by
  have hname : i.name = i'.name := Option.some.inj (h.device.symm.trans h'.device)
  have hindex : i.index = i'.index := by rw [h.index, h'.index, hname]
  exact Interface.ext hname hindex (h.up.trans h'.up.symm) (h.protocol.trans h'.protocol.symm)

/-- A record is passed over if every interface that it describes has a number that has come before. Any other one gives
the interface that it describes. -/
theorem ofEntries_cons (indexOf : String → UInt32) (seen : List UInt32) (e : Entry) (rest : List Entry) :
    ((∀ i, e.Describes indexOf i → i.index ∈ seen) ∧
        ofEntries indexOf seen (e :: rest) = ofEntries indexOf seen rest) ∨
      ∃ i, e.Describes indexOf i ∧ i.index ∉ seen ∧
        ofEntries indexOf seen (e :: rest) = i :: ofEntries indexOf (i.index :: seen) rest := by
  rw [ofEntries]
  cases hdevice : e.device with
  | none =>
    left
    refine ⟨fun i h => ?_, rfl⟩
    rw [h.device] at hdevice
    cases hdevice
  | some name =>
    have hname {i : Interface} (h : e.Describes indexOf i) : i.index = indexOf name := by
      rw [h.index, Option.some.inj (h.device.symm.trans hdevice)]
    dsimp only
    by_cases hpassed : indexOf name = 0 ∨ indexOf name ∈ seen
    · left
      refine ⟨fun i h => ?_, if_pos (by simpa using hpassed)⟩
      rw [hname h]
      exact hpassed.resolve_left fun hzero => h.known ((hname h).trans hzero)
    · right
      obtain ⟨hknown, hnew⟩ := not_or.mp hpassed
      exact ⟨⟨name, indexOf name, e.up, e.protocol.getD ""⟩, ⟨hdevice, rfl, hknown, rfl, rfl⟩, hnew,
        if_neg (by simpa using hpassed)⟩

/-! ## The list -/

section
variable {before rest : List Entry} {seen : List UInt32} {e : Entry} {i : Interface}

/-- The numbers that have come before are those that the records before describe. -/
def Knows (indexOf : String → UInt32) (before : List Entry) (seen : List UInt32) : Prop :=
  ∀ n, n ∈ seen ↔ ∃ e ∈ before, ∃ i, e.Describes indexOf i ∧ i.index = n

theorem Knows.skip (h : Knows indexOf before seen) (hskip : ∀ i, e.Describes indexOf i → i.index ∈ seen) :
    Knows indexOf (before ++ [e]) seen := by
  intro n
  rw [h n]
  constructor
  · rintro ⟨e', he', hn⟩
    exact ⟨e', List.mem_append_left _ he', hn⟩
  · rintro ⟨e', he', i, hi, rfl⟩
    rcases List.mem_append.mp he' with he' | he'
    · exact ⟨e', he', i, hi, rfl⟩
    · obtain rfl := List.mem_singleton.mp he'
      exact (h i.index).mp (hskip i hi)

theorem Knows.take (h : Knows indexOf before seen) (hi : e.Describes indexOf i) :
    Knows indexOf (before ++ [e]) (i.index :: seen) := by
  intro n
  rw [List.mem_cons, h n]
  constructor
  · rintro (rfl | ⟨e', he', hn⟩)
    · exact ⟨e, List.mem_append_right _ List.mem_cons_self, i, hi, rfl⟩
    · exact ⟨e', List.mem_append_left _ he', hn⟩
  · rintro ⟨e', he', i', hi', rfl⟩
    rcases List.mem_append.mp he' with he' | he'
    · exact .inr ⟨e', he', i', hi', rfl⟩
    · obtain rfl := List.mem_singleton.mp he'
      rw [hi'.unique hi]
      exact .inl rfl

/-- The next record is the first one of an interface exactly if it describes it under a number that has not come
before. -/
theorem Knows.firstAt_iff (h : Knows indexOf before seen) :
    FirstAt indexOf (before ++ e :: rest) before.length i ↔ e.Describes indexOf i ∧ i.index ∉ seen := by
  have hnext : (before ++ e :: rest)[before.length]? = some e := by simp
  have hearlier {position : Nat} (hlt : position < before.length) :
      (before ++ e :: rest)[position]? = before[position]? := List.getElem?_append_left hlt
  constructor
  · rintro ⟨⟨e', he', hi⟩, hfirst⟩
    obtain rfl : e = e' := Option.some.inj (hnext.symm.trans he')
    refine ⟨hi, fun hmem => ?_⟩
    obtain ⟨e', he', i', hi', heq⟩ := (h i.index).mp hmem
    obtain ⟨position, hlt, hget⟩ := List.getElem_of_mem he'
    refine hfirst position hlt e' i' ?_ hi' heq
    rw [hearlier hlt, List.getElem?_eq_getElem hlt, hget]
  · rintro ⟨hi, hnew⟩
    refine ⟨⟨e, hnext, hi⟩, ?_⟩
    intro position hlt e' i' he' hi' heq
    rw [hearlier hlt] at he'
    exact hnew ((h i.index).mpr ⟨e', List.mem_of_getElem? he', i', hi', heq⟩)

/-- The first records from here on are the next one, if it is one, and those after it. -/
theorem Knows.firstAt_from (h : Knows indexOf before seen) (position : Nat) :
    before.length ≤ position ∧ FirstAt indexOf (before ++ e :: rest) position i ↔
      (position = before.length ∧ e.Describes indexOf i ∧ i.index ∉ seen) ∨
        ((before ++ [e]).length ≤ position ∧ FirstAt indexOf (before ++ [e] ++ rest) position i) := by
  rw [← List.append_cons, List.length_append, List.length_singleton]
  constructor
  · rintro ⟨hle, hat⟩
    obtain rfl | hlt := Nat.eq_or_lt_of_le hle
    · exact .inl ⟨rfl, h.firstAt_iff.mp hat⟩
    · exact .inr ⟨hlt, hat⟩
  · rintro (⟨rfl, hnew⟩ | ⟨hlt, hat⟩)
    · exact ⟨Nat.le_refl _, h.firstAt_iff.mpr hnew⟩
    · exact ⟨Nat.le_of_succ_le hlt, hat⟩

variable (rest) in
/-- What is taken of the rest of a list: the interfaces whose first record is there. -/
theorem exists_firsts (h : Knows indexOf before seen) :
    ∃ firsts : List (Nat × Interface), firsts.map Prod.snd = ofEntries indexOf seen rest ∧
      firsts.Pairwise (fun a b => a.1 < b.1) ∧
      ∀ position i, (position, i) ∈ firsts ↔
        before.length ≤ position ∧ FirstAt indexOf (before ++ rest) position i := by
  -- On the rest of the list, with any records before it that the numbers seen tell of.
  induction rest generalizing before seen with
  | nil =>
    refine ⟨[], rfl, .nil, fun position i => ⟨nofun, ?_⟩⟩
    rintro ⟨hle, ⟨e, he, -⟩, -⟩
    rw [List.append_nil, List.getElem?_eq_none hle] at he
    cases he
  | cons e rest ih =>
    obtain ⟨hskip, heq⟩ | ⟨i, hi, hnew, heq⟩ := ofEntries_cons indexOf seen e rest
    · obtain ⟨firsts, hmap, hsorted, hmem⟩ := ih (h.skip hskip)
      refine ⟨firsts, hmap.trans heq.symm, hsorted, fun position i => ?_⟩
      rw [hmem, h.firstAt_from]
      refine ⟨.inr, ?_⟩
      rintro (⟨-, hi, hnew⟩ | hlater)
      · exact absurd (hskip i hi) hnew
      · exact hlater
    · obtain ⟨firsts, hmap, hsorted, hmem⟩ := ih (h.take hi)
      refine ⟨(before.length, i) :: firsts, ?_, ?_, fun position i' => ?_⟩
      · rw [heq, List.map_cons, hmap]
      · refine List.pairwise_cons.mpr ⟨fun later hlater => ?_, hsorted⟩
        have hle := ((hmem later.1 later.2).mp hlater).1
        rw [List.length_append] at hle
        exact hle
      · rw [List.mem_cons, hmem, h.firstAt_from, Prod.mk.injEq]
        refine or_congr_left (and_congr_right fun _ => ?_)
        constructor
        · rintro rfl
          exact ⟨hi, hnew⟩
        · rintro ⟨hi', -⟩
          exact hi'.unique hi

end

/-- All interfaces of a list are those whose first record is in it. -/
theorem listsFirsts_ofEntries (indexOf : String → UInt32) (es : List Entry) :
    ListsFirsts indexOf es (ofEntries indexOf [] es) := by
  have hnone : Knows indexOf [] [] := fun n => by simp
  obtain ⟨firsts, hmap, hsorted, hmem⟩ := exists_firsts es hnone
  refine ⟨firsts, hmap, hsorted, fun position i => ?_⟩
  rw [hmem]
  exact and_iff_right (Nat.zero_le _)

section
variable {es : List Entry} {is : List Interface}

theorem ListsFirsts.index_ne_zero (h : ListsFirsts indexOf es is) {i : Interface} (hi : i ∈ is) : i.index ≠ 0 := by
  obtain ⟨firsts, rfl, -, hmem⟩ := h
  obtain ⟨⟨position, i⟩, hfirst, rfl⟩ := List.mem_map.mp hi
  obtain ⟨⟨e, -, hdescribed⟩, -⟩ := (hmem position i).mp hfirst
  exact hdescribed.known

theorem ListsFirsts.nodup_index (h : ListsFirsts indexOf es is) : (is.map index).Nodup := by
  obtain ⟨firsts, rfl, hsorted, hmem⟩ := h
  rw [List.Nodup, List.pairwise_map, List.pairwise_map]
  refine hsorted.imp_of_mem fun {a b} ha hb hlt => ?_
  obtain ⟨⟨e, he, hdescribed⟩, -⟩ := (hmem a.1 a.2).mp ha
  exact ((hmem b.1 b.2).mp hb).first a.1 hlt e a.2 he hdescribed

end

/-! ## The questions -/

section
variable {τ α : Type} (air : Neighbour.Air) (search : Neighbour.Search) (judge : Neighbour.Judge τ α) (state : τ)

theorem scopes_askAll (is : List Interface) :
    (Neighbour.askAll air search judge state is).asked.map (fun q => q.destination.scope) =
      (is.filter search.covers).map index := by
  rw [Neighbour.askAll_eq, List.map_map]
  rfl

end

/-- The interfaces of a list that can be read are those that it describes for the first time, in its order. Their
numbers are different and none is zero. A round on these interfaces asks once on each that its search covers, so no two
of its questions go to one number, and none to zero. -/
theorem each_interface_once (indexOf : String → UInt32) {output : Bytes} {es : List Entry}
    (h : entries? output = some es) :
    ∃ is, ofInquiry indexOf (.finished 0 output) = .ok is ∧ ListsFirsts indexOf es is ∧
      (∀ i ∈ is, i.index ≠ 0) ∧ (is.map index).Nodup ∧
      ∀ {τ α : Type} (air : Neighbour.Air) (search : Neighbour.Search) (judge : Neighbour.Judge τ α) (state : τ),
        let scopes := (Neighbour.askAll air search judge state is).asked.map fun q => q.destination.scope
        scopes = (is.filter search.covers).map index ∧ scopes.Nodup ∧ 0 ∉ scopes := by
  have hfirsts := listsFirsts_ofEntries indexOf es
  refine ⟨ofEntries indexOf [] es, ?_, hfirsts, fun i => hfirsts.index_ne_zero, hfirsts.nodup_index, ?_⟩
  · simp [ofInquiry, h]
  · intro τ α air search judge state scopes
    have hscopes : scopes = ((ofEntries indexOf [] es).filter search.covers).map index :=
      scopes_askAll air search judge state _
    have hsublist : scopes.Sublist ((ofEntries indexOf [] es).map index) := by
      rw [hscopes]
      exact List.filter_sublist.map index
    refine ⟨hscopes, hsublist.nodup hfirsts.nodup_index, fun hzero => ?_⟩
    obtain ⟨i, hi, heq⟩ := List.mem_map.mp (hsublist.subset hzero)
    exact hfirsts.index_ne_zero hi heq

/-- A list with a record without a device, a device that the kernel does not know, two names of one device, and a device
that is down. A round asks on the first name only. -/
theorem each_interface_once_of_alias :
    let output := Bytes.ofText ("\x7b\"interface\":[\x7b\"up\":true\x7d,\x7b\"device\":\"gone0\",\"up\":true\x7d," ++
      "\x7b\"device\":\"mesh0\",\"up\":true,\"proto\":\"gluon_mesh\"\x7d,\x7b\"device\":\"eth0\"\x7d," ++
      "\x7b\"device\":\"alias0\",\"up\":true,\"proto\":\"gluon_mesh\"\x7d]\x7d")
    let es : List Entry := [⟨none, true, none⟩, ⟨some "gone0", true, none⟩, ⟨some "mesh0", true, some "gluon_mesh"⟩,
      ⟨some "eth0", false, none⟩, ⟨some "alias0", true, some "gluon_mesh"⟩]
    let indexOf (name : String) : UInt32 :=
      if name = "mesh0" ∨ name = "alias0" then 5 else if name = "eth0" then 3 else 0
    let is : List Interface := [⟨"mesh0", 5, true, "gluon_mesh"⟩, ⟨"eth0", 3, false, ""⟩]
    let search : Neighbour.Search := ⟨["gluon_mesh"], 1001, 3000000000⟩
    entries? output = some es ∧ ofInquiry indexOf (.finished 0 output) = .ok is ∧ ListsFirsts indexOf es is ∧
      (is.map index).Nodup ∧
      ∀ (air : Neighbour.Air) (judge : Neighbour.Judge Unit Unit),
        let scopes := (Neighbour.askAll air search judge () is).asked.map fun q => q.destination.scope
        scopes = [5] ∧ scopes.Nodup ∧ 0 ∉ scopes := by
  intro output es indexOf is search
  have hread : entries? output = some es := by decide +kernel
  obtain ⟨listed, hlisted, hfirsts, -, hnodup, hasked⟩ := each_interface_once indexOf hread
  obtain rfl : is = listed := by
    have his : ofInquiry indexOf (.finished 0 output) = .ok is := by decide +kernel
    exact Except.ok.inj (his.symm.trans hlisted)
  refine ⟨hread, hlisted, hfirsts, hnodup, fun air judge => ⟨?_, (hasked air search judge ()).2⟩⟩
  exact (scopes_askAll air search judge () is).trans rfl

end MeshFirmware.Interface
