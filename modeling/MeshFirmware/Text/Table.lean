import MeshFirmware.Bytes

/-!
# Tables sorted by name

A table holds one entry for each of its names, in the order of the names' bytes.
-/

namespace MeshFirmware

/-- Whether the first name comes before the second one. -/
def nameBefore (a b : String) : Prop := Bytes.compare (Bytes.ofText a) (Bytes.ofText b) = .lt

/-- Entries under names that increase strictly. -/
structure NameTable (α : Type) where
  entries : List (String × α)
  sorted : entries.Pairwise fun a b => nameBefore a.1 b.1

namespace NameTable
variable {α : Type}

/-- The table without entries. -/
def empty : NameTable α := ⟨[], .nil⟩

instance : Inhabited (NameTable α) := ⟨empty⟩

/-- Puts an entry into its place, instead of one that has the same name. -/
def insertSorted (name : String) (a : α) : List (String × α) → List (String × α)
  | [] => [(name, a)]
  | e :: rest =>
    match Bytes.compare (Bytes.ofText name) (Bytes.ofText e.1) with
    | .lt => (name, a) :: e :: rest
    | .eq => (name, a) :: rest
    | .gt => e :: insertSorted name a rest

theorem ofText_injective {a b : String} (h : Bytes.ofText a = Bytes.ofText b) : a = b := by
  have h' : a.toUTF8.data = b.toUTF8.data := Array.ext' (by simpa [Bytes.ofText] using h)
  exact String.toByteArray_inj.mp (ByteArray.ext h')

theorem name_of_mem_insertSorted {name : String} {a : α} {es : List (String × α)} {x : String × α}
    (h : x ∈ insertSorted name a es) : x.1 = name ∨ x ∈ es := by
  induction es with
  | nil => simp_all [insertSorted]
  | cons e rest ih =>
    unfold insertSorted at h
    split at h
    · rcases List.mem_cons.mp h with rfl | h
      · exact .inl rfl
      · exact .inr h
    · rcases List.mem_cons.mp h with rfl | h
      · exact .inl rfl
      · exact .inr (List.mem_cons_of_mem _ h)
    · rcases List.mem_cons.mp h with rfl | h
      · exact .inr List.mem_cons_self
      · rcases ih h with h | h
        · exact .inl h
        · exact .inr (List.mem_cons_of_mem _ h)

theorem pairwise_insertSorted {name : String} {a : α} {es : List (String × α)}
    (h : es.Pairwise fun a b => nameBefore a.1 b.1) :
    (insertSorted name a es).Pairwise fun a b => nameBefore a.1 b.1 := by
  induction es with
  | nil => simp [insertSorted]
  | cons e rest ih =>
    obtain ⟨he, hrest⟩ := List.pairwise_cons.mp h
    unfold insertSorted
    split
    · rename_i hlt
      refine List.pairwise_cons.mpr ⟨?_, h⟩
      intro x hx
      rcases List.mem_cons.mp hx with rfl | hx
      · exact hlt
      · exact Bytes.compare_trans hlt (he x hx)
    · rename_i heq
      have hname : name = e.1 := ofText_injective (Bytes.eq_of_compare heq)
      refine List.pairwise_cons.mpr ⟨?_, hrest⟩
      intro x hx
      rw [hname]
      exact he x hx
    · rename_i hgt
      refine List.pairwise_cons.mpr ⟨?_, ih hrest⟩
      intro x hx
      rcases name_of_mem_insertSorted hx with hx | hx
      · unfold nameBefore
        rw [hx, Bytes.compare_swap, hgt]
        rfl
      · exact he x hx

/-- The table with an entry more, or a new one under a name it has. -/
def insert (name : String) (a : α) (t : NameTable α) : NameTable α :=
  ⟨insertSorted name a t.entries, pairwise_insertSorted t.sorted⟩

/-- The table of these entries; of two with one name the later one stays. -/
def ofList (es : List (String × α)) : NameTable α := es.foldl (fun t e => t.insert e.1 e.2) empty

/-- The entry under a name. -/
def get? (t : NameTable α) (name : String) : Option α :=
  (t.entries.find? fun e => e.1 == name).map (·.2)

end NameTable

end MeshFirmware
