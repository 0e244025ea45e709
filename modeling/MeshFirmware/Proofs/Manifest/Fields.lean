import Mathlib.Data.List.TakeWhile
import MeshFirmware.Proofs.Manifest.Signed
import MeshFirmware.Proofs.Text.Hex

/-!
# What the lines of a manifest give

Each field of a manifest is given by one line above the separator (`fields_from_lines`): the day and the window of the
rollout by the last line that gives one, the image by the first. A line gives a whole image or none, so that no two
lines ever share in one. Lines that come later keep the image, add to the signatures, and take nothing back
(`extends_readLines`).
-/

namespace MeshFirmware.Manifest

/-! ## The lines -/

/-- The line gives the day of the release. -/
def GivesDate (line : String) (date : Instant) : Prop := ∃ v, line = "DATE=" ++ v ∧ Calendar.parseDate v = some date

/-- The line gives the window of the rollout: a finite number that is not negative. -/
def GivesPriority (line : String) (days : Float) : Prop :=
  ∃ v, line = "PRIORITY=" ++ v ∧ Numeral.float? (Text.trim v.toList) = some days ∧ days.isFinite = true ∧ days ≥ 0.0

/-- A number in decimal digits, perhaps with a plus sign. -/
def WritesSize (text : List Char) (size : UInt64) : Prop :=
  ∃ ds, (text = ds ∨ text = '+' :: ds) ∧ ds ≠ [] ∧ (∀ c ∈ ds, c.isDigit = true) ∧ Numeral.decimal ds = size.toNat

/-- The fields of a line are those of an image: the model, the version, the checksum, perhaps the size, the file. -/
def WritesImage (model : String) (image : ImageRecord) (fields : List (List Char)) : Prop :=
  ∃ checksum, Hex.Writes checksum image.hash.bytes ∧
    ((fields = [model.toList, image.version.toList, checksum, image.file.toList] ∧ image.size = none) ∨
      ∃ digits size, fields = [model.toList, image.version.toList, checksum, digits, image.file.toList] ∧
        WritesSize digits size ∧ image.size = some size)

/-- The line gives the image for a model. -/
structure GivesImage (model line : String) (image : ImageRecord) : Prop where
  unnamed : ∀ v, line ≠ "BRANCH=" ++ v ∧ line ≠ "DATE=" ++ v ∧ line ≠ "PRIORITY=" ++ v
  fields : WritesImage model image (Text.fields line.toList)

/-- What the first of the lines gives that gives anything. -/
def IsFirst {β : Type} (gives : String → β → Prop) (lines : List String) : Option β → Prop
  | none => ∀ line ∈ lines, ∀ x, ¬ gives line x
  | some x => ∃ before line after, lines = before ++ line :: after ∧ (∀ l ∈ before, ∀ y, ¬ gives l y) ∧ gives line x

/-- What the last of the lines gives that gives anything. -/
def IsLast {β : Type} (gives : String → β → Prop) (lines : List String) (value : Option β) : Prop :=
  IsFirst gives lines.reverse value

/-! ## First and last lines -/

section
variable {β : Type} {gives : String → β → Prop} {lines : List String} {line : String} {value : Option β} {x : β}

theorem IsFirst.isSome_iff (h : IsFirst gives lines value) :
    value.isSome = true ↔ ∃ line ∈ lines, ∃ x, gives line x := by
  cases value with
  | none =>
    constructor
    · intro hnone
      cases hnone
    · rintro ⟨line, hmem, x, hx⟩
      exact absurd hx (h line hmem x)
  | some x =>
    obtain ⟨before, line, after, rfl, -, hx⟩ := h
    exact ⟨fun _ => ⟨line, List.mem_append_right _ List.mem_cons_self, x, hx⟩, fun _ => rfl⟩

theorem IsLast.isSome_iff (h : IsLast gives lines value) :
    value.isSome = true ↔ ∃ line ∈ lines, ∃ x, gives line x := by
  simpa using IsFirst.isSome_iff h

theorem IsFirst.concat_of_gives (h : IsFirst gives lines none) (hx : gives line x) :
    IsFirst gives (lines ++ [line]) (some x) :=
  ⟨lines, line, [], rfl, h, hx⟩

theorem IsFirst.concat (h : IsFirst gives lines value) (hline : value = none → ∀ x, ¬ gives line x) :
    IsFirst gives (lines ++ [line]) value := by
  cases value with
  | none => exact List.forall_mem_append.mpr ⟨h, List.forall_mem_singleton.mpr (hline rfl)⟩
  | some x =>
    obtain ⟨before, l, after, rfl, hbefore, hx⟩ := h
    exact ⟨before, l, after ++ [line], by rw [List.append_assoc, List.cons_append], hbefore, hx⟩

theorem IsLast.concat_of_gives (hx : gives line x) : IsLast gives (lines ++ [line]) (some x) := by
  rw [IsLast, List.reverse_concat]
  exact ⟨[], line, lines.reverse, rfl, by simp, hx⟩

theorem IsLast.concat (h : IsLast gives lines value) (hline : ∀ x, ¬ gives line x) :
    IsLast gives (lines ++ [line]) value := by
  rw [IsLast, List.reverse_concat]
  cases value with
  | none => exact List.forall_mem_cons.mpr ⟨hline, h⟩
  | some x =>
    obtain ⟨before, l, after, heq, hbefore, hx⟩ := h
    exact ⟨line :: before, l, after, by rw [heq, List.cons_append], List.forall_mem_cons.mpr ⟨hline, hbefore⟩, hx⟩

end

/-! ## One line -/

theorem priority?_eq_some {v : String} {days : Float} :
    priority? v = some days ↔
      Numeral.float? (Text.trim v.toList) = some days ∧ days.isFinite = true ∧ days ≥ 0.0 := by
  simp only [priority?, Option.bind_eq_some_iff]
  constructor
  · rintro ⟨x, hx, h⟩
    split at h
    · rename_i hfit
      obtain rfl := Option.some.inj h
      rw [Bool.and_eq_true, decide_eq_true_eq] at hfit
      exact ⟨hx, hfit⟩
    · cases h
  · rintro ⟨hx, hfinite, hle⟩
    exact ⟨days, hx, if_pos (by rw [hfinite, decide_eq_true hle]; rfl)⟩

theorem natural?_eq_some {ds : List Char} {n : Nat} :
    Numeral.natural? ds = some n ↔ ds ≠ [] ∧ (∀ c ∈ ds, c.isDigit = true) ∧ Numeral.decimal ds = n := by
  rw [Numeral.natural?]
  split
  · rename_i h
    simp only [Bool.and_eq_true, Bool.not_eq_true', List.isEmpty_eq_false_iff, List.all_eq_true] at h
    rw [Option.some.injEq, ← and_assoc, and_iff_right h]
  · rename_i h
    simp only [Bool.and_eq_true, Bool.not_eq_true', List.isEmpty_eq_false_iff, List.all_eq_true] at h
    constructor
    · intro hnone
      cases hnone
    · rintro ⟨hne, hall, -⟩
      exact absurd ⟨hne, hall⟩ h

theorem fit64?_eq_some {n : Nat} {size : UInt64} : Numeral.fit64? n = some size ↔ n = size.toNat := by
  rw [Numeral.fit64?]
  split
  · rename_i hlt
    rw [Option.some.injEq, ← UInt64.toNat_inj, UInt64.toNat_ofNat_of_lt' hlt]
  · rename_i hge
    constructor
    · intro hnone
      cases hnone
    · rintro rfl
      exact absurd size.toNat_lt hge

theorem word64?_eq_some {text : List Char} {size : UInt64} :
    Numeral.word64? text = some size ↔ WritesSize text size := by
  have hdigits (ds : List Char) : (Numeral.natural? ds).bind Numeral.fit64? = some size ↔
      ds ≠ [] ∧ (∀ c ∈ ds, c.isDigit = true) ∧ Numeral.decimal ds = size.toNat := by
    simp only [Option.bind_eq_some_iff, natural?_eq_some, fit64?_eq_some]
    constructor
    · rintro ⟨n, ⟨hne, hall, rfl⟩, hn⟩
      exact ⟨hne, hall, hn⟩
    · rintro ⟨hne, hall, hn⟩
      exact ⟨_, ⟨hne, hall, rfl⟩, hn⟩
  unfold Numeral.word64?
  split
  · rename_i s
    rw [hdigits]
    constructor
    · exact fun h => ⟨s, .inr rfl, h⟩
    · rintro ⟨ds, rfl | heq, hne, hall, hn⟩
      · -- A plus sign is no digit.
        exact absurd (hall '+' List.mem_cons_self) (by decide)
      · obtain rfl := List.tail_eq_of_cons_eq heq
        exact ⟨hne, hall, hn⟩
  · rename_i hplus
    rw [hdigits]
    constructor
    · exact fun h => ⟨text, .inl rfl, h⟩
    · rintro ⟨ds, rfl | rfl, h⟩
      · exact h
      · exact absurd rfl (hplus ds)

theorem checksum?_eq_some {text : List Char} {hash : Hash.Digest} :
    checksum? text = some hash ↔ Hex.Writes text hash.bytes := by
  rw [← Hex.decode_eq_ok_iff, checksum?]
  cases Hex.decode (Bytes.ofText (String.ofList text)) with
  | error f => simp
  | ok b => rw [Except.ok.injEq]; exact Octets.ofBytes?_eq_some

theorem imageLine?_eq_some {model line : String} {image : ImageRecord} :
    imageLine? model line = some image ↔ WritesImage model image (Text.fields line.toList) := by
  have hrecord (m v c f : List Char) (size : Option UInt64) :
      (if String.ofList m == model then
        (checksum? c).map fun hash => ⟨String.ofList v, hash, size, String.ofList f⟩ else none) = some image ↔
        m = model.toList ∧ v = image.version.toList ∧ Hex.Writes c image.hash.bytes ∧ f = image.file.toList ∧
          size = image.size := by
    obtain ⟨version, hash, size', file⟩ := image
    rw [← checksum?_eq_some]
    split
    · rename_i hm
      obtain rfl : String.ofList m = model := eq_of_beq hm
      rw [Option.map_eq_some_iff]
      constructor
      · rintro ⟨hash, hhash, heq⟩
        obtain ⟨rfl, rfl, rfl, rfl⟩ := ImageRecord.mk.inj heq
        simp [hhash]
      · rintro ⟨-, rfl, hhash, rfl, rfl⟩
        exact ⟨hash, hhash, by simp⟩
    · rename_i hm
      constructor
      · intro hnone
        cases hnone
      · rintro ⟨rfl, -⟩
        simp at hm
  unfold imageLine? WritesImage
  dsimp only
  split
  · rename_i m v c f hfields
    rw [hrecord, hfields]
    constructor
    · rintro ⟨rfl, rfl, hhash, rfl, hsize⟩
      exact ⟨c, hhash, .inl ⟨rfl, hsize.symm⟩⟩
    · rintro ⟨checksum, hhash, ⟨heq, hsize⟩ | ⟨digits, size, heq, -⟩⟩
      · simp only [List.cons.injEq, and_true] at heq
        obtain ⟨rfl, rfl, rfl, rfl⟩ := heq
        exact ⟨rfl, rfl, hhash, rfl, hsize.symm⟩
      · cases congrArg List.length heq
  · rename_i m v c s f hfields
    rw [Option.bind_eq_some_iff, hfields]
    constructor
    · rintro ⟨size, hsize, himage⟩
      obtain ⟨rfl, rfl, hhash, rfl, heq⟩ := (hrecord ..).mp himage
      exact ⟨c, hhash, .inr ⟨s, size, rfl, word64?_eq_some.mp hsize, heq.symm⟩⟩
    · rintro ⟨checksum, hhash, ⟨heq, -⟩ | ⟨digits, size, heq, hdigits, hsize⟩⟩
      · cases congrArg List.length heq
      · simp only [List.cons.injEq, and_true] at heq
        obtain ⟨rfl, rfl, rfl, rfl, rfl⟩ := heq
        exact ⟨size, word64?_eq_some.mpr hdigits, (hrecord ..).mpr ⟨rfl, rfl, hhash, rfl, hsize.symm⟩⟩
  · rename_i hfour hfive
    constructor
    · intro hnone
      cases hnone
    · rintro ⟨checksum, -, ⟨heq, -⟩ | ⟨digits, size, heq, -⟩⟩
      · exact absurd heq (hfour _ _ _ _)
      · exact absurd heq (hfive _ _ _ _ _)

section
variable (branch model : String)

/-- All that a line above the separator can do: it gives one thing, or nothing. -/
inductive Gives (m : Manifest) (line : String) : Manifest → Prop where
  | branch (h : line = "BRANCH=" ++ branch) : Gives m line { m with branchNamed := true }
  | date (t : Instant) (h : GivesDate line t) : Gives m line { m with date := some t }
  | priority (x : Float) (h : GivesPriority line x) : Gives m line { m with priority := some x }
  | image (r : ImageRecord) (h : GivesImage model line r) (first : m.image = none) :
    Gives m line { m with image := some r }
  | nothing (branch : line ≠ "BRANCH=" ++ branch) (date : ∀ t, ¬ GivesDate line t)
    (priority : ∀ x, ¬ GivesPriority line x) (image : m.image = none → ∀ r, ¬ GivesImage model line r) :
    Gives m line m

variable {branch model} {line : String}

theorem eq_branch_iff : line = "BRANCH=" ++ branch ↔ value? "BRANCH" line = some branch := by
  rw [value?_eq_some]
  rfl

theorem givesDate_iff {t : Instant} :
    GivesDate line t ↔ ∃ v, value? "DATE" line = some v ∧ Calendar.parseDate v = some t := by
  simp only [value?_eq_some]
  rfl

theorem givesPriority_iff {x : Float} :
    GivesPriority line x ↔ ∃ v, value? "PRIORITY" line = some v ∧ priority? v = some x := by
  simp only [value?_eq_some, priority?_eq_some]
  rfl

theorem givesImage_iff {r : ImageRecord} :
    GivesImage model line r ↔ IsUnnamed line ∧ imageLine? model line = some r := by
  have hunnamed : IsUnnamed line ↔ ∀ v, line ≠ "BRANCH=" ++ v ∧ line ≠ "DATE=" ++ v ∧ line ≠ "PRIORITY=" ++ v := by
    simp only [IsUnnamed, Option.eq_none_iff_forall_ne_some, ne_eq, value?_eq_some, ← forall_and]
    rfl
  rw [hunnamed, imageLine?_eq_some]
  exact ⟨fun h => ⟨h.unnamed, h.fields⟩, fun h => ⟨h.1, h.2⟩⟩

/-- A line has one name. -/
theorem value?_of_other {name : String} (other : String) {v : String} (h : value? name line = some v)
    (hother : (name ++ "=").toList.head? ≠ (other ++ "=").toList.head?) : value? other line = none := by
  have hhead {n u : String} (hn : value? n line = some u) : line.toList.head? = (n ++ "=").toList.head? := by
    have hne : (n ++ "=").toList ≠ [] := by simp
    rw [value?_eq_some.mp hn, String.toList_append, List.head?_append, List.head?_eq_some_head hne]
    rfl
  rw [Option.eq_none_iff_forall_ne_some]
  intro w hw
  exact hother ((hhead h).symm.trans (hhead hw))

theorem Gives.of_values {m : Manifest} (hbranch : value? "BRANCH" line ≠ some branch)
    (hdate : ∀ v, value? "DATE" line = some v → Calendar.parseDate v = none)
    (hpriority : ∀ v, value? "PRIORITY" line = some v → priority? v = none)
    (himage : IsUnnamed line → m.image = none → imageLine? model line = none) : Gives branch model m line m := by
  refine .nothing ?_ ?_ ?_ ?_
  · rwa [ne_eq, eq_branch_iff]
  · intro t ht
    obtain ⟨v, hv, hsome⟩ := givesDate_iff.mp ht
    rw [hdate v hv] at hsome
    cases hsome
  · intro x hx
    obtain ⟨v, hv, hsome⟩ := givesPriority_iff.mp hx
    rw [hpriority v hv] at hsome
    cases hsome
  · intro hnone r hr
    obtain ⟨hline, hsome⟩ := givesImage_iff.mp hr
    rw [himage hline hnone] at hsome
    cases hsome

theorem gives_readField (m : Manifest) (line : String) :
    Gives branch model m line (readField branch model m line) := by
  unfold readField
  split
  · rename_i v hv
    have hdate := value?_of_other "DATE" hv (by decide)
    have hpriority := value?_of_other "PRIORITY" hv (by decide)
    split
    · rename_i hb
      obtain rfl : v = branch := eq_of_beq hb
      exact .branch (eq_branch_iff.mpr hv)
    · rename_i hb
      exact .of_values (by simpa [hv] using hb) (by simp [hdate]) (by simp [hpriority]) (by simp [IsUnnamed, hv])
  · rename_i hbranch
    split
    · rename_i v hv
      have hpriority := value?_of_other "PRIORITY" hv (by decide)
      split
      · rename_i t ht
        exact .date t (givesDate_iff.mpr ⟨v, hv, ht⟩)
      · rename_i ht
        exact .of_values (by simp [hbranch]) (by simp [hv, ht]) (by simp [hpriority]) (by simp [IsUnnamed, hv])
    · rename_i hdate
      split
      · rename_i v hv
        split
        · rename_i x hx
          exact .priority x (givesPriority_iff.mpr ⟨v, hv, hx⟩)
        · rename_i hx
          exact .of_values (by simp [hbranch]) (by simp [hdate]) (by simp [hv, hx]) (by simp [IsUnnamed, hv])
      · rename_i hpriority
        split
        · rename_i r hr
          exact .of_values (by simp [hbranch]) (by simp [hdate]) (by simp [hpriority]) (by simp [hr])
        · rename_i hnone
          cases himage : imageLine? model line with
          | some r => exact .image r (givesImage_iff.mpr ⟨⟨hbranch, hdate, hpriority⟩, himage⟩) hnone
          | none =>
            have hsame : { m with image := none } = m := by rw [← hnone]
            rw [hsame]
            exact .of_values (by simp [hbranch]) (by simp [hdate]) (by simp [hpriority]) (by simp [himage])

theorem names_apart (v w : String) : "BRANCH=" ++ v ≠ "DATE=" ++ w ∧ "BRANCH=" ++ v ≠ "PRIORITY=" ++ w ∧
    "DATE=" ++ v ≠ "PRIORITY=" ++ w := by
  simp [← String.toList_inj]

variable (model) in
theorem only_branch (h : line = "BRANCH=" ++ branch) :
    (∀ t, ¬ GivesDate line t) ∧ (∀ x, ¬ GivesPriority line x) ∧ ∀ r, ¬ GivesImage model line r := by
  subst h
  refine ⟨?_, ?_, ?_⟩
  · rintro t ⟨v, hv, -⟩
    exact (names_apart branch v).1 hv
  · rintro x ⟨v, hv, -⟩
    exact (names_apart branch v).2.1 hv
  · intro r hr
    exact (hr.unnamed branch).1 rfl

variable (branch model) in
theorem GivesDate.only {t : Instant} (h : GivesDate line t) :
    line ≠ "BRANCH=" ++ branch ∧ (∀ x, ¬ GivesPriority line x) ∧ ∀ r, ¬ GivesImage model line r := by
  obtain ⟨v, rfl, -⟩ := h
  refine ⟨fun hv => (names_apart branch v).1 hv.symm, ?_, ?_⟩
  · rintro x ⟨w, hw, -⟩
    exact (names_apart v w).2.2 hw
  · intro r hr
    exact (hr.unnamed v).2.1 rfl

variable (branch model) in
theorem GivesPriority.only {x : Float} (h : GivesPriority line x) :
    line ≠ "BRANCH=" ++ branch ∧ (∀ t, ¬ GivesDate line t) ∧ ∀ r, ¬ GivesImage model line r := by
  obtain ⟨v, rfl, -⟩ := h
  refine ⟨fun hv => (names_apart branch v).2.1 hv.symm, ?_, ?_⟩
  · rintro t ⟨w, hw, -⟩
    exact (names_apart w v).2.2 hw.symm
  · intro r hr
    exact (hr.unnamed v).2.2 rfl

variable (branch) in
theorem GivesImage.only {r : ImageRecord} (h : GivesImage model line r) :
    line ≠ "BRANCH=" ++ branch ∧ (∀ t, ¬ GivesDate line t) ∧ ∀ x, ¬ GivesPriority line x := by
  refine ⟨(h.unnamed branch).1, ?_, ?_⟩
  · rintro t ⟨v, hv, -⟩
    exact (h.unnamed v).2.1 hv
  · rintro x ⟨v, hv, -⟩
    exact (h.unnamed v).2.2 hv

/-! ## All lines -/

variable (branch model) in
/-- The fields of a manifest are those that the lines give. -/
structure Fields (lines : List String) (m : Manifest) : Prop where
  branch : m.branchNamed = true ↔ "BRANCH=" ++ branch ∈ lines
  date : IsLast GivesDate lines m.date
  priority : IsLast GivesPriority lines m.priority
  image : IsFirst (GivesImage model) lines m.image

theorem fields_nil : Fields branch model [] empty :=
  ⟨by simp [empty], by simp [IsLast, IsFirst, empty], by simp [IsLast, IsFirst, empty], by simp [IsFirst, empty]⟩

theorem Fields.concat {lines : List String} {m m' : Manifest} (h : Fields branch model lines m)
    (hline : Gives branch model m line m') : Fields branch model (lines ++ [line]) m' := by
  have hbranch_kept (hother : line ≠ "BRANCH=" ++ branch) :
      m.branchNamed = true ↔ "BRANCH=" ++ branch ∈ lines ++ [line] := by
    simp [h.branch, hother.symm]
  cases hline with
  | branch heq =>
    obtain ⟨hdate, hpriority, himage⟩ := only_branch model heq
    exact ⟨by simp [heq], h.date.concat hdate, h.priority.concat hpriority, h.image.concat fun _ => himage⟩
  | date t ht =>
    obtain ⟨hbranch, hpriority, himage⟩ := ht.only branch model
    exact ⟨hbranch_kept hbranch, .concat_of_gives ht, h.priority.concat hpriority, h.image.concat fun _ => himage⟩
  | priority x hx =>
    obtain ⟨hbranch, hdate, himage⟩ := hx.only branch model
    exact ⟨hbranch_kept hbranch, h.date.concat hdate, .concat_of_gives hx, h.image.concat fun _ => himage⟩
  | image r hr hnone =>
    obtain ⟨hbranch, hdate, hpriority⟩ := hr.only branch
    have himage : IsFirst (GivesImage model) lines none := hnone ▸ h.image
    exact ⟨hbranch_kept hbranch, h.date.concat hdate, h.priority.concat hpriority, himage.concat_of_gives hr⟩
  | nothing hbranch hdate hpriority himage =>
    exact ⟨hbranch_kept hbranch, h.date.concat hdate, h.priority.concat hpriority, h.image.concat himage⟩

theorem fields_of_signed {lines : List String} (h : ∀ line ∈ lines, (line != manifestSeparator) = true) :
    Fields branch model lines (empty.readLines branch model lines) ∧
      (empty.readLines branch model lines).separated = false := by
  induction lines using List.reverseRecOn with
  | nil => exact ⟨fields_nil, rfl⟩
  | append_singleton lines line ih =>
    rw [List.forall_mem_append, List.forall_mem_singleton] at h
    obtain ⟨hfields, hseparated⟩ := ih h.1
    have hread : empty.readLines branch model (lines ++ [line]) =
        readLine branch model (empty.readLines branch model lines) line := readLines_append ..
    rw [hread]
    refine ⟨?_, separated_readLine branch model hseparated h.2⟩
    rw [readLine_signed branch model hseparated h.2]
    -- The hash has no part in the fields.
    have hhashed : Fields branch model lines { empty.readLines branch model lines with
        hasher := (empty.readLines branch model lines).hasher.absorb (Bytes.ofText line ++ [newline]) } :=
      ⟨hfields.branch, hfields.date, hfields.priority, hfields.image⟩
    exact hhashed.concat (gives_readField _ line)

theorem fields_readLines (lines : List String) :
    Fields branch model (signedLines lines) (empty.readLines branch model lines) := by
  have hsigned : ∀ line ∈ signedLines lines, (line != manifestSeparator) = true :=
    fun line hline => List.mem_takeWhile_imp (p := (· != manifestSeparator)) hline
  have hfields : Fields branch model (signedLines lines) (empty.readLines branch model (signedLines lines)) :=
    (fields_of_signed hsigned).1
  have hsame := withoutSignatures_readLines branch model (m := empty) rfl lines
  have hkept : Fields branch model (signedLines lines) (empty.readLines branch model lines).withoutSignatures := by
    rw [hsame]
    exact ⟨hfields.branch, hfields.date, hfields.priority, hfields.image⟩
  exact ⟨hkept.branch, hkept.date, hkept.priority, hkept.image⟩

/-! ## Later lines -/

/-- What a manifest has in an earlier state, it has in a later one. -/
structure Extends (m m' : Manifest) : Prop where
  branch : m.branchNamed = true → m'.branchNamed = true
  date : m.date.isSome = true → m'.date.isSome = true
  priority : m.priority.isSome = true → m'.priority.isSome = true
  image : ∀ r, m.image = some r → m'.image = some r
  signatures : m.signatures <+: m'.signatures

theorem Extends.refl (m : Manifest) : Extends m m := ⟨id, id, id, fun _ => id, List.prefix_refl _⟩

theorem Extends.trans {m₁ m₂ m₃ : Manifest} (h : Extends m₁ m₂) (h' : Extends m₂ m₃) : Extends m₁ m₃ :=
  ⟨h'.branch ∘ h.branch, h'.date ∘ h.date, h'.priority ∘ h.priority, fun r hr => h'.image r (h.image r hr),
    h.signatures.trans h'.signatures⟩

theorem Gives.extends {m m' : Manifest} (h : Gives branch model m line m') : Extends m m' := by
  cases h with
  | branch => exact ⟨fun _ => rfl, id, id, fun _ => id, List.prefix_refl _⟩
  | date => exact ⟨id, fun _ => rfl, id, fun _ => id, List.prefix_refl _⟩
  | priority => exact ⟨id, id, fun _ => rfl, fun _ => id, List.prefix_refl _⟩
  | image r _ hnone =>
    refine ⟨id, id, id, ?_, List.prefix_refl _⟩
    intro r' hr'
    rw [hnone] at hr'
    cases hr'
  | nothing => exact .refl m

theorem extends_readLine (m : Manifest) (line : String) : Extends m (readLine branch model m line) := by
  unfold readLine
  split
  · unfold readSignature
    split
    · exact ⟨id, id, id, fun _ => id, List.prefix_append ..⟩
    · exact .refl m
  · split
    · exact ⟨id, id, id, fun _ => id, List.prefix_refl _⟩
    · let hashed : Manifest := { m with hasher := m.hasher.absorb (Bytes.ofText line ++ [10]) }
      have hline : Extends hashed (readField branch model hashed line) := (gives_readField hashed line).extends
      exact ⟨hline.branch, hline.date, hline.priority, hline.image, hline.signatures⟩

theorem extends_readLines (m : Manifest) (lines : List String) : Extends m (m.readLines branch model lines) := by
  induction lines generalizing m with
  | nil => exact .refl m
  | cons line rest ih => exact (extends_readLine m line).trans (ih _)

/-! ## Offers -/

theorem offer_eq_ok_iff {m : Manifest} {o : Offer} : m.offer = .ok o ↔
    m.date = some o.date ∧ m.priority = some o.priority ∧ m.branchNamed = true ∧ m.image = some o.image := by
  obtain ⟨date, priority, branchNamed, image, signatures, separated, hasher⟩ := m
  obtain ⟨date', priority', image'⟩ := o
  cases date <;> cases priority <;> cases branchNamed <;> cases image <;> simp [offer]

end

/-- Every field of a manifest is given by one line above the separator, the signatures by the lines below it. -/
theorem fields_from_lines (branch model : String) (lines : List String) :
    let m := empty.readLines branch model lines
    Fields branch model (signedLines lines) m ∧
      (m.date.isSome = true ↔ ∃ line ∈ signedLines lines, ∃ t, GivesDate line t) ∧
      (m.priority.isSome = true ↔ ∃ line ∈ signedLines lines, ∃ x, GivesPriority line x) ∧
      (m.image.isSome = true ↔ ∃ line ∈ signedLines lines, ∃ r, GivesImage model line r) ∧
      m.signatures = signaturesIn lines ∧
      (∀ line s, Signature.ofHex line = .ok s ↔ Hex.Writes (Text.trim line.toList) s.bytes) ∧
      m.signedDigest = Hash.digest (hashedBytes lines) ∧
      (∀ o, m.offer = .ok o ↔
        m.date = some o.date ∧ m.priority = some o.priority ∧ m.branchNamed = true ∧ m.image = some o.image) ∧
      ∀ more, Extends m (empty.readLines branch model (lines ++ more)) := by
  intro m
  have hfields : Fields branch model (signedLines lines) m := fields_readLines lines
  refine ⟨hfields, hfields.date.isSome_iff, hfields.priority.isSome_iff, hfields.image.isSome_iff, ?signatures,
    fun line s => Octets.ofHex_eq_ok_iff, signedDigest_readLines branch model lines, fun o => offer_eq_ok_iff, ?later⟩
  case signatures =>
    rw [signatures_readLines branch model rfl]
    rfl
  case later =>
    intro more
    rw [readLines_append]
    exact extends_readLines m more

-- A line with a bad checksum gives nothing, and the second line that gives an image is not heard any more.
example :
    let zeros := String.ofList (List.replicate 64 '0')
    let ones := String.ofList (List.replicate 64 '1')
    let lines := ["router v1 0g 10 bad.bin", "router v2 " ++ zeros ++ " +7 good.bin", "router v3 " ++ ones ++ " late.bin"]
    ((empty.readLines "stable" "router" lines).image.map
        fun image => (image.version, image.hash, image.size, image.file)) =
      some ("v2", .zero 32, some 7, "good.bin") := by
  decide +kernel

end MeshFirmware.Manifest
