import MeshFirmware.Manifest.Record
import MeshFirmware.Proofs.Hash.Streaming
import MeshFirmware.Proofs.Manifest.Stream
import MeshFirmware.Proofs.Text.Encoding
import MeshFirmware.Text.Table

/-!
# What a manifest signs

The lines before the separator are hashed, each with a newline, and they alone say something about the release:
the rest of a manifest adds signatures (`withoutSignatures_readLines`). Lines have no newline in them, so the
hashed bytes determine the hashed lines (`signedLines_eq_of_hashedBytes`). Every field of a manifest comes from
one of its signed lines (`branchLine_mem` and the theorems after it).
-/

namespace MeshFirmware

/-! ## Bytes of a line -/

/-- A line without one carriage return at its end. -/
def withoutReturn (line : Bytes) : Bytes :=
  if line.getLast? = some carriageReturn then line.dropLast else line

/-- The bytes of the text of a line are the line without a carriage return. -/
theorem ofText_of_lineText? {line : Bytes} {text : String} (h : lineText? line = some text) :
    Bytes.ofText text = withoutReturn line := by
  obtain ⟨s, hs, hcut⟩ := Option.map_eq_some_iff.mp h
  have hline := Bytes.ofText_of_text? hs
  rcases List.eq_nil_or_concat s.toList with hnil | ⟨cs, c, hcs⟩
  · have hs' : s = "" := String.toList_eq_nil_iff.mp hnil
    subst hs' hline hcut
    rfl
  · have hs' : s = String.ofList (cs ++ [c]) := by rw [← List.concat_eq_append, ← hcs, String.ofList_toList]
    have hbytes : line = Bytes.ofText (String.ofList cs) ++ String.utf8EncodeChar c := by
      rw [← hline, hs', Bytes.ofText_ofList, Bytes.ofText_ofList, List.flatMap_append, List.flatMap_singleton]
    rw [hcs, List.concat_eq_append, List.getLast?_concat, List.dropLast_concat] at hcut
    by_cases hc : c = '\r'
    · subst hc
      have hlast : line = Bytes.ofText (String.ofList cs) ++ [carriageReturn] := hbytes
      rw [if_pos (by decide)] at hcut
      rw [withoutReturn, hlast, if_pos (List.getLast?_concat ..), List.dropLast_concat, ← hcut]
    · rw [if_neg (by simpa using hc)] at hcut
      have hlast : line.getLast? ≠ some carriageReturn := by
        intro hlast
        rw [hbytes, List.getLast?_append, Option.or_eq_some_iff] at hlast
        rcases hlast with he | ⟨hnone, -⟩
        · exact hc (carriageReturn_mem_utf8EncodeChar (List.mem_of_getLast? he))
        · exact String.utf8EncodeChar_ne_nil (List.getLast?_eq_none_iff.mp hnone)
      rw [withoutReturn, if_neg hlast, ← hcut, hline]

theorem withoutReturn_sublist (line : Bytes) : (withoutReturn line).Sublist line := by
  unfold withoutReturn
  split
  · exact List.dropLast_sublist line
  · exact List.Sublist.refl line

namespace LineSplitter

theorem newline_notMem_of_mem_readAll {segs : List Bytes} (h : ∀ line ∈ segs, newline ∉ line) :
    ∀ text ∈ (readAll segs).1, newline ∉ Bytes.ofText text := by
  induction segs with
  | nil =>
    intro text ht
    cases ht
  | cons line rest ih =>
    intro text ht
    have hrest := ih (fun l hl => h l (List.mem_cons_of_mem _ hl))
    rw [readAll] at ht
    split at ht
    · cases ht
    · split at ht
      · cases ht
      · rename_i first hfirst
        rcases List.mem_cons.mp ht with rfl | ht
        · intro hmem
          rw [ofText_of_lineText? hfirst] at hmem
          exact h line List.mem_cons_self ((withoutReturn_sublist line).subset hmem)
        · exact hrest text ht

/-- No line of a stream has a newline in it. -/
theorem newline_notMem_lines (body : Bytes) : ∀ text ∈ (lines body).1, newline ∉ Bytes.ofText text :=
  newline_notMem_of_mem_readAll (fun _ h => newline_notMem_segments h)

end LineSplitter

namespace Manifest

/-- The lines before the separator. -/
def signedLines (lines : List String) : List String := lines.takeWhile (· != manifestSeparator)

/-- The bytes that the signatures are about: the lines before the separator, each with a newline. -/
def hashedBytes (lines : List String) : Bytes :=
  (signedLines lines).flatMap fun line => Bytes.ofText line ++ [newline]

/-- What has been read of a manifest apart from its signatures. -/
def withoutSignatures (m : Manifest) : Manifest := { m with signatures := [], separated := false }

theorem signedLines_separator (rest : List String) : signedLines (manifestSeparator :: rest) = [] :=
  List.takeWhile_cons_of_neg (by simp)

theorem signedLines_cons {line : String} (h : (line != manifestSeparator) = true) (rest : List String) :
    signedLines (line :: rest) = line :: signedLines rest :=
  List.takeWhile_cons_of_pos (p := (· != manifestSeparator)) h

/-! ## The signed lines in the hash -/

theorem segments_flatMap (lines : List String) (h : ∀ line ∈ lines, newline ∉ Bytes.ofText line) :
    LineSplitter.segments (lines.flatMap fun line => Bytes.ofText line ++ [newline]) =
      lines.map Bytes.ofText := by
  induction lines with
  | nil => rfl
  | cons line rest ih =>
    rw [List.flatMap_cons, List.append_assoc, List.singleton_append,
      LineSplitter.segments_newline (h line List.mem_cons_self),
      ih (fun l hl => h l (List.mem_cons_of_mem _ hl)), List.map_cons]

/-- Lines without newlines can be read off the hashed bytes. -/
theorem signedLines_eq_of_hashedBytes {ls ls' : List String}
    (h : ∀ line ∈ ls, newline ∉ Bytes.ofText line) (h' : ∀ line ∈ ls', newline ∉ Bytes.ofText line)
    (heq : hashedBytes ls = hashedBytes ls') : signedLines ls = signedLines ls' := by
  have hsub (xs : List String) : ∀ line ∈ signedLines xs, line ∈ xs :=
    fun _ hl => (List.takeWhile_sublist _).subset hl
  have hsegs := congrArg LineSplitter.segments heq
  rw [hashedBytes, hashedBytes, segments_flatMap _ (fun l hl => h l (hsub _ l hl)),
    segments_flatMap _ (fun l hl => h' l (hsub _ l hl))] at hsegs
  exact (List.map_inj_right fun _ _ => NameTable.ofText_injective).mp hsegs

theorem readLines_append (branch model : String) (m : Manifest) (ls ls' : List String) :
    m.readLines branch model (ls ++ ls') = (m.readLines branch model ls).readLines branch model ls' :=
  List.foldl_append

/-! ## The lines after the separator -/

section
variable (branch model : String)

@[simp] theorem separated_readField (m : Manifest) (line : String) :
    (readField branch model m line).separated = m.separated := by
  unfold readField
  repeat' split
  all_goals rfl

@[simp] theorem signatures_readField (m : Manifest) (line : String) :
    (readField branch model m line).signatures = m.signatures := by
  unfold readField
  repeat' split
  all_goals rfl

@[simp] theorem hasher_readField (m : Manifest) (line : String) :
    (readField branch model m line).hasher = m.hasher := by
  unfold readField
  repeat' split
  all_goals rfl

theorem readLine_separated {m : Manifest} (h : m.separated = true) (line : String) :
    readLine branch model m line = m.readSignature line := by
  rw [readLine, if_pos h]

theorem readLine_separator {m : Manifest} (h : m.separated = false) :
    readLine branch model m manifestSeparator = { m with separated := true } := by
  rw [readLine, if_neg (by simp [h]), if_pos (by simp)]

theorem readLine_signed {m : Manifest} (h : m.separated = false) {line : String}
    (hline : (line != manifestSeparator) = true) :
    readLine branch model m line =
      readField branch model { m with hasher := m.hasher.absorb (Bytes.ofText line ++ [newline]) } line := by
  rw [readLine, if_neg (by simp [h]), if_neg (by simpa using hline)]
  rfl

/-- Only a separator opens the part with the signatures. -/
theorem separated_readLine {m : Manifest} (h : m.separated = false) {line : String}
    (hline : (line != manifestSeparator) = true) : (readLine branch model m line).separated = false := by
  rw [readLine_signed branch model h hline, separated_readField]
  exact h

/-- After the separator a manifest gets signatures and nothing else. -/
theorem withoutSignatures_readLines_separated {m : Manifest} (h : m.separated = true) (lines : List String) :
    (m.readLines branch model lines).withoutSignatures = m.withoutSignatures := by
  induction lines generalizing m with
  | nil => rfl
  | cons line rest ih =>
    have hline : (m.readSignature line).separated = true := by
      unfold readSignature
      split <;> exact h
    have hsame : (m.readSignature line).withoutSignatures = m.withoutSignatures := by
      unfold readSignature withoutSignatures
      split <;> rfl
    rw [readLines, List.foldl_cons, readLine_separated branch model h]
    exact (ih hline).trans hsame

/-- What a manifest says comes from its signed lines. -/
theorem withoutSignatures_readLines {m : Manifest} (h : m.separated = false) (lines : List String) :
    (m.readLines branch model lines).withoutSignatures =
      (m.readLines branch model (signedLines lines)).withoutSignatures := by
  induction lines generalizing m with
  | nil => rfl
  | cons line rest ih =>
    cases hline : line != manifestSeparator
    · obtain rfl : line = manifestSeparator := by simpa using hline
      rw [readLines, List.foldl_cons, readLine_separator branch model h,
        signedLines_separator]
      exact withoutSignatures_readLines_separated branch model rfl rest
    · rw [readLines, List.foldl_cons, signedLines_cons hline, readLines, List.foldl_cons]
      exact ih (separated_readLine branch model h hline)

/-- The hash of a manifest has taken the bytes of its signed lines. -/
theorem hasher_readLines {m : Manifest} (h : m.separated = false) (lines : List String) :
    (m.readLines branch model lines).hasher = m.hasher.absorb (hashedBytes lines) := by
  induction lines generalizing m with
  | nil => rfl
  | cons line rest ih =>
    cases hline : line != manifestSeparator
    · obtain rfl : line = manifestSeparator := by simpa using hline
      have hsame := withoutSignatures_readLines branch model h (manifestSeparator :: rest)
      have hhash : hashedBytes (manifestSeparator :: rest) = [] := by
        rw [hashedBytes, signedLines_separator, List.flatMap_nil]
      rw [signedLines_separator] at hsame
      have hkept := congrArg (fun kept : Manifest => kept.hasher) hsame
      rw [hhash]
      exact hkept
    · have hhash : hashedBytes (line :: rest) = Bytes.ofText line ++ [newline] ++ hashedBytes rest := by
        rw [hashedBytes, signedLines_cons hline, List.flatMap_cons]
        rfl
      have hrest := ih (separated_readLine branch model h hline)
      rw [readLines, List.foldl_cons, hhash, Hash.Hasher.absorb_append]
      refine hrest.trans ?_
      rw [readLine_signed branch model h hline, hasher_readField]

/-- The digest of a manifest is the digest of its signed lines. -/
theorem signedDigest_readLines (lines : List String) :
    (empty.readLines branch model lines).signedDigest = Hash.digest (hashedBytes lines) := by
  rw [signedDigest, hasher_readLines branch model rfl]
  exact Hash.Hasher.digest_absorb _

/-! ## The signatures -/

/-- The signatures among the lines after the separator. -/
def signaturesIn (lines : List String) : List Signature :=
  ((lines.dropWhile (· != manifestSeparator)).drop 1).filterMap fun line => (Signature.ofHex line).toOption

theorem signatures_readLines_separated {m : Manifest} (h : m.separated = true) (lines : List String) :
    (m.readLines branch model lines).signatures =
      m.signatures ++ lines.filterMap fun line => (Signature.ofHex line).toOption := by
  induction lines generalizing m with
  | nil => exact (List.append_nil _).symm
  | cons line rest ih =>
    rw [readLines, List.foldl_cons, readLine_separated branch model h, readSignature]
    cases hs : Signature.ofHex line with
    | error flaw => rw [List.filterMap_cons_none (by rw [hs]; rfl)]; exact ih h
    | ok signature =>
      have hrest := ih (m := { m with signatures := m.signatures ++ [signature] }) h
      rw [List.append_assoc] at hrest
      rw [List.filterMap_cons_some (by rw [hs]; rfl)]
      exact hrest

/-- A manifest has the signatures after its separator. -/
theorem signatures_readLines {m : Manifest} (h : m.separated = false) (lines : List String) :
    (m.readLines branch model lines).signatures = m.signatures ++ signaturesIn lines := by
  induction lines generalizing m with
  | nil => exact (List.append_nil _).symm
  | cons line rest ih =>
    cases hline : line != manifestSeparator
    · obtain rfl : line = manifestSeparator := by simpa using hline
      rw [readLines, List.foldl_cons, readLine_separator branch model h, signaturesIn,
        List.dropWhile_cons_of_neg (by simp), List.drop_one, List.tail_cons]
      exact signatures_readLines_separated branch model rfl rest
    · have hsame : (readLine branch model m line).signatures = m.signatures := by
        rw [readLine_signed branch model h hline, signatures_readField]
      rw [readLines, List.foldl_cons, signaturesIn,
        List.dropWhile_cons_of_pos (p := (· != manifestSeparator)) hline, ← hsame]
      exact ih (separated_readLine branch model h hline)

/-! ## The line of a field -/

theorem afterStart?_eq_some {start text rest : List Char} :
    afterStart? start text = some rest ↔ text = start ++ rest := by
  induction start generalizing text with
  | nil => simp [afterStart?, eq_comm]
  | cons c cs ih =>
    cases text with
    | nil => simp [afterStart?]
    | cons d ds =>
      rw [afterStart?, List.cons_append, List.cons.injEq]
      by_cases hcd : c = d
      · rw [if_pos (by simpa using hcd), ih]
        simp [hcd]
      · rw [if_neg (by simpa using hcd)]
        simp [eq_comm, hcd]

/-- A line with a value is the name, an equals sign and the value. -/
theorem value?_eq_some {name line v : String} : value? name line = some v ↔ line = name ++ "=" ++ v := by
  rw [value?, Option.map_eq_some_iff]
  constructor
  · rintro ⟨rest, hrest, rfl⟩
    apply String.toList_inj.mp
    rw [afterStart?_eq_some.mp hrest, String.toList_append (t := String.ofList rest), String.toList_ofList]
  · rintro rfl
    exact ⟨v.toList, afterStart?_eq_some.mpr (by rw [String.toList_append]), String.ofList_toList⟩

/-- A field of a manifest is as it was, or a signed line has given it its value. -/
theorem exists_line_of_field {β : Type} (field : Manifest → β) (gives : String → β → Prop)
    (step : ∀ m line, field (readField branch model m line) = field m ∨
      gives line (field (readField branch model m line)))
    (hash : ∀ m h, field { m with hasher := h } = field m)
    (apart : ∀ m : Manifest, field m.withoutSignatures = field m)
    {m : Manifest} (h : m.separated = false) (lines : List String) :
    field (m.readLines branch model lines) = field m ∨
      ∃ line ∈ signedLines lines, gives line (field (m.readLines branch model lines)) := by
  induction lines generalizing m with
  | nil => exact .inl rfl
  | cons line rest ih =>
    cases hline : line != manifestSeparator
    · -- From the separator on the field is kept.
      obtain rfl : line = manifestSeparator := by simpa using hline
      left
      have hsame := withoutSignatures_readLines branch model h (manifestSeparator :: rest)
      rw [signedLines_separator] at hsame
      rw [← apart, hsame, apart]
      rfl
    · rw [signedLines_cons hline, readLines, List.foldl_cons]
      -- If the later lines keep the field, it is what this line has left.
      rcases ih (separated_readLine branch model h hline) with hkept | ⟨l, hl, hgives⟩
      · have hkept' : field (rest.foldl (readLine branch model) (readLine branch model m line)) =
            field (readLine branch model m line) := hkept
        rw [hkept', readLine_signed branch model h hline]
        rcases step { m with hasher := m.hasher.absorb (Bytes.ofText line ++ [newline]) } line with hs | hs
        · exact .inl (hs.trans (hash _ _))
        · exact .inr ⟨line, List.mem_cons_self, hs⟩
      · exact .inr ⟨l, List.mem_cons_of_mem _ hl, hgives⟩

/-- A value that a field has in the end, and does not have at first, is from a signed line. -/
theorem exists_line_of_value {β : Type} (field : Manifest → Option β) (gives : String → Option β → Prop)
    (step : ∀ m line, field (readField branch model m line) = field m ∨
      gives line (field (readField branch model m line)))
    (hash : ∀ m h, field { m with hasher := h } = field m)
    (apart : ∀ m : Manifest, field m.withoutSignatures = field m) (hempty : field empty = none)
    {lines : List String} {x : β} (h : field (empty.readLines branch model lines) = some x) :
    ∃ line ∈ signedLines lines, gives line (some x) := by
  rcases exists_line_of_field branch model field gives step hash apart (m := empty) rfl lines with
    hkept | ⟨line, hmem, hgives⟩
  · rw [hkept, hempty] at h
    cases h
  · rw [h] at hgives
    exact ⟨line, hmem, hgives⟩

theorem branchLine_mem {lines : List String}
    (h : (empty.readLines branch model lines).branchNamed = true) :
    "BRANCH=" ++ branch ∈ signedLines lines := by
  have hstep (m : Manifest) (line : String) :
      (readField branch model m line).branchNamed = m.branchNamed ∨
        value? "BRANCH" line = some branch := by
    unfold readField
    split
    · rename_i v hv
      split
      · rename_i hb
        exact .inr (by rw [hv, eq_of_beq hb])
      · exact .inl rfl
    · repeat' split
      all_goals exact .inl rfl
  rcases exists_line_of_field branch model Manifest.branchNamed (fun line _ => value? "BRANCH" line = some branch)
    hstep (fun _ _ => rfl) (fun _ => rfl) (m := empty) rfl lines with hkept | hline
  · rw [hkept] at h
    cases h
  · obtain ⟨line, hmem, hvalue⟩ := hline
    rw [value?_eq_some] at hvalue
    rwa [hvalue] at hmem

theorem exists_dateLine {lines : List String} {date : Instant}
    (h : (empty.readLines branch model lines).date = some date) :
    ∃ v, "DATE=" ++ v ∈ signedLines lines ∧ Calendar.parseDate v = some date := by
  have hstep (m : Manifest) (line : String) : (readField branch model m line).date = m.date ∨
      ∃ v, value? "DATE" line = some v ∧ Calendar.parseDate v = (readField branch model m line).date := by
    unfold readField
    split
    · split <;> exact .inl rfl
    · split
      · rename_i v hv
        split
        · rename_i d hd
          exact .inr ⟨v, hv, hd⟩
        · exact .inl rfl
      · repeat' split
        all_goals exact .inl rfl
  obtain ⟨line, hmem, v, hvalue, hdate⟩ := exists_line_of_value branch model Manifest.date
    (fun line d => ∃ v, value? "DATE" line = some v ∧ Calendar.parseDate v = d)
    hstep (fun _ _ => rfl) (fun _ => rfl) rfl h
  rw [value?_eq_some] at hvalue
  rw [hvalue] at hmem
  exact ⟨v, hmem, hdate⟩

theorem exists_priorityLine {lines : List String} {days : Float}
    (h : (empty.readLines branch model lines).priority = some days) :
    ∃ v, "PRIORITY=" ++ v ∈ signedLines lines ∧ priority? v = some days := by
  have hstep (m : Manifest) (line : String) : (readField branch model m line).priority = m.priority ∨
      ∃ v, value? "PRIORITY" line = some v ∧ priority? v = (readField branch model m line).priority := by
    unfold readField
    split
    · split <;> exact .inl rfl
    · split
      · split <;> exact .inl rfl
      · split
        · rename_i v hv
          split
          · rename_i x hx
            exact .inr ⟨v, hv, hx⟩
          · exact .inl rfl
        · split <;> exact .inl rfl
  obtain ⟨line, hmem, v, hvalue, hpriority⟩ := exists_line_of_value branch model Manifest.priority
    (fun line x => ∃ v, value? "PRIORITY" line = some v ∧ priority? v = x)
    hstep (fun _ _ => rfl) (fun _ => rfl) rfl h
  rw [value?_eq_some] at hvalue
  rw [hvalue] at hmem
  exact ⟨v, hmem, hpriority⟩

/-- Whether a line is none of the three that name what they give. -/
def IsUnnamed (line : String) : Prop :=
  value? "BRANCH" line = none ∧ value? "DATE" line = none ∧ value? "PRIORITY" line = none

theorem exists_imageLine {lines : List String} {image : ImageRecord}
    (h : (empty.readLines branch model lines).image = some image) :
    ∃ line ∈ signedLines lines, IsUnnamed line ∧ imageLine? model line = some image := by
  have hstep (m : Manifest) (line : String) : (readField branch model m line).image = m.image ∨
      (IsUnnamed line ∧ imageLine? model line = (readField branch model m line).image) := by
    unfold readField
    split
    · split <;> exact .inl rfl
    · rename_i hb
      split
      · split <;> exact .inl rfl
      · rename_i hd
        split
        · split <;> exact .inl rfl
        · rename_i hp
          split
          · exact .inl rfl
          · exact .inr ⟨⟨hb, hd, hp⟩, rfl⟩
  exact exists_line_of_value branch model Manifest.image
    (fun line i => IsUnnamed line ∧ imageLine? model line = i)
    hstep (fun _ _ => rfl) (fun _ => rfl) rfl h

end

end Manifest

end MeshFirmware
