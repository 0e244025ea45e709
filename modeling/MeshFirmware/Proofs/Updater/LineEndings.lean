import MeshFirmware.Proofs.Updater.Reading

/-!
# Line endings

A body may have a carriage return before each of its newlines (`withReturns`). The carriage return is taken off a
line after the line has been measured. So it makes no difference as long as each line that has a newline leaves
room for it, however the two bodies are cut into pieces, and a body with a line of exactly the permitted length is
refused when it is written that way (`returns_need_room`).
-/

namespace MeshFirmware

/-- A body with a carriage return before each newline. -/
def withReturns (body : Bytes) : Bytes :=
  body.flatMap fun b => if b = newline then [carriageReturn, newline] else [b]

/-- The lines of a body that end with a newline. -/
def completeLines (body : Bytes) : List Bytes := (body.splitOn newline).dropLast

/-- The bytes of lines that all end with a newline. -/
def joined (complete : List Bytes) : Bytes := complete.flatMap (· ++ [newline])

theorem joined_cons (line : Bytes) (rest : List Bytes) : joined (line :: rest) = line ++ newline :: joined rest := by
  rw [joined, List.flatMap_cons, List.append_assoc]
  rfl

/-! ## A body and its complete lines -/

/-- A body is its complete lines and what follows the last newline. -/
structure IsCut (body : Bytes) (complete : List Bytes) (last : Bytes) : Prop where
  body_eq : body = joined complete ++ last
  complete_open : ∀ line ∈ complete, newline ∉ line
  last_open : newline ∉ last

theorem exists_isCut (body : Bytes) :
    ∃ complete last, IsCut body complete last ∧ body.splitOn newline = complete ++ [last] := by
  induction body with
  | nil => exact ⟨[], [], ⟨rfl, by simp, by simp⟩, rfl⟩
  | cons b rest ih =>
    obtain ⟨complete, last, ⟨rfl, hcomplete, hlast⟩, hsplit⟩ := ih
    rw [List.splitOn_cons_eq_if_modifyHead, hsplit]
    by_cases hb : b = newline
    · subst hb
      exact ⟨[] :: complete, last, ⟨by rw [joined_cons]; rfl, by simpa using hcomplete, hlast⟩,
        if_pos (beq_self_eq_true newline)⟩
    · rw [if_neg (by simpa using hb)]
      have hopen {line : Bytes} (h : newline ∉ line) : newline ∉ b :: line := by simp [h, Ne.symm hb]
      -- The byte opens the first line, which may be the one without a newline.
      cases complete with
      | nil => exact ⟨[], b :: last, ⟨rfl, by simp, hopen hlast⟩, rfl⟩
      | cons line complete =>
        refine ⟨(b :: line) :: complete, last, ⟨by rw [joined_cons, joined_cons]; rfl, ?_, hlast⟩, rfl⟩
        rintro line' (_ | ⟨_, hline'⟩)
        · exact hopen (hcomplete line List.mem_cons_self)
        · exact hcomplete line' (List.mem_cons_of_mem _ hline')

namespace IsCut
variable {body : Bytes} {complete : List Bytes} {last : Bytes}

theorem mem_of_mem_complete (h : IsCut body complete last) {line : Bytes} (hline : line ∈ complete) {b : UInt8}
    (hb : b ∈ line) : b ∈ body := by
  rw [h.body_eq, joined, List.mem_append, List.mem_flatMap]
  exact .inl ⟨line, hline, List.mem_append_left _ hb⟩

theorem lines_eq (h : IsCut body complete last) :
    LineSplitter.lines body = LineSplitter.readAll (complete ++ LineSplitter.segments last) := by
  rw [LineSplitter.lines, h.body_eq]
  congr 1
  have hopen := h.complete_open
  clear h
  induction complete with
  | nil => rfl
  | cons line rest ih =>
    rw [joined_cons, List.append_assoc, List.cons_append,
      LineSplitter.segments_newline (hopen line List.mem_cons_self),
      ih (fun l hl => hopen l (List.mem_cons_of_mem _ hl))]
    rfl

end IsCut

theorem withReturns_append (front rest : Bytes) : withReturns (front ++ rest) = withReturns front ++ withReturns rest :=
  List.flatMap_append

theorem withReturns_newline (rest : Bytes) :
    withReturns (newline :: rest) = carriageReturn :: newline :: withReturns rest := by
  rw [withReturns, List.flatMap_cons, if_pos rfl]
  rfl

theorem withReturns_open {line : Bytes} (h : newline ∉ line) : withReturns line = line := by
  induction line with
  | nil => rfl
  | cons b rest ih =>
    obtain ⟨hb, hrest⟩ := not_or.mp (fun h' => h (List.mem_cons.mpr h'))
    have hmore := ih hrest
    rw [withReturns] at hmore ⊢
    rw [List.flatMap_cons, if_neg (Ne.symm hb), hmore]
    rfl

theorem withReturns_joined {complete : List Bytes} (h : ∀ line ∈ complete, newline ∉ line) :
    withReturns (joined complete) = joined (complete.map (· ++ [carriageReturn])) := by
  induction complete with
  | nil => rfl
  | cons line rest ih =>
    rw [List.map_cons, joined_cons, joined_cons, withReturns_append, withReturns_open (h line List.mem_cons_self),
      withReturns_newline, ih (fun l hl => h l (List.mem_cons_of_mem _ hl)), List.append_assoc, List.singleton_append]

/-- The lines with their carriage returns are the complete lines of the body that has them. -/
theorem IsCut.withReturns {body last : Bytes} {complete : List Bytes} (h : IsCut body complete last) :
    IsCut (withReturns body) (complete.map (· ++ [carriageReturn])) last where
  body_eq := by
    rw [h.body_eq, withReturns_append, withReturns_joined h.complete_open, withReturns_open h.last_open]
  complete_open := by
    intro line hline
    obtain ⟨line', hline', rfl⟩ := List.mem_map.mp hline
    simpa [newline, carriageReturn] using h.complete_open line' hline'
  last_open := h.last_open

/-! ## Lines with a carriage return -/

theorem lineText?_eq_some_iff {line : Bytes} {text : String} :
    lineText? line = some text ↔ line.IsText ∧ Bytes.ofText text = withoutReturn line := by
  constructor
  · intro h
    obtain ⟨s, hs, -⟩ := Option.map_eq_some_iff.mp h
    exact ⟨⟨s, Bytes.ofText_of_text? hs⟩, ofText_of_lineText? h⟩
  · rintro ⟨htext, hbytes⟩
    obtain ⟨s, hs⟩ := Option.isSome_iff_exists.mp (Bytes.isSome_text?.mpr htext)
    have hread : lineText? line = some _ := congrArg (Option.map _) hs
    rw [hread, ← NameTable.ofText_injective ((ofText_of_lineText? hread).trans hbytes.symm)]

theorem withoutReturn_return (line : Bytes) : withoutReturn (line ++ [carriageReturn]) = line := by
  rw [withoutReturn, List.getLast?_concat, if_pos rfl, List.dropLast_concat]

theorem withoutReturn_of_notMem {line : Bytes} (h : carriageReturn ∉ line) : withoutReturn line = line :=
  if_neg fun hlast => h (List.mem_of_getLast? hlast)

theorem isText_return {line : Bytes} : Bytes.IsText (line ++ [carriageReturn]) ↔ line.IsText := by
  constructor
  · intro h
    obtain ⟨s, hs⟩ := Option.isSome_iff_exists.mp (Bytes.isSome_text?.mpr h)
    have hread : lineText? (line ++ [carriageReturn]) = some _ := congrArg (Option.map _) hs
    exact ⟨_, (ofText_of_lineText? hread).trans (withoutReturn_return line)⟩
  · rintro ⟨s, rfl⟩
    exact ⟨s ++ "\r", Bytes.ofText_append s "\r"⟩

/-- A carriage return that a line ends with is not part of its text. -/
theorem lineText?_return {line : Bytes} (h : carriageReturn ∉ line) :
    lineText? (line ++ [carriageReturn]) = lineText? line := by
  apply Option.ext
  intro text
  rw [lineText?_eq_some_iff, lineText?_eq_some_iff, isText_return, withoutReturn_return, withoutReturn_of_notMem h]

/-! ## What is read with carriage returns -/

namespace LineSplitter

theorem readAll_short {line : Bytes} (h : line.length ≤ maxLineLength) (more : List Bytes) :
    readAll (line :: more) = match lineText? line with
      | none => ([], some .encoding)
      | some text => (text :: (readAll more).1, (readAll more).2) := by
  cases htext : lineText? line with
  | none => rw [readAll, if_neg (Nat.not_lt.mpr h), htext]
  | some text => rw [readAll, if_neg (Nat.not_lt.mpr h), htext]

/-- A line that leaves room for its carriage return is read as it is without it. -/
theorem readAll_return {line : Bytes} (hplain : carriageReturn ∉ line) (hroom : line.length < maxLineLength)
    (more : List Bytes) :
    readAll ((line ++ [carriageReturn]) :: more) = match lineText? line with
      | none => ([], some .encoding)
      | some text => (text :: (readAll more).1, (readAll more).2) := by
  rw [readAll_short (by rwa [List.length_append, List.length_singleton]), lineText?_return hplain]

/-- Any other line is too long with its carriage return. -/
theorem readAll_return_tooLong {line : Bytes} (hfull : ¬ line.length < maxLineLength) (more : List Bytes) :
    readAll ((line ++ [carriageReturn]) :: more) = ([], some .tooLong) := by
  apply readAll_tooLong
  rw [List.length_append, List.length_singleton]
  omega

/-- Lines that leave room for a carriage return are read the same with one. -/
theorem readAll_returns {complete : List Bytes} (hplain : ∀ line ∈ complete, carriageReturn ∉ line)
    (hroom : ∀ line ∈ complete, line.length < maxLineLength) (rest : List Bytes) :
    readAll (complete.map (· ++ [carriageReturn]) ++ rest) = readAll (complete ++ rest) := by
  induction complete with
  | nil => rfl
  | cons line more ih =>
    have hline := hroom line List.mem_cons_self
    have hmore := ih (fun l hl => hplain l (List.mem_cons_of_mem _ hl))
      (fun l hl => hroom l (List.mem_cons_of_mem _ hl))
    rw [List.map_cons, List.cons_append, List.cons_append, readAll_return (hplain line List.mem_cons_self) hline,
      readAll_short (Nat.le_of_lt hline), hmore]

/-- With carriage returns, no lines are read that are not read without them. -/
theorem readAll_returns_prefix {complete : List Bytes} (hplain : ∀ line ∈ complete, carriageReturn ∉ line)
    (rest : List Bytes) :
    (readAll (complete.map (· ++ [carriageReturn]) ++ rest)).1 <+: (readAll (complete ++ rest)).1 := by
  induction complete with
  | nil => exact List.prefix_refl _
  | cons line more ih =>
    have hmore := ih (fun l hl => hplain l (List.mem_cons_of_mem _ hl))
    rw [List.map_cons, List.cons_append, List.cons_append]
    by_cases hroom : line.length < maxLineLength
    · rw [readAll_return (hplain line List.mem_cons_self) hroom, readAll_short (Nat.le_of_lt hroom)]
      cases lineText? line with
      | none => exact List.prefix_refl _
      | some text => exact List.cons_prefix_cons.mpr ⟨rfl, hmore⟩
    · rw [readAll_return_tooLong hroom]
      exact List.nil_prefix

/-- The first line that leaves no room for its carriage return is refused, if no line before it is. -/
theorem readAll_returns_full {complete : List Bytes} (hplain : ∀ line ∈ complete, carriageReturn ∉ line)
    (hfull : ∃ line ∈ complete, maxLineLength ≤ line.length) (rest : List Bytes) :
    (readAll (complete.map (· ++ [carriageReturn]) ++ rest)).2 ≠ none ∧
      ((readAll (complete ++ rest)).2 = none →
        (readAll (complete.map (· ++ [carriageReturn]) ++ rest)).2 = some .tooLong) := by
  induction complete with
  | nil =>
    obtain ⟨line, hline, -⟩ := hfull
    cases hline
  | cons line more ih =>
    rw [List.map_cons, List.cons_append, List.cons_append]
    by_cases hroom : line.length < maxLineLength
    · have hlater : ∃ line ∈ more, maxLineLength ≤ line.length := by
        obtain ⟨line', hline', hlength⟩ := hfull
        rcases List.mem_cons.mp hline' with rfl | hline'
        · exact absurd hlength (Nat.not_le.mpr hroom)
        · exact ⟨line', hline', hlength⟩
      have hmore := ih (fun l hl => hplain l (List.mem_cons_of_mem _ hl)) hlater
      rw [readAll_return (hplain line List.mem_cons_self) hroom, readAll_short (Nat.le_of_lt hroom)]
      cases lineText? line with
      | none => exact ⟨by simp, by simp⟩
      | some text => exact hmore
    · rw [readAll_return_tooLong hroom]
      exact ⟨by simp, fun _ => rfl⟩

end LineSplitter

namespace Updater

/-- What becomes of a manifest whose pieces are a stream. -/
theorem take_manifestSink_stream (branch model : String) (length : Option UInt64) (pieces : List Bytes) :
    ((manifestSink branch model).take {} (.started length pieces none)).1 =
        (LineSplitter.empty.stream pieces).2.map .sink ∧
      ((manifestSink branch model).take {} (.started length pieces none)).2.manifest =
        Manifest.empty.readLines branch model (LineSplitter.empty.stream pieces).1 :=
  take_manifestSink branch model {} length pieces

/-- A body without carriage returns, and the same body with one before each newline, in whatever pieces the two
come. If all lines that end with a newline have less than the permitted length, they are the same lines and the same
manifest, and one body is taken if the other is. If one of these lines has the permitted length or more, the body with
the carriage returns is refused. In no case are lines read of it that are not read of the other. -/
theorem returns_need_room (branch model : String) {pieces pieces' : List Bytes}
    (hplain : carriageReturn ∉ pieces.flatten) (hreturns : pieces'.flatten = withReturns pieces.flatten)
    (length length' : Option UInt64) :
    let taken := (manifestSink branch model).take {} (.started length pieces none)
    let taken' := (manifestSink branch model).take {} (.started length' pieces' none)
    ((∀ line ∈ completeLines pieces.flatten, line.length < maxLineLength) →
        LineSplitter.empty.stream pieces' = LineSplitter.empty.stream pieces ∧
          taken'.1 = taken.1 ∧ taken'.2.manifest = taken.2.manifest) ∧
      ((∃ line ∈ completeLines pieces.flatten, maxLineLength ≤ line.length) →
        taken'.1 ≠ none ∧ (taken.1 = none → taken'.1 = some (.sink .tooLong))) ∧
      (LineSplitter.empty.stream pieces').1 <+: (LineSplitter.empty.stream pieces).1 := by
  intro taken taken'
  obtain ⟨complete, last, hcut, hsplit⟩ := exists_isCut pieces.flatten
  have hcomplete : completeLines pieces.flatten = complete := by rw [completeLines, hsplit, List.dropLast_concat]
  have hopen (line : Bytes) (hline : line ∈ complete) : carriageReturn ∉ line :=
    fun hmem => hplain (hcut.mem_of_mem_complete hline hmem)
  have hstream : LineSplitter.empty.stream pieces =
      LineSplitter.readAll (complete ++ LineSplitter.segments last) := by
    rw [LineSplitter.stream_eq_lines, hcut.lines_eq]
  have hstream' : LineSplitter.empty.stream pieces' =
      LineSplitter.readAll (complete.map (· ++ [carriageReturn]) ++ LineSplitter.segments last) := by
    rw [LineSplitter.stream_eq_lines, hreturns, hcut.withReturns.lines_eq]
  obtain ⟨herror, hmanifest⟩ : taken.1 = _ ∧ taken.2.manifest = _ :=
    take_manifestSink_stream branch model length pieces
  obtain ⟨herror', hmanifest'⟩ : taken'.1 = _ ∧ taken'.2.manifest = _ :=
    take_manifestSink_stream branch model length' pieces'
  rw [hcomplete]
  refine ⟨?_, ?_, ?_⟩
  · intro hroom
    have hsame : LineSplitter.empty.stream pieces' = LineSplitter.empty.stream pieces := by
      rw [hstream, hstream', LineSplitter.readAll_returns hopen hroom]
    rw [herror, herror', hmanifest, hmanifest', hsame]
    exact ⟨rfl, rfl, rfl⟩
  · intro hfull
    obtain ⟨hrefused, htooLong⟩ := LineSplitter.readAll_returns_full hopen hfull (LineSplitter.segments last)
    rw [← hstream, ← hstream'] at htooLong
    rw [← hstream'] at hrefused
    rw [herror, herror', Option.map_eq_none_iff, Ne, Option.map_eq_none_iff]
    exact ⟨hrefused, fun hnone => by rw [htooLong hnone]; rfl⟩
  · rw [hstream, hstream']
    exact LineSplitter.readAll_returns_prefix hopen _

/-- A line that leaves room for one byte, with its carriage return in another piece than its newline, before a last
line that leaves no room and has no newline. -/
theorem returns_have_room_before_last_line :
    let pieces : List Bytes := [List.replicate 511 97, newline :: List.replicate 512 98]
    let pieces' : List Bytes := [List.replicate 511 97 ++ [carriageReturn], newline :: List.replicate 512 98]
    let taken := (manifestSink "stable" "tiny").take {} (.started none pieces none)
    let taken' := (manifestSink "stable" "tiny").take {} (.started (some 1025) pieces' none)
    carriageReturn ∉ pieces.flatten ∧ pieces'.flatten = withReturns pieces.flatten ∧
      LineSplitter.empty.stream pieces' = LineSplitter.empty.stream pieces ∧
      taken'.1 = taken.1 ∧ taken'.2.manifest = taken.2.manifest := by
  intro pieces pieces'
  have hplain : carriageReturn ∉ pieces.flatten := by decide +kernel
  have hreturns : pieces'.flatten = withReturns pieces.flatten := by decide +kernel
  have hroom : ∀ line ∈ completeLines pieces.flatten, line.length < maxLineLength := by decide +kernel
  have hsame := (returns_need_room "stable" "tiny" hplain hreturns none (some 1025)).1 hroom
  -- The bytes are not looked at any more.
  clear_value pieces pieces'
  exact ⟨hplain, hreturns, hsame⟩

/-- A line of exactly the permitted length is taken with a newline, and refused as too long with a carriage return
before the newline. -/
theorem full_line_refused_with_return :
    let body : Bytes := List.replicate maxLineLength 97 ++ [newline]
    let taken := (manifestSink "stable" "tiny").take {} (.started none [body] none)
    let taken' := (manifestSink "stable" "tiny").take {} (.started none [withReturns body] none)
    carriageReturn ∉ body ∧ (∀ line ∈ body.splitOn newline, line.length ≤ maxLineLength) ∧
      LineSplitter.empty.stream [body] = ([String.ofList (List.replicate maxLineLength 'a')], none) ∧
      LineSplitter.empty.stream [withReturns body] = ([], some .tooLong) ∧
      taken.1 = none ∧ taken'.1 = some (.sink .tooLong) := by
  intro body
  have hcut : IsCut body [List.replicate maxLineLength 97] [] := by
    refine ⟨?_, by simp [newline, List.mem_replicate], List.not_mem_nil⟩
    rw [joined_cons, List.append_assoc]
    rfl
  have htext : lineText? (List.replicate maxLineLength 97) =
      some (String.ofList (List.replicate maxLineLength 'a')) := by
    have hbytes : Bytes.ofText (String.ofList (List.replicate maxLineLength 'a')) =
        List.replicate maxLineLength 97 := by
      rw [Bytes.ofText_ofList, List.flatMap_replicate, utf8EncodeChar_ascii (by decide)]
      exact List.flatten_replicate_singleton
    exact lineText?_eq_some_iff.mpr
      ⟨⟨_, hbytes⟩, hbytes.trans (withoutReturn_of_notMem (by simp [carriageReturn, List.mem_replicate])).symm⟩
  have hstream : LineSplitter.empty.stream [body] = ([String.ofList (List.replicate maxLineLength 'a')], none) := by
    rw [LineSplitter.stream_eq_lines, List.flatten_singleton, hcut.lines_eq, List.singleton_append,
      LineSplitter.readAll_short (by rw [List.length_replicate]), htext]
    rfl
  have hstream' : LineSplitter.empty.stream [withReturns body] = ([], some .tooLong) := by
    rw [LineSplitter.stream_eq_lines, List.flatten_singleton, hcut.withReturns.lines_eq, List.map_singleton,
      List.singleton_append, LineSplitter.readAll_return_tooLong (by rw [List.length_replicate]; exact lt_irrefl _)]
  have htaken := (take_manifestSink_stream "stable" "tiny" none [body]).1
  have htaken' := (take_manifestSink_stream "stable" "tiny" none [withReturns body]).1
  rw [hstream] at htaken
  rw [hstream'] at htaken'
  exact ⟨by decide +kernel, by decide +kernel, hstream, hstream', htaken, htaken'⟩

end Updater

end MeshFirmware
