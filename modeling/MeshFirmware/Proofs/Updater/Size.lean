import MeshFirmware.Proofs.Transfer.Calls
import MeshFirmware.Proofs.Updater.Download

/-!
# The size of an image

The size that a manifest gives is compared before a piece is written. So a call that is refused leaves everything as it
was, and after every call of a transfer the file, the hash and the count are in step (`Download.holds_after`). Whether an
image is refused does not depend on how it is cut: it is told by the expected size, the announced length and the number
of bytes (`refusal?`, `image_keeps_to_size`).
-/

namespace MeshFirmware.Updater

/-- Why so many bytes are refused, if they go beyond the expected size. -/
def excess? (size : Option UInt64) (total : Nat) : Option ImageError :=
  match size with
  | none => none
  | some expected => if expected.toNat < total then some (.tooLong expected) else none

/-- Why an announced length is refused, if it is not the expected size. -/
def mismatch? (size length : Option UInt64) : Option ImageError :=
  match size, length with
  | some expected, some announced => if expected = announced then none else some (.otherLength announced expected)
  | _, _ => none

/-- Why an image of so many bytes is refused, if it is, when this length has been announced. -/
def refusal? (size length : Option UInt64) (total : Nat) : Option ImageError :=
  (mismatch? size length).or (excess? size total)

theorem excess?_eq_none_iff {size : Option UInt64} {total : Nat} :
    excess? size total = none ↔ ∀ expected, size = some expected → total ≤ expected.toNat := by
  cases size with
  | none => simp [excess?]
  | some expected => simp [excess?]

theorem mismatch?_eq_none_iff {size length : Option UInt64} :
    mismatch? size length = none ↔
      ∀ expected announced, size = some expected → length = some announced → expected = announced := by
  cases size with
  | none => simp [mismatch?]
  | some expected => cases length <;> simp [mismatch?]

namespace Download
variable {size : Option UInt64} {d d' : Download} {b piece : Bytes}

/-! ## One call -/

theorem header_eq (length : Option UInt64) : (imageSink size).header d length = (mismatch? size length, d) := by
  cases size with
  | none => rfl
  | some expected =>
    cases length with
    | none => rfl
    | some announced =>
      unfold imageSink mismatch?
      by_cases h : expected = announced <;> simp [h]

theorem data_eq (hd : d.Holds size b) (piece : Bytes) :
    (imageSink size).data d piece =
      match excess? size (b ++ piece).length with
      | some e => (some e, d)
      | none => d.append piece := by
  have hcount : d.written + piece.length = (b ++ piece).length := by
    rw [hd.counted, List.length_append]
  cases size with
  | none => rfl
  | some expected =>
    unfold imageSink excess? exceeds
    dsimp only
    rw [hcount]
    by_cases hlong : expected.toNat < (b ++ piece).length
    · rw [if_pos (decide_eq_true hlong), if_pos hlong]
    · rw [if_neg (by simpa using hlong), if_neg hlong]

/-- A piece is refused for its length or because it cannot be written. -/
theorem append_refused {e : ImageError} (h : d.append piece = (some e, d')) : ∃ cause, e = .unwritten cause := by
  unfold append at h
  split at h
  · cases h
  · exact ⟨_, (Option.some.inj (congrArg Prod.fst h)).symm⟩

/-- A call that is taken adds what it brings. -/
theorem holds_call {c : Sink.Call} (hd : d.Holds size b) (h : (imageSink size).call d c = (none, d')) :
    d'.Holds size (b ++ c.bytes) := by
  cases c with
  | header length =>
    rw [Sink.call, header_eq] at h
    obtain rfl : d = d' := congrArg Prod.snd h
    rw [Sink.Call.bytes, List.append_nil]
    exact hd
  | data piece => exact holds_data hd h
  | finish =>
    obtain rfl : d = d' := congrArg Prod.snd h
    rw [Sink.Call.bytes, List.append_nil]
    exact hd

/-- A call that is refused leaves everything as it was, unless it is a write that fails. -/
theorem eq_of_refused {c : Sink.Call} {e : ImageError} (hd : d.Holds size b)
    (h : (imageSink size).call d c = (some e, d')) (he : ∀ cause, e ≠ .unwritten cause) : d' = d := by
  cases c with
  | header length =>
    rw [Sink.call, header_eq] at h
    exact (congrArg Prod.snd h).symm
  | data piece =>
    rw [Sink.call, data_eq hd] at h
    split at h
    · exact (congrArg Prod.snd h).symm
    · obtain ⟨cause, rfl⟩ := append_refused h
      exact absurd rfl (he cause)
  | finish => cases h

/-! ## All calls -/

/-- After calls of which no write has failed, just the bytes of those that have been taken have come in. -/
theorem holds_after {cs : List Sink.Call} (hd : d.Holds size b)
    (hwrites : ∀ cause, ((imageSink size).after d cs).1 ≠ some (.unwritten cause)) :
    ∃ made, made <+: cs ∧ ((imageSink size).after d cs).2.Holds size (b ++ made.flatMap Sink.Call.bytes) ∧
      (((imageSink size).after d cs).1 = none → made = cs) := by
  induction cs generalizing d b with
  | nil => exact ⟨[], List.prefix_rfl, by rwa [List.flatMap_nil, List.append_nil], fun _ => rfl⟩
  | cons c cs ih =>
    rcases hc : (imageSink size).call d c with ⟨_ | e, d₁⟩
    · rw [Sink.after_cons_taken hc] at hwrites ⊢
      obtain ⟨made, hmade, hholds, hall⟩ := ih (holds_call hd hc) hwrites
      refine ⟨c :: made, (List.prefix_cons_inj c).mpr hmade, ?_, fun h => by rw [hall h]⟩
      rwa [List.flatMap_cons, ← List.append_assoc]
    · rw [Sink.after_cons_refused hc] at hwrites ⊢
      refine ⟨[], List.nil_prefix, ?_, fun h => by cases h⟩
      rw [eq_of_refused hd hc fun cause he => hwrites cause (congrArg some he)]
      simpa using hd

/-- Pieces are refused if there are too many bytes of them, however they are cut. -/
theorem after_pieces (pieces : List Bytes) (hd : d.Holds size b)
    (hwrites : ∀ cause, ((imageSink size).after d (pieces.map .data)).1 ≠ some (.unwritten cause)) :
    ((imageSink size).after d (pieces.map .data)).1 = excess? size (b ++ pieces.flatten).length := by
  induction pieces generalizing d b with
  | nil =>
    rw [List.flatten_nil, List.append_nil]
    exact (excess?_eq_none_iff.mpr hd.bounded).symm
  | cons piece rest ih =>
    rw [List.map_cons] at hwrites ⊢
    have hcall : (imageSink size).call d (.data piece) = _ := data_eq hd piece
    cases hexcess : excess? size (b ++ piece).length with
    | none =>
      rw [hexcess] at hcall
      rcases happend : d.append piece with ⟨_ | e, d₁⟩
      · rw [happend] at hcall
        rw [Sink.after_cons_taken hcall] at hwrites ⊢
        rw [ih (holds_call hd hcall) hwrites, Sink.Call.bytes, List.flatten_cons, List.append_assoc]
      · rw [happend] at hcall
        obtain ⟨cause, rfl⟩ := append_refused happend
        rw [Sink.after_cons_refused hcall] at hwrites
        exact absurd rfl (hwrites cause)
    | some e =>
      rw [hexcess] at hcall
      rw [Sink.after_cons_refused hcall]
      -- The pieces that would follow only make it longer.
      unfold excess? at hexcess ⊢
      split at hexcess
      · cases hexcess
      · rename_i expected
        split at hexcess
        · rename_i hlong
          obtain rfl := Option.some.inj hexcess
          rw [if_pos (Nat.lt_of_lt_of_le hlong (by simp))]
        · cases hexcess

/-- Why a transfer is refused. -/
theorem after_delivery {length : Option UInt64} {pieces : List Bytes} {failure : Option String} (hd : d.Holds size [])
    (hwrites : ∀ cause, ((imageSink size).after d (Delivery.started length pieces failure).calls).1 ≠
      some (.unwritten cause)) :
    ((imageSink size).after d (Delivery.started length pieces failure).calls).1 =
      refusal? size length pieces.flatten.length := by
  have hheader : (imageSink size).call d (.header length) = (mismatch? size length, d) := header_eq length
  rw [Delivery.calls] at hwrites ⊢
  unfold refusal?
  cases hmismatch : mismatch? size length with
  | some e =>
    rw [hmismatch] at hheader
    rw [Sink.after_cons_refused hheader]
    rfl
  | none =>
    rw [hmismatch] at hheader
    rw [Sink.after_cons_taken hheader, Sink.after_append] at hwrites ⊢
    have hpieces := after_pieces pieces hd
    rcases hafter : (imageSink size).after d (pieces.map .data) with ⟨_ | e, d₁⟩
    · rw [hafter] at hwrites hpieces
      rw [Option.none_or, ← List.nil_append pieces.flatten, ← hpieces (by simp)]
      -- The end of a delivery is never refused.
      cases failure <;> rfl
    · rw [hafter] at hwrites hpieces
      rw [Option.none_or, ← List.nil_append pieces.flatten, ← hpieces hwrites]

end Download

/-! ## A whole transfer -/

/-- An image is taken into a file that has just been opened, whatever was in it, and no write fails. After every call of
the transfer, also one that is refused, the bytes of a number of whole pieces are in the file, hashed and counted, and
they are within the expected size. If another length is announced nothing is written. Why the image is refused, if it is,
does not depend on how it is cut; it is not refused if the announced length and the number of bytes accord with the
expected size, and then the whole body is in the file, and the digest is its digest. -/
theorem image_keeps_to_size {st : Storage} {p : ImagePlace} {file : ImageFile} (hopen : st.openFile p = .ok file)
    (size length : Option UInt64) (pieces : List Bytes) (failure : Option String)
    (hwrites : ∀ cause, ((imageSink size).after { file, limit := st.writing }
      (Delivery.started length pieces failure).calls).1 ≠ some (.unwritten cause)) :
    let start : Download := { file, limit := st.writing }
    let delivery : Delivery := .started length pieces failure
    let refused := refusal? size length pieces.flatten.length
    let taken := ((imageSink size).take start delivery).2
    (∀ n, ∃ k ≤ pieces.length,
        ((imageSink size).after start (delivery.calls.take n)).2.Holds size (pieces.take k).flatten) ∧
      (∀ expected announced, size = some expected → length = some announced → expected ≠ announced →
        ∀ n, ((imageSink size).after start (delivery.calls.take n)).2 = start ∧ start.file.content = []) ∧
      ((imageSink size).after start delivery.calls).1 = refused ∧
      ((imageSink size).take start delivery).1 = (refused.map .sink).or (failure.map .server) ∧
      (refused = none ↔
        (∀ expected announced, size = some expected → length = some announced → expected = announced) ∧
          ∀ expected, size = some expected → pieces.flatten.length ≤ expected.toNat) ∧
      (refused = none → taken.file.content = pieces.flatten ∧ taken.hasher.digest = Hash.digest pieces.flatten) := by
  intro start delivery refused taken
  have hempty : file.content = [] := Storage.content_openFile hopen
  have hstart : start.Holds size [] := Download.holds_start hempty st.writing
  have hrefused : ((imageSink size).after start delivery.calls).1 = refused := Download.after_delivery hstart hwrites
  have htake := Sink.take_eq_after (imageSink size) start delivery
  have hstep (n : Nat) (cause : OsError) :
      ((imageSink size).after start (delivery.calls.take n)).1 ≠ some (.unwritten cause) :=
    fun h => hwrites cause (Sink.refused_of_take h)
  refine ⟨?_, ?_, hrefused, ?_, ?_, ?_⟩
  · intro n
    obtain ⟨made, hmade, hholds, -⟩ := Download.holds_after hstart (hstep n)
    obtain ⟨k, hk, hbytes⟩ := Delivery.exists_pieces_of_prefix (hmade.trans (List.take_prefix n _))
    rw [hbytes, List.nil_append] at hholds
    exact ⟨k, hk, hholds⟩
  · intro expected announced hsize hlength hother n
    refine ⟨?_, hempty⟩
    have hheader : (imageSink size).call start (.header length) =
        (some (.otherLength announced expected), start) := by
      rw [Sink.call, Download.header_eq, hsize, hlength, mismatch?, if_neg hother]
    cases n with
    | zero => rfl
    | succ n =>
      show ((imageSink size).after start (.header length :: _)).2 = start
      rw [Sink.after_cons_refused hheader]
  · rw [htake, hrefused]
    rfl
  · rw [← mismatch?_eq_none_iff, ← excess?_eq_none_iff]
    exact Option.or_eq_none_iff
  · intro hnone
    obtain ⟨made, -, hholds, hall⟩ := Download.holds_after hstart hwrites
    obtain rfl := hall (hrefused.trans hnone)
    have htaken : taken.Holds size pieces.flatten := by
      rw [Delivery.bytes_calls, List.nil_append] at hholds
      rwa [← congrArg Prod.snd htake] at hholds
    exact ⟨htaken.content, by rw [htaken.hashed, Hash.Hasher.digest_absorb]⟩

/-- A file with older content and room for no more than the three bytes that are expected. The fourth is refused before
it is written, and at every moment the file holds whole pieces. -/
theorem image_keeps_to_size_in_full_file :
    let st : Storage := { writing := some (3, .noSpace) }
    let pieces : List Bytes := [Bytes.ofText "ab", [], Bytes.ofText "c", Bytes.ofText "d"]
    let start : Download := { file := .regular [], limit := st.writing }
    let calls := (Delivery.started none pieces none).calls
    st.openFile (.file (.regular (Bytes.ofText "older"))) = .ok start.file ∧
      (∀ cause, ((imageSink (some 3)).after start calls).1 ≠ some (.unwritten cause)) ∧
      ((imageSink (some 3)).after start calls).1 = some (.tooLong 3) ∧
      ∀ n, ∃ k ≤ 4, ((imageSink (some 3)).after start (calls.take n)).2.Holds (some 3) (pieces.take k).flatten := by
  intro st pieces start calls
  have hopen : st.openFile (.file (.regular (Bytes.ofText "older"))) = .ok start.file := rfl
  have hwrites : ∀ cause, ((imageSink (some 3)).after start calls).1 ≠ some (.unwritten cause) := by
    have hnever : ((imageSink (some 3)).after start calls).1 = some (.tooLong 3) := by decide +kernel
    intro cause h
    rw [hnever] at h
    cases h
  obtain ⟨hstep, -, hrefused, -⟩ := image_keeps_to_size hopen (some 3) none pieces none hwrites
  exact ⟨hopen, hwrites, hrefused.trans (by decide +kernel), hstep⟩

end MeshFirmware.Updater
