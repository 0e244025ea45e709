import MeshFirmware.Proofs.Hash.Streaming
import MeshFirmware.Proofs.Updater.Reading
import MeshFirmware.Updater.Image

/-!
# An image that comes in

While an image is taken without an error, the bytes in the file are the bytes that have been hashed and counted,
and they stay within the size of the manifest (`Download.Holds`). Each piece preserves this (`holds_data`), so a
delivery that is taken without an error leaves exactly its body in the file (`take_imageSink_eq_none`).
-/

namespace MeshFirmware.Updater

/-- The bytes in a file. -/
def ImageFile.content : ImageFile → Bytes
  | .regular content => content
  | .full => []

/-- What is true of a download of a given size when just these bytes have come in. -/
structure Download.Holds (size : Option UInt64) (b : Bytes) (d : Download) : Prop where
  content : d.file.content = b
  hashed : d.hasher = Hash.Hasher.start.absorb b
  counted : d.written = b.length
  bounded : ∀ expected, size = some expected → b.length ≤ expected.toNat

/-- A piece that is written whole stands at the end of the file. -/
theorem ImageFile.content_write {limit : Option (Nat × OsError)} {piece : Bytes} {f f' : ImageFile}
    (h : f.write limit piece = (none, f')) : f'.content = f.content ++ piece := by
  cases f with
  | regular content =>
    simp only [ImageFile.write] at h
    split at h
    · obtain rfl := congrArg Prod.snd h
      rfl
    · split at h
      · obtain rfl := congrArg Prod.snd h
        rfl
      · cases h
  | full =>
    simp only [ImageFile.write] at h
    split at h
    · rename_i hempty
      obtain rfl := congrArg Prod.snd h
      rw [List.isEmpty_iff.mp hempty]
      rfl
    · cases h

/-- A file is empty when it has been opened. -/
theorem Storage.content_openFile {st : Storage} {p : ImagePlace} {f : ImageFile} (h : st.openFile p = .ok f) :
    f.content = [] := by
  have hplace : p.openFile = .ok f := by
    unfold Storage.openFile at h
    split at h
    · cases h
    · cases h
    · rename_i hopen _
      rw [hopen, h]
  unfold ImagePlace.openFile at hplace
  split at hplace
  all_goals cases hplace
  all_goals rfl

namespace Download
variable {size : Option UInt64} {d d' : Download} {b piece : Bytes}

theorem holds_start {f : ImageFile} (h : f.content = []) (limit : Option (Nat × OsError)) :
    Holds size [] { file := f, limit } :=
  ⟨h, rfl, rfl, fun _ _ => Nat.zero_le _⟩

theorem holds_append (hd : d.Holds size b) (h : d.append piece = (none, d'))
    (hsize : ∀ expected, size = some expected → (b ++ piece).length ≤ expected.toNat) :
    d'.Holds size (b ++ piece) := by
  unfold append at h
  split at h
  · rename_i f hwrite
    obtain rfl := congrArg Prod.snd h
    refine ⟨?_, ?_, ?_, hsize⟩
    · show f.content = b ++ piece
      rw [ImageFile.content_write hwrite, hd.content]
    · show d.hasher.absorb piece = _
      rw [hd.hashed, Hash.Hasher.absorb_append]
    · show d.written + piece.length = _
      rw [hd.counted, List.length_append]
  · cases h

/-- A piece that is taken keeps file, hash and count together, and stays within the size. -/
theorem holds_data (hd : d.Holds size b) (h : (imageSink size).data d piece = (none, d')) :
    d'.Holds size (b ++ piece) := by
  unfold imageSink at h
  dsimp only at h
  split at h
  · rename_i expected
    split at h
    · cases h
    · rename_i hfits
      -- The size is compared before the piece is written, so it bounds what is in the file.
      apply holds_append hd h
      intro e he
      obtain rfl := Option.some.inj he
      unfold exceeds at hfits
      rw [hd.counted] at hfits
      rw [List.length_append]
      simpa using hfits
  · apply holds_append hd h
    intro e he
    cases he

theorem holds_takePieces {pieces : List Bytes} (hd : d.Holds size b)
    (h : (imageSink size).takePieces d pieces = (none, d')) : d'.Holds size (b ++ pieces.flatten) := by
  induction pieces generalizing d b with
  | nil =>
    obtain rfl : d = d' := congrArg Prod.snd h
    simpa using hd
  | cons piece rest ih =>
    unfold Sink.takePieces at h
    split at h
    · cases h
    · rename_i d₁ hdata
      have hrest := ih (holds_data hd hdata) h
      rwa [List.append_assoc, ← List.flatten_cons] at hrest

end Download

/-- A delivery that is taken without an error leaves exactly its body in the file. -/
theorem take_imageSink_eq_none {size : Option UInt64} {f : ImageFile} {limit : Option (Nat × OsError)}
    {delivery : Delivery} {d : Download} (hf : f.content = [])
    (h : (imageSink size).take { file := f, limit } delivery = (none, d)) :
    ∃ body, delivery.body? = some body ∧ d.Holds size body := by
  obtain ⟨length, pieces, d₁, d₂, rfl, hheader, hpieces, hfinish⟩ := Sink.take_eq_none h
  obtain rfl : { file := f, limit } = d₁ := by
    unfold imageSink at hheader
    dsimp only at hheader
    split at hheader
    · split at hheader
      · exact congrArg Prod.snd hheader
      · cases hheader
    · exact congrArg Prod.snd hheader
  obtain rfl : d₂ = d := congrArg Prod.snd hfinish
  exact ⟨pieces.flatten, rfl, Download.holds_takePieces (Download.holds_start hf limit) hpieces⟩

end MeshFirmware.Updater
