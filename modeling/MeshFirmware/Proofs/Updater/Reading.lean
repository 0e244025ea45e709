import MeshFirmware.Proofs.Manifest.Body
import MeshFirmware.Updater.Attempt

/-!
# A manifest that comes in

A manifest is read while it is delivered, piece by piece. However it is cut, the sink ends up with the manifest
that the lines of the whole body make (`take_manifestSink`), and it takes a delivery without an error only if
the delivery comes to its end and no line is refused (`take_manifestSink_eq_none`). What is read of two bodies
that sign the same bytes is the same up to the signatures.
-/

namespace MeshFirmware

/-- The body of a delivery that comes to its end. -/
def Delivery.body? : Delivery → Option Bytes
  | .started _ pieces none => some pieces.flatten
  | _ => none

theorem Delivery.exists_of_body? {d : Delivery} {body : Bytes} (h : d.body? = some body) :
    ∃ length pieces, d = .started length pieces none ∧ pieces.flatten = body := by
  unfold Delivery.body? at h
  split at h
  · rename_i length pieces
    exact ⟨length, pieces, rfl, Option.some.inj h⟩
  · cases h

/-- A delivery that is taken without an error has a header, and its end. -/
theorem Sink.take_eq_none {σ ε : Type} {k : Sink σ ε} {s s' : σ} {d : Delivery} (h : k.take s d = (none, s')) :
    ∃ length pieces s₁ s₂, d = .started length pieces none ∧ k.header s length = (none, s₁) ∧
      k.takePieces s₁ pieces = (none, s₂) ∧ k.finish s₂ = (none, s') := by
  unfold Sink.take at h
  split at h
  · cases h
  · rename_i length pieces failure
    split at h
    · cases h
    · rename_i s₁ hheader
      split at h
      · cases h
      · rename_i s₂ hpieces
        split at h
        · cases h
        · split at h
          · cases h
          · rename_i s₃ hfinish
            obtain rfl := congrArg Prod.snd h
            exact ⟨length, pieces, s₁, s₂, rfl, hheader, hpieces, hfinish⟩

namespace Manifest

/-- Whether two manifests say the same about a release, under the same signed digest. -/
structure Agrees (m m' : Manifest) : Prop where
  date : m.date = m'.date
  priority : m.priority = m'.priority
  branch : m.branchNamed = m'.branchNamed
  image : m.image = m'.image
  digest : m.signedDigest = m'.signedDigest

theorem Agrees.of_withoutSignatures {m m' : Manifest} (h : m.withoutSignatures = m'.withoutSignatures) :
    m.Agrees m' := by
  have hkept : m.withoutSignatures.Agrees m'.withoutSignatures := by
    rw [h]
    exact ⟨rfl, rfl, rfl, rfl, rfl⟩
  exact ⟨hkept.date, hkept.priority, hkept.branch, hkept.image, hkept.digest⟩

/-- Bodies that sign the same bytes make manifests that say the same. -/
theorem agrees_of_signedBytes (branch model : String) {body body' : Bytes}
    (h : (LineSplitter.lines body).2 = none) (h' : (LineSplitter.lines body').2 = none)
    (hsigned : signedBytes body = signedBytes body') :
    (empty.readLines branch model (LineSplitter.lines body).1).Agrees
      (empty.readLines branch model (LineSplitter.lines body').1) := by
  have hlines : signedLines (LineSplitter.lines body).1 = signedLines (LineSplitter.lines body').1 := by
    apply signedLines_eq_of_hashedBytes (LineSplitter.newline_notMem_lines body)
      (LineSplitter.newline_notMem_lines body')
    rw [hashedBytes_lines h, hashedBytes_lines h', hsigned]
  apply Agrees.of_withoutSignatures
  rw [withoutSignatures_readLines branch model rfl, hlines, ← withoutSignatures_readLines branch model rfl]

end Manifest

namespace Updater
variable {branch model : String}

/-- However a body is cut, its lines are read, up to the first that is refused. -/
theorem take_manifestSink (branch model : String) (r : Reading) (length : Option UInt64) (pieces : List Bytes) :
    ((manifestSink branch model).take r (.started length pieces none)).1 =
        (r.splitter.stream pieces).2.map .sink ∧
      ((manifestSink branch model).take r (.started length pieces none)).2.manifest =
        r.manifest.readLines branch model (r.splitter.stream pieces).1 := by
  -- On the pieces, from any reading: each piece leaves its splitter and manifest to the next.
  induction pieces generalizing r with
  | nil =>
    simp only [Sink.take, Sink.takePieces, manifestSink, Reading.advance, LineSplitter.stream]
    cases r.splitter.finish.error <;> exact ⟨rfl, rfl⟩
  | cons piece rest ih =>
    have hrest := ih ⟨(r.splitter.push piece).splitter,
      r.manifest.readLines branch model (r.splitter.push piece).lines⟩
    simp only [Sink.take, Sink.takePieces, manifestSink, Reading.advance, LineSplitter.stream] at hrest ⊢
    cases (r.splitter.push piece).error with
    | some e => exact ⟨rfl, rfl⟩
    | none =>
      rw [Manifest.readLines_append]
      exact hrest

/-- A manifest that is taken without an error has been read whole. -/
theorem take_manifestSink_eq_none {d : Delivery} {r : Reading}
    (h : (manifestSink branch model).take {} d = (none, r)) :
    ∃ body, d.body? = some body ∧ (LineSplitter.lines body).2 = none ∧
      r.manifest = Manifest.empty.readLines branch model (LineSplitter.lines body).1 := by
  obtain ⟨length, pieces, -, -, rfl, -, -, -⟩ := Sink.take_eq_none h
  obtain ⟨herror, hmanifest⟩ := take_manifestSink branch model {} length pieces
  have hstream : ({} : Reading).splitter.stream pieces = LineSplitter.lines pieces.flatten :=
    LineSplitter.stream_eq_lines pieces
  rw [h, hstream] at herror hmanifest
  exact ⟨pieces.flatten, rfl, Option.map_eq_none_iff.mp herror.symm, hmanifest⟩

/-- The hash of a manifest takes exactly the signed bytes of its body. Two bodies that sign the same bytes, in
whatever pieces they come, make manifests that differ in their signatures at most, so that neither what follows
the separator nor the carriage returns of lines can change anything else. -/
theorem manifest_determined_by_signedBytes {length length' : Option UInt64} {pieces pieces' : List Bytes}
    {r r' : Reading} (h : (manifestSink branch model).take {} (.started length pieces none) = (none, r))
    (h' : (manifestSink branch model).take {} (.started length' pieces' none) = (none, r')) :
    r.manifest.hasher = Hash.Hasher.start.absorb (signedBytes pieces.flatten) ∧
      r'.manifest.hasher = Hash.Hasher.start.absorb (signedBytes pieces'.flatten) ∧
      (signedBytes pieces.flatten = signedBytes pieces'.flatten → r.manifest.Agrees r'.manifest) ∧
      (∀ front line line' rest rest' : Bytes, (front = [] ∨ front.getLast? = some newline) →
        newline ∉ line → withoutReturn line = Bytes.ofText manifestSeparator →
        newline ∉ line' → withoutReturn line' = Bytes.ofText manifestSeparator →
        pieces.flatten = front ++ (line ++ newline :: rest) →
        pieces'.flatten = front ++ (line' ++ newline :: rest') → r.manifest.Agrees r'.manifest) ∧
      ((LineSplitter.segments pieces.flatten).map withoutReturn =
          (LineSplitter.segments pieces'.flatten).map withoutReturn →
        r.manifest.Agrees r'.manifest) := by
  obtain ⟨body, hbody, hlines, hread⟩ := take_manifestSink_eq_none h
  obtain ⟨body', hbody', hlines', hread'⟩ := take_manifestSink_eq_none h'
  obtain rfl : pieces.flatten = body := Option.some.inj hbody
  obtain rfl : pieces'.flatten = body' := Option.some.inj hbody'
  have hagrees (hsigned : signedBytes pieces.flatten = signedBytes pieces'.flatten) :
      r.manifest.Agrees r'.manifest := by
    rw [hread, hread']
    exact Manifest.agrees_of_signedBytes branch model hlines hlines' hsigned
  refine ⟨?_, ?_, hagrees, ?_, ?_⟩
  · rw [hread, Manifest.hasher_readLines branch model rfl, Manifest.hashedBytes_lines hlines]
    rfl
  · rw [hread', Manifest.hasher_readLines branch model rfl, Manifest.hashedBytes_lines hlines']
    rfl
  · intro front line line' rest rest' hfront hopen hline hopen' hline' hcut hcut'
    apply hagrees
    rw [hcut, hcut', signedBytes_separator hfront hopen hline, signedBytes_separator hfront hopen' hline']
  · intro hsame
    apply hagrees
    rw [signedBytes, signedBytes, signedSegments, signedSegments, hsame]

/-- A body, and one that is cut elsewhere, has carriage returns and has a line after the separator. -/
theorem manifest_of_other_cut :
    let first : List Bytes := [Bytes.ofText "BRANCH=stable\n-", Bytes.ofText "--\n"]
    let second : List Bytes := [Bytes.ofText "BRANCH=stable\r", Bytes.ofText "\n---\r\nff\n"]
    ∃ r r' : Reading, (manifestSink "stable" "tiny").take {} (.started none first none) = (none, r) ∧
      (manifestSink "stable" "tiny").take {} (.started (some 7) second none) = (none, r') ∧
      signedBytes first.flatten = signedBytes second.flatten ∧ r.manifest.Agrees r'.manifest := by
  intro first second
  have h : (manifestSink "stable" "tiny").take {} (.started none first none) = (none, _) :=
    Prod.ext (by decide +kernel) rfl
  have h' : (manifestSink "stable" "tiny").take {} (.started (some 7) second none) = (none, _) :=
    Prod.ext (by decide +kernel) rfl
  have hsigned : signedBytes first.flatten = signedBytes second.flatten := by decide +kernel
  exact ⟨_, _, h, h', hsigned, (manifest_determined_by_signedBytes h h').2.2.1 hsigned⟩

end Updater

end MeshFirmware
