import MeshFirmware.Proofs.Version.Readings

/-!
# Walking through two versions

Versions can be compared in place, by a walk with one place in each of them: it passes a run of text, zeros, and a
run of digits in both versions, and then begins anew (`step`). Where it stands, a digit and the end of a version look
alike. The places never leave their versions (`Within.after`), and the walk ends with the order of the two
(`ends_onward`): in each phase it passes exactly the run that is to be compared next.
-/

namespace MeshFirmware.Version

/-- What a walk through two versions does next. -/
inductive Phase where
  /-- Looks whether one of the versions goes on. -/
  | onward
  | text
  | leftZeros
  | rightZeros
  /-- Passes digits two by two, with the order of the first two that were not the same. -/
  | digits (first : Ordering)
  deriving DecidableEq, Repr

/-- A walk through two versions: where it is in each of them, and what it does next. -/
structure Walk where
  left : Nat
  right : Nat
  phase : Phase
  deriving DecidableEq, Repr

/-- A walk goes on, or it ends with the order of the versions. -/
inductive Turn where
  | go (w : Walk)
  | answer (o : Ordering)
  deriving DecidableEq, Repr

/-- Whether a byte of a run of text is here. -/
def isTextAt (c : Option UInt8) : Bool := c.any fun b => !isDigit b

/-- The place in the order of what is here. A digit has that of the end of a version. -/
def placeAt : Option UInt8 → Int
  | none => 0
  | some b => if isDigit b then 0 else place b

section
variable (a b : Bytes)

/-- One step of a walk. -/
def step (w : Walk) : Turn :=
  let x := a[w.left]?
  let y := b[w.right]?
  match w.phase with
  | .onward =>
    if w.left < a.length ∨ w.right < b.length then .go { w with phase := .text } else .answer .eq
  | .text =>
    if isTextAt x || isTextAt y then
      if placeAt x = placeAt y then .go ⟨w.left + 1, w.right + 1, .text⟩
      else .answer (compare (placeAt x) (placeAt y))
    else .go { w with phase := .leftZeros }
  | .leftZeros =>
    if x = some 48 then .go { w with left := w.left + 1 } else .go { w with phase := .rightZeros }
  | .rightZeros =>
    if y = some 48 then .go { w with right := w.right + 1 } else .go { w with phase := .digits .eq }
  | .digits first =>
    match x.filter isDigit, y.filter isDigit with
    | some c, some d => .go ⟨w.left + 1, w.right + 1, .digits (first.then (compare c.toNat d.toNat))⟩
    | some _, none => .answer .gt
    | none, some _ => .answer .lt
    | none, none => if first = .eq then .go { w with phase := .onward } else .answer first

/-- So many steps of a walk, or fewer if it ends before. -/
def after : Nat → Walk → Turn
  | 0, w => .go w
  | n + 1, w =>
    match step a b w with
    | .go w => after n w
    | .answer o => .answer o

/-- The walk ends with this order. -/
inductive Ends : Walk → Ordering → Prop where
  | now {w : Walk} {o : Ordering} (h : step a b w = .answer o) : Ends w o
  | later {w w' : Walk} {o : Ordering} (h : step a b w = .go w') (hw : Ends w' o) : Ends w o

/-- A walk at the start of two versions. -/
def Walk.start : Walk := ⟨0, 0, .onward⟩

/-- The walk is nowhere beyond the end of a version. -/
structure Within (w : Walk) : Prop where
  left : w.left ≤ a.length
  right : w.right ≤ b.length

end

section
variable {a b : Bytes}

theorem Ends.exists_after {w : Walk} {o : Ordering} (h : Ends a b w o) : ∃ n, after a b n w = .answer o := by
  induction h with
  | now h => exact ⟨1, by rw [after, h]⟩
  | later h _ ih =>
    obtain ⟨n, hn⟩ := ih
    exact ⟨n + 1, by rw [after, h]; exact hn⟩

/-! ## The places -/

/-- Only text has a place other than that of the end. -/
theorem isTextAt_iff (c : Option UInt8) : isTextAt c = true ↔ placeAt c ≠ 0 := by
  cases c with
  | none => simp [isTextAt, placeAt]
  | some c =>
    have hplace := place_ne_zero c
    by_cases hc : isDigit c = true <;> simp [isTextAt, placeAt, hc, hplace]

/-- What has the same place as text is text. -/
theorem isTextAt_both {x y : Option UInt8} (h : (isTextAt x || isTextAt y) = true) (hsame : placeAt x = placeAt y) :
    isTextAt x = true ∧ isTextAt y = true := by
  rw [Bool.or_eq_true, isTextAt_iff, isTextAt_iff, hsame, or_self] at h
  exact ⟨(isTextAt_iff x).mpr (hsame ▸ h), (isTextAt_iff y).mpr h⟩

theorem lt_length_of_isTextAt {i : Nat} (h : isTextAt a[i]? = true) : i < a.length := by
  cases hi : a[i]? with
  | none =>
    rw [hi] at h
    cases h
  | some c => exact (List.getElem?_eq_some_iff.mp hi).1

theorem lt_length_of_filter {i : Nat} {c : UInt8} (h : a[i]?.filter isDigit = some c) : i < a.length := by
  cases hi : a[i]? with
  | none =>
    rw [hi] at h
    cases h
  | some c => exact (List.getElem?_eq_some_iff.mp hi).1

/-- Text is passed only where both versions have it: its place is not that of a digit or an end. -/
theorem Within.step {w w' : Walk} (hw : Within a b w) (h : step a b w = .go w') : Within a b w' := by
  obtain ⟨i, j, phase⟩ := w
  obtain ⟨hi, hj⟩ := hw
  dsimp only at hi hj
  unfold Version.step at h
  dsimp only at h
  cases phase with
  | onward =>
    dsimp only at h
    split at h
    · cases h
      exact ⟨hi, hj⟩
    · cases h
  | text =>
    dsimp only at h
    split at h
    · rename_i htext
      split at h
      · rename_i hsame
        have hboth := isTextAt_both htext hsame
        cases h
        exact ⟨lt_length_of_isTextAt hboth.1, lt_length_of_isTextAt hboth.2⟩
      · cases h
    · cases h
      exact ⟨hi, hj⟩
  | leftZeros =>
    dsimp only at h
    split at h
    · rename_i hzero
      cases h
      exact ⟨(List.getElem?_eq_some_iff.mp hzero).1, hj⟩
    · cases h
      exact ⟨hi, hj⟩
  | rightZeros =>
    dsimp only at h
    split at h
    · rename_i hzero
      cases h
      exact ⟨hi, (List.getElem?_eq_some_iff.mp hzero).1⟩
    · cases h
      exact ⟨hi, hj⟩
  | digits first =>
    dsimp only at h
    split at h
    · rename_i hc hd
      cases h
      exact ⟨lt_length_of_filter hc, lt_length_of_filter hd⟩
    · cases h
    · cases h
    · split at h
      · cases h
        exact ⟨hi, hj⟩
      · cases h

theorem Within.after {w w' : Walk} {n : Nat} (hw : Within a b w) (h : after a b n w = .go w') : Within a b w' := by
  induction n generalizing w with
  | zero =>
    cases h
    exact hw
  | succ n ih =>
    rw [Version.after] at h
    split at h
    · rename_i hstep
      exact ih (hw.step hstep) h
    · cases h

/-! ## The phases -/

theorem drop_length_takeWhile {α : Type} (p : α → Bool) (l : List α) :
    l.drop (l.takeWhile p).length = l.dropWhile p := by
  calc l.drop (l.takeWhile p).length
      = (l.takeWhile p ++ l.dropWhile p).drop (l.takeWhile p).length := by rw [List.takeWhile_append_dropWhile]
    _ = l.dropWhile p := List.drop_left

theorem drop_add_length_takeWhile {α : Type} {v as : List α} {i : Nat} (h : v.drop i = as) (p : α → Bool) :
    v.drop (i + (as.takeWhile p).length) = as.dropWhile p := by
  rw [← List.drop_drop, h, drop_length_takeWhile]

theorem placeAt_head? (as : Bytes) : placeAt as.head? = firstPlace (textRun as) := by
  cases as with
  | nil => rfl
  | cons c as => by_cases hc : isDigit c = true <;> simp [placeAt, textRun, firstPlace, hc]

theorem textRun_of_isTextAt {as : Bytes} (h : isTextAt as.head? = true) :
    ∃ c rest, as = c :: rest ∧ textRun as = c :: textRun rest := by
  cases as with
  | nil => cases h
  | cons c as => exact ⟨c, as, rfl, List.takeWhile_cons_of_pos (p := fun b => !isDigit b) h⟩

theorem textRun_of_not_isTextAt {as : Bytes} (h : ¬ isTextAt as.head? = true) : textRun as = [] := by
  cases as with
  | nil => rfl
  | cons c as => exact List.takeWhile_cons_of_neg (p := fun b => !isDigit b) h

theorem drop_succ {i : Nat} {c : UInt8} {as : Bytes} (h : a.drop i = c :: as) : a.drop (i + 1) = as := by
  rw [← List.drop_drop, h, List.drop_one, List.tail_cons]

theorem then_of_ne_eq {x : Ordering} (h : x ≠ .eq) (o : Ordering) : x.then o = x := by
  cases x with
  | eq => exact absurd rfl h
  | lt => rfl
  | gt => rfl

/-- The walk passes the two runs of text, or it ends at their first difference. -/
theorem ends_text {as bs : Bytes} {i j : Nat} {o : Ordering} (ha : a.drop i = as) (hb : b.drop j = bs)
    (h : compareText (textRun as) (textRun bs) = .eq →
      Ends a b ⟨i + (textRun as).length, j + (textRun bs).length, .leftZeros⟩ o) :
    Ends a b ⟨i, j, .text⟩ ((compareText (textRun as) (textRun bs)).then o) := by
  induction hn : as.length using Nat.strongRecOn generalizing as bs i j with
  | _ n ih =>
    have hstep : step a b ⟨i, j, .text⟩ =
        if (isTextAt as.head? || isTextAt bs.head?) = true then
          if placeAt as.head? = placeAt bs.head? then .go ⟨i + 1, j + 1, .text⟩
          else .answer (compare (placeAt as.head?) (placeAt bs.head?))
        else .go ⟨i, j, .leftZeros⟩ := by
      rw [← ha, ← hb, List.head?_drop, List.head?_drop]
      rfl
    by_cases htext : (isTextAt as.head? || isTextAt bs.head?) = true
    · rw [if_pos htext] at hstep
      by_cases hsame : placeAt as.head? = placeAt bs.head?
      · rw [if_pos hsame] at hstep
        obtain ⟨hleft, hright⟩ := isTextAt_both htext hsame
        obtain ⟨c, as', rfl, hrun⟩ := textRun_of_isTextAt hleft
        obtain ⟨d, bs', rfl, hrun'⟩ := textRun_of_isTextAt hright
        rw [placeAt_head?, placeAt_head?, hrun, hrun'] at hsame
        have hcmp : compareText (textRun (c :: as')) (textRun (d :: bs')) =
            compareText (textRun as') (textRun bs') := by
          rw [hrun, hrun', compareText_step, compare_eq_iff_eq.mpr hsame]
          rfl
        rw [hcmp] at h ⊢
        rw [hrun, hrun', List.length_cons, List.length_cons] at h
        refine .later hstep (ih as'.length ?_ (drop_succ ha) (drop_succ hb) ?_ rfl)
        · rw [← hn]
          exact Nat.lt_succ_self _
        · rwa [Nat.add_assoc, Nat.add_comm 1, Nat.add_assoc j, Nat.add_comm 1]
      · rw [if_neg hsame] at hstep
        rw [placeAt_head?, placeAt_head?] at hstep hsame
        have hne : compare (firstPlace (textRun as)) (firstPlace (textRun bs)) ≠ .eq :=
          fun heq => hsame (compare_eq_iff_eq.mp heq)
        rw [compareText_step, then_of_ne_eq hne, then_of_ne_eq hne]
        exact .now hstep
    · rw [if_neg htext] at hstep
      rw [Bool.or_eq_true, not_or] at htext
      rw [textRun_of_not_isTextAt htext.1, textRun_of_not_isTextAt htext.2] at h ⊢
      exact .later hstep (h rfl)

/-- The walk passes the zeros of one version. -/
theorem ends_zeros {v as : Bytes} {i : Nat} {o : Ordering} (here beyond : Nat → Walk)
    (hstep : ∀ i, step a b (here i) = if v[i]? = some 48 then .go (here (i + 1)) else .go (beyond i))
    (hv : v.drop i = as) (h : Ends a b (beyond (i + (as.takeWhile (· == 48)).length)) o) : Ends a b (here i) o := by
  have hfirst := hstep i
  rw [← List.head?_drop, hv] at hfirst
  induction as generalizing i with
  | nil => exact .later hfirst h
  | cons c as ih =>
    by_cases hc : c = 48
    · rw [if_pos (by rw [hc]; rfl)] at hfirst
      rw [List.takeWhile_cons_of_pos (by simpa using hc), List.length_cons] at h
      refine .later hfirst (ih (drop_succ hv) ?_ ?_)
      · rwa [Nat.add_assoc, Nat.add_comm 1]
      · rw [hstep (i + 1), ← List.head?_drop, drop_succ hv]
    · rw [if_neg (by simpa using hc)] at hfirst
      rw [List.takeWhile_cons_of_neg (by simpa using hc)] at h
      exact .later hfirst h

theorem digits_cases (as : Bytes) :
    (∃ c rest, as = c :: rest ∧ as.head?.filter isDigit = some c ∧
        as.takeWhile isDigit = c :: rest.takeWhile isDigit) ∨
      as.head?.filter isDigit = none ∧ as.takeWhile isDigit = [] := by
  cases as with
  | nil => exact .inr ⟨rfl, rfl⟩
  | cons c as =>
    by_cases hc : isDigit c = true
    · exact .inl ⟨c, as, rfl, by simp [hc], List.takeWhile_cons_of_pos hc⟩
    · exact .inr ⟨by simp [hc], List.takeWhile_cons_of_neg hc⟩

/-- What comes of two runs of digits, if the digits before them were in this order: the longer one is larger, and of
two equally long ones the first difference decides. -/
def digitsOrder (first : Ordering) (as bs : Bytes) : Ordering :=
  (compare as.length bs.length).then (first.then (Bytes.compare as bs))

theorem digitsOrder_cons (first : Ordering) (c d : UInt8) (as bs : Bytes) :
    digitsOrder first (c :: as) (d :: bs) = digitsOrder (first.then (compare c.toNat d.toNat)) as bs := by
  have hlength : compare (c :: as).length (d :: bs).length = compare as.length bs.length :=
    compare_congr Nat.succ_lt_succ_iff Nat.succ_lt_succ_iff
  have hbytes : Bytes.compare (c :: as) (d :: bs) = (compare c.toNat d.toNat).then (Bytes.compare as bs) := by
    rw [Bytes.compare]
    split
    · rename_i hlt
      rw [compare_lt_iff_lt.mpr (UInt8.lt_iff_toNat_lt.mp hlt)]
      rfl
    · rename_i hlt
      split
      · rename_i hgt
        rw [compare_gt_iff_gt.mpr (UInt8.lt_iff_toNat_lt.mp hgt)]
        rfl
      · rename_i hgt
        rw [UInt8.lt_iff_toNat_lt] at hlt hgt
        rw [compare_eq_iff_eq.mpr (by omega)]
        rfl
  rw [digitsOrder, digitsOrder, hlength, hbytes, Ordering.then_assoc]

/-- The walk passes the two runs of digits, or it ends with their order. -/
theorem ends_digits {as bs : Bytes} {i j : Nat} {first o : Ordering} (ha : a.drop i = as) (hb : b.drop j = bs)
    (h : digitsOrder first (as.takeWhile isDigit) (bs.takeWhile isDigit) = .eq →
      Ends a b ⟨i + (as.takeWhile isDigit).length, j + (bs.takeWhile isDigit).length, .onward⟩ o) :
    Ends a b ⟨i, j, .digits first⟩
      ((digitsOrder first (as.takeWhile isDigit) (bs.takeWhile isDigit)).then o) := by
  induction hn : as.length using Nat.strongRecOn generalizing as bs i j first with
  | _ n ih =>
    have hstep : step a b ⟨i, j, .digits first⟩ =
        match as.head?.filter isDigit, bs.head?.filter isDigit with
        | some c, some d => .go ⟨i + 1, j + 1, .digits (first.then (compare c.toNat d.toNat))⟩
        | some _, none => .answer .gt
        | none, some _ => .answer .lt
        | none, none => if first = .eq then .go ⟨i, j, .onward⟩ else .answer first := by
      rw [← ha, ← hb, List.head?_drop, List.head?_drop]
      rfl
    rcases digits_cases as with ⟨c, as', rfl, hx, hrun⟩ | ⟨hx, hrun⟩
    · rcases digits_cases bs with ⟨d, bs', rfl, hy, hrun'⟩ | ⟨hy, hrun'⟩
      · rw [hx, hy] at hstep
        rw [hrun, hrun', digitsOrder_cons, List.length_cons, List.length_cons] at h
        rw [hrun, hrun', digitsOrder_cons]
        refine .later hstep (ih as'.length ?_ (drop_succ ha) (drop_succ hb) ?_ rfl)
        · rw [← hn]
          exact Nat.lt_succ_self _
        · rwa [Nat.add_assoc, Nat.add_comm 1, Nat.add_assoc j, Nat.add_comm 1]
      · rw [hx, hy] at hstep
        rw [hrun, hrun', digitsOrder, List.length_cons, List.length_nil,
          compare_gt_iff_gt.mpr (Nat.succ_pos _)]
        exact .now hstep
    · rcases digits_cases bs with ⟨d, bs', rfl, hy, hrun'⟩ | ⟨hy, hrun'⟩
      · rw [hx, hy] at hstep
        rw [hrun, hrun', digitsOrder, List.length_cons, List.length_nil,
          compare_lt_iff_lt.mpr (Nat.succ_pos _)]
        exact .now hstep
      · rw [hx, hy] at hstep
        have hfirst : digitsOrder first [] [] = first := by cases first <;> rfl
        rw [hrun, hrun', hfirst] at h ⊢
        dsimp only at hstep
        by_cases heq : first = .eq
        · rw [if_pos heq] at hstep
          subst heq
          exact .later hstep (h rfl)
        · rw [if_neg heq] at hstep
          rw [then_of_ne_eq heq]
          exact .now hstep

/-! ## The whole walk -/

theorem takeWhile_isDigit_dropWhile (as : Bytes) :
    (as.dropWhile (· == 48)).takeWhile isDigit = significant (as.takeWhile isDigit) := by
  induction as with
  | nil => rfl
  | cons c as ih =>
    unfold significant at *
    by_cases hc : c = 48
    · subst hc
      exact ih
    · have hne : ¬ (c == 48) = true := by simpa using hc
      rw [List.dropWhile_cons_of_neg (p := (· == 48)) hne]
      by_cases hdigit : isDigit c = true
      · rw [List.takeWhile_cons_of_pos hdigit, List.dropWhile_cons_of_neg (p := (· == 48)) hne]
      · rw [List.takeWhile_cons_of_neg hdigit]
        rfl

theorem dropWhile_isDigit_dropWhile (as : Bytes) :
    (as.dropWhile (· == 48)).dropWhile isDigit = as.dropWhile isDigit := by
  induction as with
  | nil => rfl
  | cons c as ih =>
    by_cases hc : c = 48
    · subst hc
      exact ih
    · rw [List.dropWhile_cons_of_neg (by simpa using hc)]

/-- The walk ends with the order of what is left of the two versions. -/
theorem ends_onward (i j : Nat) : Ends a b ⟨i, j, .onward⟩ (order (a.drop i) (b.drop j)) := by
  induction hn : (a.drop i).length + (b.drop j).length using Nat.strongRecOn generalizing i j with
  | _ n ih =>
    have hstep : step a b ⟨i, j, .onward⟩ =
        if i < a.length ∨ j < b.length then .go ⟨i, j, .text⟩ else .answer .eq := rfl
    by_cases hgo : i < a.length ∨ j < b.length
    · rw [if_pos hgo] at hstep
      generalize has : a.drop i = as at hn ⊢
      generalize hbs : b.drop j = bs at hn ⊢
      -- Where the walk is after the text, after the zeros, and after the digits.
      have ha₁ := drop_add_length_takeWhile has fun b => !isDigit b
      have hb₁ := drop_add_length_takeWhile hbs fun b => !isDigit b
      have ha₂ := drop_add_length_takeWhile ha₁ (· == 48)
      have hb₂ := drop_add_length_takeWhile hb₁ (· == 48)
      have ha₃ := drop_add_length_takeWhile ha₂ isDigit
      have hb₃ := drop_add_length_takeWhile hb₂ isDigit
      rw [dropWhile_isDigit_dropWhile] at ha₃ hb₃
      have hdigits : digitsOrder .eq
          (((afterText as).dropWhile (· == 48)).takeWhile isDigit)
          (((afterText bs).dropWhile (· == 48)).takeWhile isDigit) = compareDigits (digitRun as) (digitRun bs) := by
        rw [takeWhile_isDigit_dropWhile, takeWhile_isDigit_dropWhile]
        rfl
      have hsmaller : (rest as).length + (rest bs).length < n := by
        have hla := length_rest_le as
        have hlb := length_rest_le bs
        rcases hgo with hgo | hgo
        · have hne : as ≠ [] := by
            rw [← has, Ne, List.drop_eq_nil_iff, Nat.not_le]
            exact hgo
          have hlt := length_rest_lt hne
          omega
        · have hne : bs ≠ [] := by
            rw [← hbs, Ne, List.drop_eq_nil_iff, Nat.not_le]
            exact hgo
          have hlt := length_rest_lt hne
          omega
      rw [order_stepwise.step, compareRuns, compareLex, Ordering.then_assoc, ← hdigits]
      refine .later hstep (ends_text has hbs fun _ => ?_)
      refine ends_zeros (fun i => ⟨i, _, .leftZeros⟩) (fun i => ⟨i, _, .rightZeros⟩) (fun _ => rfl) ha₁ ?_
      refine ends_zeros (fun j => ⟨_, j, .rightZeros⟩) (fun j => ⟨_, j, .digits .eq⟩) (fun _ => rfl) hb₁ ?_
      refine ends_digits ha₂ hb₂ fun _ => ?_
      have hrest := ih _ hsmaller _ _ (by rw [ha₃, hb₃]; rfl)
      rw [ha₃, hb₃] at hrest
      exact hrest
    · rw [if_neg hgo] at hstep
      rw [not_or, Nat.not_lt, Nat.not_lt] at hgo
      rw [List.drop_eq_nil_of_le hgo.1, List.drop_eq_nil_of_le hgo.2, order, dif_pos ⟨rfl, rfl⟩]
      exact .now hstep

end

/-- Every version has a reading, and versions compare as their readings do: as sequences of runs of text and numbers.
They compare equal exactly if these sequences are the same. A walk through both versions ends with their order, and
until then it is nowhere beyond the end of a version. -/
theorem versions_compare_as_read (a b : String) :
    (∃ ps, IsReading (Bytes.ofText a) ps) ∧
      (∀ as bs, IsReading (Bytes.ofText a) as → IsReading (Bytes.ofText b) bs →
        compareVersions a b = compare (readingKey as) (readingKey bs) ∧
          (compareVersions a b = .eq ↔ padded as = padded bs)) ∧
      (∃ n, after (Bytes.ofText a) (Bytes.ofText b) n .start = .answer (compareVersions a b)) ∧
      ∀ n w, after (Bytes.ofText a) (Bytes.ofText b) n .start = .go w →
        w.left ≤ (Bytes.ofText a).length ∧ w.right ≤ (Bytes.ofText b).length := by
  refine ⟨⟨_, isReading_parts _⟩, ?compared, ?ends, ?within⟩
  case compared =>
    intro as bs has hbs
    have horder : compareVersions a b = compare (readingKey as) (readingKey bs) := order_eq_compare has hbs
    refine ⟨horder, ?_⟩
    rw [horder, compare_eq_iff_eq, readingKey_eq_iff]
  case ends => exact (ends_onward 0 0).exists_after
  case within =>
    intro n w h
    have hstart : Within (Bytes.ofText a) (Bytes.ofText b) .start := ⟨Nat.zero_le _, Nat.zero_le _⟩
    have hw := hstart.after h
    exact ⟨hw.left, hw.right⟩

/-- A tilde in a run of text, against zeros in front of a number. -/
theorem versions_compare_as_read_before_release :
    let as : List (Bytes × Bytes) := [([], [49]), ([46], [48]), ([126, 114, 99], [49])]
    let bs : List (Bytes × Bytes) := [([], [48, 49]), ([46], [48, 48])]
    IsReading (Bytes.ofText "1.0~rc1") as ∧ IsReading (Bytes.ofText "01.00") bs ∧
      compare (readingKey as) (readingKey bs) = .lt ∧ padded as ≠ padded bs ∧
      (after (Bytes.ofText "1.0~rc1") (Bytes.ofText "01.00") 4 .start = .go ⟨0, 1, .rightZeros⟩) ∧
      1 ≤ (Bytes.ofText "01.00").length := by
  intro as bs
  have has : IsReading (Bytes.ofText "1.0~rc1") as := by decide +kernel
  have hbs : IsReading (Bytes.ofText "01.00") bs := by decide +kernel
  have hlt : compareVersions "1.0~rc1" "01.00" = .lt := by decide +kernel
  have hgo : after (Bytes.ofText "1.0~rc1") (Bytes.ofText "01.00") 4 .start = .go ⟨0, 1, .rightZeros⟩ := by
    decide +kernel
  obtain ⟨-, hcompared, -, hwithin⟩ := versions_compare_as_read "1.0~rc1" "01.00"
  obtain ⟨horder, heq⟩ := hcompared as bs has hbs
  refine ⟨has, hbs, horder.symm.trans hlt, ?_, hgo, (hwithin 4 _ hgo).2⟩
  intro hsame
  rw [heq.mpr hsame] at hlt
  cases hlt

end MeshFirmware.Version
