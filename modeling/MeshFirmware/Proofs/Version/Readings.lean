import Mathlib.Algebra.Ring.Nat
import Mathlib.Data.List.TakeWhile
import Mathlib.Data.Prod.Lex
import Mathlib.Order.PiLex
import MeshFirmware.Numeral.Decimal
import MeshFirmware.Proofs.Text.Splitting
import MeshFirmware.Proofs.Version.Order

/-!
# Versions as sequences

A version reads as runs of text and runs of digits that take turns (`IsReading`). Padded without end by empty runs it
is a sequence, and the order of versions is the lexicographic order of these sequences (`order_eq_compare`): a run of
digits counts as the number it writes (`compareDigits_eq`), and a run of text as the sequence of the ranks of its
bytes, its end having a rank too (`compareText_eq`).
-/

namespace MeshFirmware.Version

/-! ## Comparing sequences -/

/-- A place in a run of text: the tilde comes first, then the end of the run, the letters by their codes, and all
other bytes by their values. -/
def rank : Option UInt8 → ℕ ×ₗ ℕ
  | none => toLex (1, 0)
  | some b => if b = 126 then toLex (0, 0) else if isLetter b then toLex (2, b.toNat) else toLex (3, b.toNat)

/-- The ranks at the places of a run of text, also beyond its end. -/
def textKey (t : Bytes) : Lex (ℕ → ℕ ×ₗ ℕ) := toLex fun k => rank t[k]?

/-- The number that a run of digits writes, zero if there are none. -/
def number (digits : Bytes) : ℕ := Numeral.ofDigits 10 (digits.map fun b => b.toNat - 48)

theorem compare_congr {α β : Type} [LinearOrder α] [LinearOrder β] {a b : α} {x y : β} (hlt : a < b ↔ x < y)
    (hgt : b < a ↔ y < x) : compare a b = compare x y := by
  rcases lt_trichotomy x y with h | h | h
  · rw [compare_lt_iff_lt.mpr h, compare_lt_iff_lt.mpr (hlt.mpr h)]
  · have heq : a = b := by
      apply le_antisymm
      · rw [← not_lt, hgt, h]
        exact lt_irrefl y
      · rw [← not_lt, hlt, h]
        exact lt_irrefl y
    rw [compare_eq_iff_eq.mpr h, compare_eq_iff_eq.mpr heq]
  · rw [compare_gt_iff_gt.mpr h, compare_gt_iff_gt.mpr (hgt.mpr h)]

section
variable {κ : Type} [LinearOrder κ]

theorem toLex_lt_iff (f g : ℕ → κ) :
    toLex f < toLex g ↔ f 0 < g 0 ∨ f 0 = g 0 ∧ toLex (fun n => f (n + 1)) < toLex fun n => g (n + 1) := by
  constructor
  · rintro ⟨n, hsame, hlt⟩
    cases n with
    | zero => exact .inl hlt
    | succ n =>
      refine .inr ⟨hsame 0 (Nat.succ_pos n), n, ?_, hlt⟩
      intro k hk
      exact hsame (k + 1) (Nat.succ_lt_succ hk)
  · rintro (hlt | ⟨hzero, n, hsame, hlt⟩)
    · exact ⟨0, fun k hk => absurd hk (Nat.not_lt_zero k), hlt⟩
    · refine ⟨n + 1, ?_, hlt⟩
      intro k hk
      cases k with
      | zero => exact hzero
      | succ k => exact hsame k (Nat.lt_of_succ_lt_succ hk)

/-- Sequences are compared at their first places, and then from the next ones on. -/
theorem compare_toLex (f g : ℕ → κ) :
    compare (toLex f) (toLex g) =
      (compare (f 0) (g 0)).then (compare (toLex fun n => f (n + 1)) (toLex fun n => g (n + 1))) := by
  rcases lt_trichotomy (f 0) (g 0) with h | h | h
  · rw [compare_lt_iff_lt.mpr h, compare_lt_iff_lt.mpr ((toLex_lt_iff f g).mpr (.inl h))]
    rfl
  · rw [compare_eq_iff_eq.mpr h]
    have hlt := toLex_lt_iff f g
    have hgt := toLex_lt_iff g f
    simp only [h, lt_irrefl, false_or, true_and] at hlt hgt
    exact compare_congr hlt hgt
  · rw [compare_gt_iff_gt.mpr h, compare_gt_iff_gt.mpr ((toLex_lt_iff g f).mpr (.inl h))]
    rfl

/-- What is compared step by step by a key is compared by the sequence of the keys. -/
theorem Stepwise.eq_compare {α : Type} {cmp first : α → α → Ordering} {next : α → α} {size : α → Nat}
    (h : Stepwise cmp first next size) (key : α → κ) (hkey : ∀ a b, first a b = compare (key a) (key b)) (a b : α) :
    cmp a b = compare (toLex fun n => key (next^[n] a)) (toLex fun n => key (next^[n] b)) := by
  have hended (n : ℕ) : ∀ a b, size a = 0 → size b = 0 → key (next^[n] a) = key (next^[n] b) := by
    induction n with
    | zero =>
      intro a b ha hb
      have hstep := h.step a b
      rw [h.ended a b ha hb, eq_comm, Ordering.then_eq_eq, hkey] at hstep
      exact compare_eq_iff_eq.mp hstep.1
    | succ n ih =>
      intro a b ha hb
      have hna := h.smaller a
      have hnb := h.smaller b
      exact ih (next a) (next b) (by omega) (by omega)
  have go (n : ℕ) : ∀ a b, size a ≤ n → size b ≤ n →
      cmp a b = compare (toLex fun n => key (next^[n] a)) (toLex fun n => key (next^[n] b)) := by
    induction n with
    | zero =>
      intro a b ha hb
      have hsame : (fun n => key (next^[n] a)) = fun n => key (next^[n] b) :=
        funext fun n => hended n a b (by omega) (by omega)
      rw [h.ended a b (by omega) (by omega), hsame, compare_eq_iff_eq.mpr rfl]
    | succ n ih =>
      intro a b ha hb
      have hna := h.smaller a
      have hnb := h.smaller b
      rw [h.step a b, compare_toLex, ih (next a) (next b) (by omega) (by omega), hkey]
      rfl
  exact go (max (size a) (size b)) a b (Nat.le_max_left ..) (Nat.le_max_right ..)

end

/-! ## Runs of text -/

theorem rank_some_cases (b : UInt8) :
    b = 126 ∧ rank (some b) = toLex (0, 0) ∧ place b = -1 ∨
      rank (some b) = toLex (2, b.toNat) ∧ place b = b.toNat ∨
      rank (some b) = toLex (3, b.toNat) ∧ place b = b.toNat + 256 := by
  by_cases htilde : b = 126
  · exact .inl ⟨htilde, if_pos htilde, if_pos (beq_iff_eq.mpr htilde)⟩
  · simp only [rank, place, beq_iff_eq, if_neg htilde]
    by_cases hletter : isLetter b = true
    · exact .inr (.inl ⟨if_pos hletter, if_pos hletter⟩)
    · exact .inr (.inr ⟨if_neg hletter, if_neg hletter⟩)

theorem rank_injective : Function.Injective rank := by
  have hnone : rank none = toLex (1, 0) := rfl
  have hend (b : UInt8) : rank (some b) ≠ rank none := by
    obtain ⟨-, hrank, -⟩ | ⟨hrank, -⟩ | ⟨hrank, -⟩ := rank_some_cases b
    all_goals
      rw [hrank, hnone]
      simp
  intro x y h
  match x, y with
  | none, none => rfl
  | none, some b => exact absurd h.symm (hend b)
  | some a, none => exact absurd h (hend a)
  | some a, some b =>
    obtain ⟨ha, hrank, -⟩ | ⟨hrank, -⟩ | ⟨hrank, -⟩ := rank_some_cases a
    all_goals obtain ⟨hb, hrank', -⟩ | ⟨hrank', -⟩ | ⟨hrank', -⟩ := rank_some_cases b
    all_goals rw [hrank, hrank'] at h
    all_goals simp_all [UInt8.toNat_inj]

/-- The rank of a place, and the number that stands for it in a comparison. -/
theorem rank_head?_cases (as : Bytes) : ∃ c v, rank as.head? = toLex (c, v) ∧
    (c = 0 ∧ v = 0 ∧ firstPlace as = -1 ∨ c = 1 ∧ v = 0 ∧ firstPlace as = 0 ∨
      c = 2 ∧ 0 < v ∧ v < 256 ∧ firstPlace as = v ∨ c = 3 ∧ firstPlace as = v + 256) := by
  cases as with
  | nil => exact ⟨1, 0, rfl, .inr (.inl ⟨rfl, rfl, rfl⟩)⟩
  | cons b as =>
    obtain ⟨-, hrank, hplace⟩ | ⟨hrank, hplace⟩ | ⟨hrank, hplace⟩ := rank_some_cases b
    · exact ⟨0, 0, hrank, .inl ⟨rfl, rfl, hplace⟩⟩
    · have hpos := place_ne_zero b
      exact ⟨2, b.toNat, hrank, .inr (.inr (.inl ⟨rfl, by omega, b.toNat_lt, hplace⟩))⟩
    · exact ⟨3, b.toNat, hrank, .inr (.inr (.inr ⟨rfl, hplace⟩))⟩

theorem compare_firstPlace (as bs : Bytes) :
    compare (firstPlace as) (firstPlace bs) = compare (rank as.head?) (rank bs.head?) := by
  obtain ⟨c, v, hrank, hcases⟩ := rank_head?_cases as
  obtain ⟨c', v', hrank', hcases'⟩ := rank_head?_cases bs
  rw [hrank, hrank']
  apply compare_congr
  · rw [Prod.Lex.toLex_lt_toLex]
    dsimp only
    omega
  · rw [Prod.Lex.toLex_lt_toLex]
    dsimp only
    omega

theorem compareText_eq (as bs : Bytes) : compareText as bs = compare (textKey as) (textKey bs) := by
  have hplaces (t : Bytes) : (fun n => rank (List.tail^[n] t).head?) = fun n => rank t[n]? := by
    funext n
    induction n generalizing t with
    | zero => rw [Function.iterate_zero_apply, List.head?_eq_getElem?]
    | succ n ih => rw [Function.iterate_succ_apply, ih, List.getElem?_tail]
  rw [compareText_stepwise.eq_compare (fun as => rank as.head?) compare_firstPlace, hplaces, hplaces]
  rfl

theorem textKey_injective : Function.Injective textKey := by
  intro s t h
  apply List.ext_getElem?
  intro k
  exact rank_injective (congrFun (congrArg ofLex h) k)

/-! ## Runs of digits -/

theorem number_cons (b : UInt8) (ds : Bytes) :
    number (b :: ds) = (b.toNat - 48) * 10 ^ ds.length + number ds := by
  have h := Numeral.continued_eq 10 (b.toNat - 48) (ds.map fun b => b.toNat - 48)
  simp only [number, Numeral.ofDigits_eq_continued, List.map_cons]
  rw [List.length_map, Nat.pow_eq] at h
  rw [← h]
  simp [Numeral.continued]

theorem toNat_of_isDigit {b : UInt8} (h : isDigit b = true) : 48 ≤ b.toNat ∧ b.toNat ≤ 57 := by
  simpa [isDigit, UInt8.le_iff_toNat_le] using h

theorem number_lt {ds : Bytes} (h : ∀ b ∈ ds, isDigit b = true) : number ds < 10 ^ ds.length := by
  induction ds with
  | nil => decide
  | cons b ds ih =>
    rw [List.forall_mem_cons] at h
    have hb := toNat_of_isDigit h.1
    have hrest := ih h.2
    calc number (b :: ds) = (b.toNat - 48) * 10 ^ ds.length + number ds := number_cons b ds
      _ < (b.toNat - 48) * 10 ^ ds.length + 10 ^ ds.length := Nat.add_lt_add_left hrest _
      _ = (b.toNat - 48 + 1) * 10 ^ ds.length := (Nat.succ_mul _ _).symm
      _ ≤ 10 * 10 ^ ds.length := Nat.mul_le_mul_right _ (by omega)
      _ = 10 ^ (b :: ds).length := by rw [List.length_cons, Nat.pow_succ, Nat.mul_comm]

theorem number_significant (ds : Bytes) : number (significant ds) = number ds := by
  induction ds with
  | nil => rfl
  | cons b ds ih =>
    unfold significant at *
    by_cases hb : b = 48
    · rw [List.dropWhile_cons_of_pos (by simpa using hb), ih, number_cons, hb]
      simp
    · rw [List.dropWhile_cons_of_neg (by simpa using hb)]

/-- Runs of the same length compare as numbers at their first difference. -/
theorem compare_of_length_eq {as bs : Bytes} (hlength : as.length = bs.length) (has : ∀ b ∈ as, isDigit b = true)
    (hbs : ∀ b ∈ bs, isDigit b = true) : Bytes.compare as bs = compare (number as) (number bs) := by
  induction as generalizing bs with
  | nil =>
    obtain rfl : bs = [] := List.length_eq_zero_iff.mp hlength.symm
    rfl
  | cons a as ih =>
    cases bs with
    | nil => cases hlength
    | cons b bs =>
      rw [List.forall_mem_cons] at has hbs
      have hrest := Nat.succ.inj hlength
      have ha := toNat_of_isDigit has.1
      have hb := toNat_of_isDigit hbs.1
      have hla := number_lt has.2
      have hlb := number_lt hbs.2
      rw [Bytes.compare, number_cons, number_cons, hrest]
      rw [hrest] at hla
      -- A larger first digit outweighs all that follow.
      have hless {x y m n p : ℕ} (hxy : x < y) (hm : m < p) : x * p + m < y * p + n := by
        have hmul : (x + 1) * p ≤ y * p := Nat.mul_le_mul_right p hxy
        rw [Nat.succ_mul] at hmul
        omega
      split
      · rename_i hlt
        rw [UInt8.lt_iff_toNat_lt] at hlt
        exact (compare_lt_iff_lt.mpr (hless (by omega) hla)).symm
      · split
        · rename_i hgt
          rw [UInt8.lt_iff_toNat_lt] at hgt
          exact (compare_gt_iff_gt.mpr (hless (by omega) hlb)).symm
        · rename_i hlt hgt
          rw [UInt8.lt_iff_toNat_lt] at hlt hgt
          rw [ih hrest has.2 hbs.2]
          have heq : a.toNat = b.toNat := by omega
          rw [heq]
          exact compare_congr (by omega) (by omega)

theorem number_lt_of_length_lt {as bs : Bytes} (h : as.length < bs.length) (has : ∀ b ∈ as, isDigit b = true)
    (hbs : ∀ b ∈ bs, isDigit b = true) (hfirst : bs.head? ≠ some 48) : number as < number bs := by
  cases bs with
  | nil => cases h
  | cons b bs =>
    have hb := toNat_of_isDigit (hbs b List.mem_cons_self)
    have hne : b.toNat ≠ 48 := fun heq => hfirst (congrArg some (UInt8.toNat_inj.mp heq))
    calc number as < 10 ^ as.length := number_lt has
      _ ≤ 10 ^ bs.length := Nat.pow_le_pow_right (by decide) (Nat.le_of_lt_succ h)
      _ ≤ (b.toNat - 48) * 10 ^ bs.length := Nat.le_mul_of_pos_left _ (by omega)
      _ ≤ number (b :: bs) := by rw [number_cons]; exact Nat.le_add_right _ _

/-- Runs of digits compare as the numbers that they write, however long they are. -/
theorem compareDigits_eq {as bs : Bytes} (has : ∀ b ∈ as, isDigit b = true) (hbs : ∀ b ∈ bs, isDigit b = true) :
    compareDigits as bs = compare (number as) (number bs) := by
  have hsub {ds : Bytes} (h : ∀ b ∈ ds, isDigit b = true) : ∀ b ∈ significant ds, isDigit b = true :=
    fun b hb => h b ((List.dropWhile_sublist _).subset hb)
  have hfirst (ds : Bytes) : (significant ds).head? ≠ some 48 := by
    intro h
    have hzero := List.head?_dropWhile_not (· == (48 : UInt8)) ds
    unfold significant at h
    rw [h] at hzero
    cases hzero
  rw [← number_significant as, ← number_significant bs]
  show (compare (significant as).length (significant bs).length).then
    (Bytes.compare (significant as) (significant bs)) = _
  rcases Nat.lt_trichotomy (significant as).length (significant bs).length with h | h | h
  · rw [compare_lt_iff_lt.mpr h,
      compare_lt_iff_lt.mpr (number_lt_of_length_lt h (hsub has) (hsub hbs) (hfirst bs))]
    rfl
  · rw [compare_eq_iff_eq.mpr h]
    exact compare_of_length_eq h (hsub has) (hsub hbs)
  · rw [compare_gt_iff_gt.mpr h,
      compare_gt_iff_gt.mpr (number_lt_of_length_lt h (hsub hbs) (hsub has) (hfirst as))]
    rfl

/-! ## Readings -/

/-- A version as runs of text and runs of digits that take turns. Only the first run of text and the last run of
digits may be empty. -/
structure IsReading (v : Bytes) (parts : List (Bytes × Bytes)) : Prop where
  joined : (parts.flatMap fun p => p.1 ++ p.2) = v
  texts : ∀ p ∈ parts, ∀ b ∈ p.1, isDigit b = false
  digits : ∀ p ∈ parts, ∀ b ∈ p.2, isDigit b = true
  texts_between : ∀ p ∈ parts.tail, p.1 ≠ []
  digits_between : ∀ p ∈ parts.dropLast, p.2 ≠ []

instance (v : Bytes) (parts : List (Bytes × Bytes)) : Decidable (IsReading v parts) :=
  decidable_of_iff ((parts.flatMap fun p => p.1 ++ p.2) = v ∧ (parts.all fun p => p.1.all fun b => !isDigit b) = true ∧
      (parts.all fun p => p.2.all isDigit) = true ∧ (∀ p ∈ parts.tail, p.1 ≠ []) ∧ ∀ p ∈ parts.dropLast, p.2 ≠ []) <| by
    simp only [List.all_eq_true, Bool.not_eq_true']
    exact ⟨fun ⟨h₁, h₂, h₃, h₄, h₅⟩ => ⟨h₁, h₂, h₃, h₄, h₅⟩, fun ⟨h₁, h₂, h₃, h₄, h₅⟩ => ⟨h₁, h₂, h₃, h₄, h₅⟩⟩

/-- The runs of a reading with their numbers, and after them empty runs without end. -/
def padded (parts : List (Bytes × Bytes)) (n : ℕ) : Bytes × ℕ :=
  (parts[n]?.map fun p => (p.1, number p.2)).getD ([], 0)

/-- The sequence that a reading is compared by. -/
def readingKey (parts : List (Bytes × Bytes)) : Lex (ℕ → Lex (ℕ → ℕ ×ₗ ℕ) ×ₗ ℕ) :=
  toLex fun n => toLex (textKey (padded parts n).1, (padded parts n).2)

/-- A version cut into its runs. -/
def parts (v : Bytes) : List (Bytes × Bytes) :=
  if _h : v = [] then [] else (textRun v, digitRun v) :: parts (rest v)
termination_by v.length
decreasing_by exact length_rest_lt _h

theorem parts_nil : parts [] = [] := by
  rw [parts, dif_pos rfl]

theorem parts_of_ne_nil {v : Bytes} (h : v ≠ []) : parts v = (textRun v, digitRun v) :: parts (rest v) := by
  rw [parts, dif_neg h]

theorem isDigit_of_mem_textRun {v : Bytes} {b : UInt8} (h : b ∈ textRun v) : isDigit b = false := by
  simpa using List.mem_takeWhile_imp h

theorem isDigit_of_mem_digitRun {v : Bytes} {b : UInt8} (h : b ∈ digitRun v) : isDigit b = true :=
  List.mem_takeWhile_imp h

theorem runs_append_rest (v : Bytes) : textRun v ++ (digitRun v ++ rest v) = v := by
  rw [digitRun, rest, List.takeWhile_append_dropWhile, textRun, afterText, List.takeWhile_append_dropWhile]

/-- A run begins where the one before it ends. -/
theorem takeWhile_dropWhile_ne_nil {p q : UInt8 → Bool} (hpq : ∀ b, p b = false → q b = true) {v : Bytes}
    (h : v.dropWhile p ≠ []) : (v.dropWhile p).takeWhile q ≠ [] := by
  obtain ⟨b, w, hv⟩ := List.exists_cons_of_ne_nil h
  have hfirst := List.head?_dropWhile_not p v
  rw [hv, List.head?_cons] at hfirst
  rw [hv, List.takeWhile_cons_of_pos (hpq b hfirst)]
  exact List.cons_ne_nil _ _

/-- What follows a run of digits begins with text. -/
theorem textRun_rest_ne_nil {v : Bytes} (h : rest v ≠ []) : textRun (rest v) ≠ [] :=
  takeWhile_dropWhile_ne_nil (fun b hb => by rw [hb]; rfl) h

/-- A run of text that does not end a version is followed by a digit. -/
theorem digitRun_ne_nil {v : Bytes} (h : rest v ≠ []) : digitRun v ≠ [] := by
  have hafter : afterText v ≠ [] := by
    intro hnil
    rw [rest, hnil] at h
    exact h rfl
  exact takeWhile_dropWhile_ne_nil (fun b hb => by simpa using hb) hafter

theorem isReading_parts (v : Bytes) : IsReading v (parts v) := by
  induction hn : v.length using Nat.strongRecOn generalizing v with
  | _ n ih =>
    by_cases hv : v = []
    · subst hv
      rw [parts_nil]
      exact ⟨rfl, by simp, by simp, by simp, by simp⟩
    · have hrest := ih (rest v).length (hn ▸ length_rest_lt hv) (rest v) rfl
      rw [parts_of_ne_nil hv]
      refine ⟨?joined, ?texts, ?digits, ?texts_between, ?digits_between⟩
      case joined =>
        rw [List.flatMap_cons, hrest.joined, List.append_assoc]
        exact runs_append_rest v
      case texts => exact List.forall_mem_cons.mpr ⟨fun b => isDigit_of_mem_textRun, hrest.texts⟩
      case digits => exact List.forall_mem_cons.mpr ⟨fun b => isDigit_of_mem_digitRun, hrest.digits⟩
      case texts_between =>
        rw [List.tail_cons]
        by_cases hnil : rest v = []
        · simp [hnil, parts_nil]
        · have htail := hrest.texts_between
          rw [parts_of_ne_nil hnil] at htail ⊢
          exact List.forall_mem_cons.mpr ⟨textRun_rest_ne_nil hnil, htail⟩
      case digits_between =>
        by_cases hnil : rest v = []
        · simp [hnil, parts_nil]
        · have hne : parts (rest v) ≠ [] := by simp [parts_of_ne_nil hnil]
          rw [List.dropLast_cons_of_ne_nil hne]
          exact List.forall_mem_cons.mpr ⟨digitRun_ne_nil hnil, hrest.digits_between⟩

/-- A reading starts with the first two runs. -/
theorem IsReading.of_cons {v : Bytes} {p : Bytes × Bytes} {ps : List (Bytes × Bytes)} (h : IsReading v (p :: ps)) :
    textRun v = p.1 ∧ digitRun v = p.2 ∧ IsReading (rest v) ps := by
  obtain ⟨hjoined, htexts, hdigits, htexts_between, hdigits_between⟩ := h
  rw [List.forall_mem_cons] at htexts hdigits
  rw [List.tail_cons] at htexts_between
  rw [List.flatMap_cons, List.append_assoc] at hjoined
  generalize hw : (ps.flatMap fun p => p.1 ++ p.2) = w at hjoined
  have hw_first : ∀ b, w.head? = some b → isDigit b = false := by
    intro b hb
    cases ps with
    | nil =>
      rw [← hw] at hb
      cases hb
    | cons q qs =>
      obtain ⟨c, t, hq⟩ := List.exists_cons_of_ne_nil (htexts_between q List.mem_cons_self)
      rw [← hw, List.flatMap_cons, hq] at hb
      obtain rfl : c = b := Option.some.inj hb
      exact htexts.2 q List.mem_cons_self c (by rw [hq]; exact List.mem_cons_self)
  have hdigit_first : ∀ b, (p.2 ++ w).head? = some b → (!isDigit b) = false := by
    intro b hb
    rw [Bool.not_eq_false']
    cases hp : p.2 with
    | cons c d =>
      rw [hp] at hb
      obtain rfl : c = b := Option.some.inj hb
      exact hdigits.1 c (by rw [hp]; exact List.mem_cons_self)
    | nil =>
      -- Then the version has come to its end.
      cases ps with
      | nil =>
        rw [hp, ← hw] at hb
        cases hb
      | cons q qs => exact absurd hp (hdigits_between p (by simp [List.dropLast]))
  have htext : ∀ b ∈ p.1, (!isDigit b) = true := fun b hb => by rw [htexts.1 b hb]; rfl
  have hafter : afterText v = p.2 ++ w := by
    rw [afterText, ← hjoined, Text.dropWhile_append_stop htext hdigit_first]
  refine ⟨?_, ?_, ?_⟩
  · rw [textRun, ← hjoined, Text.takeWhile_append_stop htext hdigit_first]
  · rw [digitRun, hafter, Text.takeWhile_append_stop hdigits.1 hw_first]
  · rw [rest, hafter, Text.dropWhile_append_stop hdigits.1 hw_first]
    refine ⟨hw, htexts.2, hdigits.2, ?_, ?_⟩
    · exact fun q hq => htexts_between q (List.mem_of_mem_tail hq)
    · intro q hq
      cases ps with
      | nil => cases hq
      | cons q' qs => exact hdigits_between q (List.mem_cons_of_mem _ hq)

/-- All readings of a version are padded to the same sequence. -/
theorem IsReading.padded_eq {v : Bytes} {ps : List (Bytes × Bytes)} (h : IsReading v ps) (n : ℕ) :
    padded ps n = (textRun (rest^[n] v), number (digitRun (rest^[n] v))) := by
  induction ps generalizing v n with
  | nil =>
    obtain rfl : [] = v := h.joined
    have hrest : rest^[n] [] = [] := Function.iterate_fixed rfl n
    rw [hrest]
    rfl
  | cons p ps ih =>
    obtain ⟨htext, hdigits, hrest⟩ := h.of_cons
    cases n with
    | zero =>
      rw [Function.iterate_zero_apply, htext, hdigits]
      rfl
    | succ n =>
      rw [Function.iterate_succ_apply, ← ih hrest]
      rfl

/-! ## The order of readings -/

/-- The order of versions is the lexicographic order of the sequences that they read as. -/
theorem order_eq_compare {a b : Bytes} {as bs : List (Bytes × Bytes)} (ha : IsReading a as) (hb : IsReading b bs) :
    order a b = compare (readingKey as) (readingKey bs) := by
  let key (v : Bytes) : Lex (ℕ → ℕ ×ₗ ℕ) ×ₗ ℕ := toLex (textKey (textRun v), number (digitRun v))
  have hruns (a b : Bytes) : compareRuns a b = compare (key a) (key b) := by
    rw [compareRuns, compareLex, compareText_eq,
      compareDigits_eq (fun c => isDigit_of_mem_digitRun) (fun c => isDigit_of_mem_digitRun), Prod.Lex.compare_def]
    rfl
  have hkey {v : Bytes} {ps : List (Bytes × Bytes)} (h : IsReading v ps) :
      readingKey ps = toLex fun n => key (rest^[n] v) := by
    simp only [readingKey, h.padded_eq, key]
  rw [order_stepwise.eq_compare key hruns, hkey ha, hkey hb]

theorem readingKey_eq_iff (as bs : List (Bytes × Bytes)) : readingKey as = readingKey bs ↔ padded as = padded bs := by
  constructor
  · intro h
    funext n
    obtain ⟨htext, hnumber⟩ : textKey (padded as n).1 = textKey (padded bs n).1 ∧ (padded as n).2 = (padded bs n).2 :=
      Prod.mk.inj (congrFun h n)
    exact Prod.ext (textKey_injective htext) hnumber
  · intro h
    rw [readingKey, readingKey, h]

end MeshFirmware.Version
