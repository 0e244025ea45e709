import MeshFirmware.Proofs.Relay.Query
import MeshFirmware.Proofs.Url.Authority

/-!
# The URL of a file on a mirror

A relay asks its mirrors for files whose names strangers have chosen. A name that it accepts is the last segment of the
path in the URL of the file, and has no part in anything else (`accepted_file_is_last_segment`). The text of a mirror
and that of the URL are read in step: both have the same scheme, the same authority and the same path up to the file.
They differ where the text of the mirror ends with slashes, which are left out, or with characters that are trimmed
there and not before a file (`exists_joined`).
-/

namespace MeshFirmware

namespace Url

section
variable {m f s : List Char}

/-! ## The scheme -/

theorem scheme?_eq_some {name : String} {rest : List Char} : scheme? s = some (name, rest) ↔
    ∃ c front, s = c :: front ++ ':' :: rest ∧ c.isAlpha = true ∧ (∀ d ∈ c :: front, isSchemeChar d = true) ∧
      name = String.ofList ((c :: front).map Char.toLower) := by
  constructor
  · intro h
    unfold scheme? at h
    split at h
    · rename_i c tail
      split at h
      · rename_i hc
        split at h
        · rename_i rest' hdrop
          obtain ⟨rfl, rfl⟩ := Prod.mk.inj (Option.some.inj h)
          have hchar : isSchemeChar c = true := by
            simp [isSchemeChar, Char.isAlphanum, hc]
          have htake : (c :: tail).takeWhile isSchemeChar = c :: tail.takeWhile isSchemeChar :=
            List.takeWhile_cons_of_pos hchar
          refine ⟨c, tail.takeWhile isSchemeChar, ?_, hc, ?_, by rw [htake]⟩
          · rw [← htake, ← hdrop, List.takeWhile_append_dropWhile]
          · rw [← htake]
            exact fun d hd => List.mem_takeWhile_imp hd
        · cases h
      · cases h
    · cases h
  · rintro ⟨c, front, rfl, hc, hfront, rfl⟩
    have hstop : ∀ d, (':' :: rest).head? = some d → isSchemeChar d = false := by
      intro d hd
      obtain rfl := Option.some.inj hd
      rfl
    unfold scheme?
    rw [Text.takeWhile_append_stop hfront hstop, Text.dropWhile_append_stop hfront hstop]
    simp [hc]

theorem parse_eq {text name : String} {rest : List Char}
    (h : scheme? (unbroken (trimEdges text.toList)) = some (name, rest)) (hname : Kind.ofScheme name = .special) :
    parse text = afterSlashes .special name (rest.dropWhile (isSlash .special)) := by
  unfold parse
  dsimp only
  rw [h]
  dsimp only
  rw [hname]

theorem scheme_of_afterSlashes {k : Kind} {name : String} {u : Url} (h : afterSlashes k name s = .ok u) :
    u.scheme = name := by
  unfold afterSlashes at h
  dsimp only [bind, Except.bind] at h
  repeat' split at h
  all_goals
    cases h
    try rfl

theorem scheme_of_readOther {name : String} {u : Url} (h : readOther name s = .ok u) : u.scheme = name := by
  unfold readOther at h
  split at h
  · exact scheme_of_afterSlashes h
  · obtain rfl := Except.ok.inj h
    rfl

theorem scheme_of_readFile {u : Url} (h : readFile s = .ok u) : u.scheme = "file" := by
  unfold readFile at h
  split at h
  · obtain rfl := Except.ok.inj h
    rfl
  · split at h
    · obtain rfl := Except.ok.inj h
      rfl
    · unfold readFileHost at h
      dsimp only [bind, Except.bind] at h
      repeat' split at h
      all_goals
        cases h
        try rfl

/-- A URL of the web has a special scheme. -/
theorem special_of_parse {text : String} {u : Url} (h : parse text = .ok u)
    (hu : u.scheme = "http" ∨ u.scheme = "https") :
    Kind.ofScheme u.scheme = .special ∧ ∃ rest, scheme? (unbroken (trimEdges text.toList)) = some (u.scheme, rest) := by
  have hspecial : Kind.ofScheme u.scheme = .special := by
    rcases hu with hu | hu
    all_goals
      rw [hu]
      rfl
  refine ⟨hspecial, ?_⟩
  unfold parse at h
  dsimp only at h
  split at h
  · cases h
  · rename_i name rest hscheme
    refine ⟨rest, ?_⟩
    split at h
    · rw [scheme_of_readFile h] at hspecial
      cases hspecial
    · rw [hscheme, scheme_of_afterSlashes h]
    · rw [hscheme, scheme_of_readOther h]

/-! ## Names of files -/

/-- The name of a file in a URL: plain, and not that of a directory. -/
structure IsFileName (f : List Char) : Prop where
  plain : ∀ c ∈ f, Relay.isPlain c = true
  ne_nil : f ≠ []
  ne_dot : f ≠ ['.']
  ne_dots : f ≠ ['.', '.']

theorem lt_of_isPlain {c : Char} (h : Relay.isPlain c = true) : c.toNat < 128 := by
  have hle {last : Char} (hc : c.val ≤ last.val) : c.toNat ≤ last.toNat := UInt32.le_iff_toNat_le.mp hc
  simp only [Relay.isPlain, Bool.or_eq_true, List.contains_eq_mem, decide_eq_true_eq, List.mem_cons, List.not_mem_nil,
    or_false] at h
  rcases h with h | h
  · have hletter : ((c.isUpper || c.isLower) || c.isDigit) = true := h
    rw [Bool.or_eq_true, Bool.or_eq_true] at hletter
    rcases hletter with (h | h) | h
    · have hupper : c.val ≥ 'A'.val ∧ c.val ≤ 'Z'.val := of_decide_eq_true h
      exact Nat.lt_of_le_of_lt (hle hupper.2) (by decide)
    · have hlower := of_decide_eq_true (Bool.and_eq_true_iff.mp h).2
      exact Nat.lt_of_le_of_lt (hle hlower) (by decide)
    · have hdigit := of_decide_eq_true (Bool.and_eq_true_iff.mp h).2
      exact Nat.lt_of_le_of_lt (hle hdigit) (by decide)
  · rcases h with rfl | rfl | rfl | rfl | rfl <;> decide

/-- A plain character means nothing in a URL. -/
theorem plain_cases : ∀ n : Fin 128, Relay.isPlain (Char.ofNat n) = true →
    isEdge (Char.ofNat n) = false ∧ inPathSet (Char.ofNat n) = false ∧ isSlash .special (Char.ofNat n) = false ∧
      Char.ofNat n ≠ '%' := by
  decide

theorem isPlain_cases {c : Char} (h : Relay.isPlain c = true) :
    isEdge c = false ∧ inPathSet c = false ∧ isSlash .special c = false ∧ c ≠ '%' := by
  have hc := plain_cases ⟨c.toNat, lt_of_isPlain h⟩
  rw [Char.ofNat_toNat] at hc
  exact hc h

theorem escape_of_isPlain (hf : ∀ c ∈ f, Relay.isPlain c = true) : escape inPathSet f = f := by
  induction f with
  | nil => rfl
  | cons c f ih =>
    rw [List.forall_mem_cons] at hf
    have hc : escapeChar inPathSet c = [c] := by
      simp [escapeChar, lt_of_isPlain hf.1, (isPlain_cases hf.1).2.1]
    have hrest := ih hf.2
    unfold escape at hrest ⊢
    rw [List.flatMap_cons, hc, hrest, List.singleton_append]

theorem eq_of_dot? (hf : '%' ∉ f) {t : List Char} (h : dot? f = some t) : f = '.' :: t := by
  unfold dot? at h
  split at h
  · obtain rfl := Option.some.inj h
    rfl
  · exact absurd List.mem_cons_self hf
  · cases h

theorem ofSegment_of_isFileName (hf : IsFileName f) : Step.ofSegment f = .down (String.ofList f) := by
  have hpercent : '%' ∉ f := fun hmem => (isPlain_cases (hf.plain '%' hmem)).2.2.2 rfl
  unfold Step.ofSegment
  split
  · rename_i hdot
    exact absurd (eq_of_dot? hpercent hdot) hf.ne_dot
  · rename_i t _ hdot
    have hft := eq_of_dot? hpercent hdot
    rw [if_neg]
    rw [beq_iff_eq]
    intro hdots
    have ht := eq_of_dot? (fun hmem => hpercent (hft ▸ List.mem_cons_of_mem _ hmem)) hdots
    exact hf.ne_dots (by rw [hft, ht])
  · rfl

/-! ## Ends -/

/-- A text of slashes. -/
def AreSlashes (s : List Char) : Prop := ∀ c ∈ s, c = '/'

theorem exists_endSlashes (m : List Char) : ∃ slashes, m = dropEndSlashes m ++ slashes ∧ AreSlashes slashes := by
  refine ⟨(m.reverse.takeWhile (· == '/')).reverse, ?_, ?_⟩
  · rw [dropEndSlashes, ← List.reverse_append, List.takeWhile_append_dropWhile, List.reverse_reverse]
  · intro c hc
    have hslash := List.mem_takeWhile_imp (p := (· == '/')) (List.mem_reverse.mp hc)
    exact beq_iff_eq.mp hslash

theorem not_scheme?_of_slashes (hs : AreSlashes s) : scheme? s = none := by
  rw [Option.eq_none_iff_forall_ne_some]
  rintro ⟨name, rest⟩ h
  obtain ⟨c, front, rfl, hc, -⟩ := scheme?_eq_some.mp h
  rw [hs c (by simp)] at hc
  cases hc

theorem trimEdges_append {e : List Char} (hm : ¬ AreEdges m) (he : ∀ c ∈ e, isEdge c = false) (hne : e ≠ []) :
    trimEdges (m ++ e) = m.dropWhile isEdge ++ e := by
  have hfront : m.dropWhile isEdge ≠ [] := fun hnil => hm (List.dropWhile_eq_nil_iff.mp hnil)
  have hlast : ∀ c, (m.dropWhile isEdge ++ e).reverse.head? = some c → isEdge c = false := by
    intro c hc
    rw [List.head?_reverse, List.getLast?_append, List.getLast?_eq_some_getLast hne] at hc
    obtain rfl := Option.some.inj hc
    exact he _ (List.getLast_mem hne)
  rw [trimEdges, List.dropWhile_append, if_neg (by simpa using hfront), dropWhile_isEdge hlast, List.reverse_reverse]

theorem exists_trimmed {slashes : List Char} (hm : ¬ AreEdges m) (hslashes : AreSlashes slashes) :
    ∃ kept edges, m.dropWhile isEdge = kept ++ edges ∧ AreEdges edges ∧
      trimEdges (m ++ slashes) = kept ++ slashes := by
  by_cases hne : slashes = []
  · subst hne
    refine ⟨((m.dropWhile isEdge).reverse.dropWhile isEdge).reverse,
      ((m.dropWhile isEdge).reverse.takeWhile isEdge).reverse, ?_, ?_, ?_⟩
    · rw [← List.reverse_append, List.takeWhile_append_dropWhile, List.reverse_reverse]
    · intro c hc
      exact List.mem_takeWhile_imp (List.mem_reverse.mp hc)
    · rw [List.append_nil, List.append_nil, trimEdges]
  · refine ⟨m.dropWhile isEdge, [], (List.append_nil _).symm, by simp [AreEdges], ?_⟩
    apply trimEdges_append hm _ hne
    intro c hc
    rw [hslashes c hc]
    rfl

theorem unbroken_append (s t : List Char) : unbroken (s ++ t) = unbroken s ++ unbroken t := List.filter_append ..

theorem unbroken_of_not_isEdge (h : ∀ c ∈ s, isEdge c = false) : unbroken s = s := by
  rw [unbroken, List.filter_eq_self]
  intro c hc
  have htab : '\t' ≠ c := ne_of_isEdge rfl (h c hc)
  have hnewline : '\n' ≠ c := ne_of_isEdge rfl (h c hc)
  have hreturn : '\r' ≠ c := ne_of_isEdge rfl (h c hc)
  simp [isBreak, htab.symm, hnewline.symm, hreturn.symm]

theorem exists_joined {name : String} {rest : List Char} (h : scheme? (unbroken (trimEdges m)) = some (name, rest)) :
    ∃ front edges slashes, rest = front ++ slashes ∧ AreSlashes slashes ∧ AreEdges edges ∧
      ∀ f, IsFileName f →
        scheme? (unbroken (trimEdges (dropEndSlashes m ++ '/' :: f))) = some (name, front ++ edges ++ '/' :: f) := by
  obtain ⟨slashes, hm, hslashes⟩ := exists_endSlashes m
  have hkeep : ¬ AreEdges (dropEndSlashes m) := by
    intro hedges
    have hall : AreSlashes (unbroken (trimEdges m)) := by
      have hdrop : m.dropWhile isEdge = slashes.dropWhile isEdge := by
        rw [hm, List.dropWhile_append_of_pos hedges]
      intro c hc
      have hkept := (List.mem_filter.mp hc).1
      rw [trimEdges, List.mem_reverse] at hkept
      have hmem := List.mem_reverse.mp ((List.dropWhile_sublist _).subset hkept)
      rw [hdrop] at hmem
      exact hslashes c ((List.dropWhile_sublist _).subset hmem)
    rw [not_scheme?_of_slashes hall] at h
    cases h
  obtain ⟨kept, edges, hcut, hedges, htrim⟩ := exists_trimmed hkeep hslashes
  have hslashes_kept : unbroken slashes = slashes := by
    apply unbroken_of_not_isEdge
    intro c hc
    rw [hslashes c hc]
    rfl
  rw [← hm] at htrim
  rw [htrim, unbroken_append, hslashes_kept] at h
  obtain ⟨c, front, hsplit, hc, hfront, hname⟩ := scheme?_eq_some.mp h
  have hcolon : ∃ front', unbroken kept = c :: front ++ ':' :: front' ∧ rest = front' ++ slashes := by
    rcases List.append_eq_append_iff.mp hsplit with ⟨t, hfront, hslash⟩ | ⟨t, hkept, hrest⟩
    · -- The colon is not among the slashes.
      have hcolon := hslashes ':' (by rw [hslash]; simp)
      cases hcolon
    · cases t with
      | nil =>
        have hcolon := hslashes ':' (by rw [← List.nil_append slashes, ← hrest]; simp)
        cases hcolon
      | cons d t =>
        rw [List.cons_append, List.cons.injEq] at hrest
        exact ⟨t, by rw [hkept, hrest.1], hrest.2⟩
  obtain ⟨front', hkept, hrest⟩ := hcolon
  refine ⟨front', unbroken edges, slashes, hrest, hslashes, fun d hd => hedges d (List.mem_filter.mp hd).1, ?_⟩
  intro f hf
  have hplain : ∀ d ∈ '/' :: f, isEdge d = false := by
    rw [List.forall_mem_cons]
    exact ⟨rfl, fun d hd => (isPlain_cases (hf.plain d hd)).1⟩
  rw [trimEdges_append hkeep hplain (List.cons_ne_nil _ _), hcut, unbroken_append, unbroken_append, hkept,
    unbroken_of_not_isEdge hplain]
  exact scheme?_eq_some.mpr ⟨c, front, by simp, hc, hfront, hname⟩

/-! ## The path -/

theorem segmentsFrom_concat (done : List String) (ps : List (List Char)) :
    ∃ above, ∀ f, IsFileName f → segmentsFrom done (ps ++ [f]) = above ++ [String.ofList f] := by
  induction ps generalizing done with
  | nil =>
    refine ⟨done.reverse, ?_⟩
    intro f hf
    rw [List.nil_append, segmentsFrom, escape_of_isPlain hf.plain, ofSegment_of_isFileName hf]
    exact List.reverse_cons
  | cons s ps ih =>
    obtain ⟨above, habove⟩ := ih ((Step.ofSegment (escape inPathSet s)).apply false done)
    refine ⟨above, ?_⟩
    intro f hf
    have hnot : (ps ++ [f]).isEmpty = false := by simp
    rw [← habove f hf, List.cons_append, segmentsFrom, hnot]

theorem segmentsAfterAuthority_joined (hs : ∀ c, s.head? = some c → isSlash .special c = true) :
    ∃ above, ∀ f, IsFileName f → segmentsAfterAuthority .special (s ++ '/' :: f) = above ++ [String.ofList f] := by
  have hpiece (f : List Char) (hf : IsFileName f) : pieces .special f = [f] := by
    rw [pieces, Text.splitOn_eq_splitOnP]
    apply List.splitOnP_eq_singleton
    exact fun c hc => (isPlain_cases (hf.plain c hc)).2.2.1
  have hstart (t : List Char) :
      segmentsAfterAuthority .special t = segmentsFrom [] (pieces .special (dropSlash .special t)) := rfl
  cases s with
  | nil =>
    obtain ⟨above, habove⟩ := segmentsFrom_concat [] []
    refine ⟨above, ?_⟩
    intro f hf
    rw [← habove f hf, hstart, ← hpiece f hf]
    rfl
  | cons c s =>
    obtain ⟨above, habove⟩ := segmentsFrom_concat [] (pieces .special s)
    refine ⟨above, ?_⟩
    intro f hf
    have hdrop : dropSlash .special (c :: s ++ '/' :: f) = s ++ '/' :: f := if_pos (hs c rfl)
    rw [← habove f hf, ← hpiece f hf, hstart, hdrop]
    unfold pieces
    rw [Text.splitOn_eq_splitOnP, Text.splitOn_eq_splitOnP, Text.splitOn_eq_splitOnP, List.splitOnP_append_cons _ _ rfl]

theorem isOutside_file (f : List Char) : IsOutside ('/' :: f) := by
  intro c hc
  obtain rfl := Option.some.inj hc
  rfl

theorem isSlash_of_endsAuthority {c : Char} (h : endsAuthority .special c = true)
    (hc : (c == '?' || c == '#') = false) : isSlash .special c = true := by
  rw [endsAuthority_special] at h
  unfold isSlash
  revert h hc
  cases c == '/' <;> cases c == '\\' <;> cases c == '?' <;> cases c == '#' <;> decide

theorem not_isEnd_of_isEdge {c : Char} (h : isEdge c = true) : (c == '?' || c == '#') = false := by
  have hquestion : c ≠ '?' := ne_of_isEdge h (by decide)
  have hhash : c ≠ '#' := ne_of_isEdge h (by decide)
  simp [hquestion, hhash]

theorem not_isEnd_of_isPlain {c : Char} (h : Relay.isPlain c = true) : (c == '?' || c == '#') = false := by
  have hquestion : c ≠ '?' := by
    rintro rfl
    exact absurd h (by decide)
  have hhash : c ≠ '#' := by
    rintro rfl
    exact absurd h (by decide)
  simp [hquestion, hhash]

/-- A text without a query and a fragment is a path. -/
theorem splitPath_eq (hs : ∀ c ∈ s, (c == '?' || c == '#') = false) : splitPath s = (s, []) := by
  have hkept : ∀ c ∈ s, (!(c == '?' || c == '#')) = true := fun c hc => by rw [hs c hc]; rfl
  unfold splitPath
  dsimp only
  rw [List.takeWhile_eq_self_iff.mpr hkept, List.dropWhile_eq_nil_iff.mpr hkept]

theorem not_isEnd_of_tail (hquery : (tail .special (splitPath s).2).1 = none)
    (hfragment : (tail .special (splitPath s).2).2 = none) : ∀ c ∈ s, (c == '?' || c == '#') = false := by
  have hends := List.head?_dropWhile_not (fun c => !(c == '?' || c == '#')) s
  have hnil : s.dropWhile (fun c => !(c == '?' || c == '#')) = [] := by
    unfold splitPath at hquery hfragment
    dsimp only at hquery hfragment
    cases hdrop : s.dropWhile (fun c => !(c == '?' || c == '#')) with
    | nil => rfl
    | cons c rest =>
      rw [hdrop] at hquery hfragment hends
      simp only [List.head?_cons, Bool.not_eq_false', Bool.or_eq_true, beq_iff_eq] at hends
      rcases hends with rfl | rfl
      · cases hquery
      · cases hfragment
  intro c hc
  simpa using List.dropWhile_eq_nil_iff.mp hnil c hc

/-! ## Mirror and file -/

section
variable {name : String} {u : Url} {start edges slashes : List Char}

theorem afterSlashes_joined (h : afterSlashes .special name (start ++ slashes) = .ok u) (hquery : u.query = none)
    (hfragment : u.fragment = none) (hslashes : AreSlashes slashes) (hedges : AreEdges edges) :
    (∀ f, IsFileName f → ∃ p, afterSlashes .special name (start ++ (edges ++ '/' :: f)) = .error p) ∨
      ∃ above, ∀ f, IsFileName f → afterSlashes .special name (start ++ (edges ++ '/' :: f)) =
        .ok { u with path := .segments (above ++ [String.ofList f]) } := by
  obtain ⟨user, place, path, rfl, hinside, hat, hpath⟩ := exists_authority start
  simp only [List.append_assoc] at h ⊢
  have houtside : IsOutside (path ++ slashes) := by
    refine hpath.append fun _ c hc => ?_
    rw [hslashes c (List.mem_of_mem_head? hc)]
    rfl
  have hplace : place ≠ [] := by
    rintro rfl
    rw [List.append_nil] at hinside
    cases (afterSlashes_empty hinside houtside).symm.trans h
  rw [afterSlashes_eq hinside hat hplace houtside] at h
  cases hread : readPlace name place with
  | error p =>
    rw [hread] at h
    cases h
  | ok server =>
    rw [hread] at h
    have hu := Except.ok.inj h
    have hnoQuery : (tail .special (splitPath (path ++ slashes)).2).1 = none := by rw [← hquery, ← hu]
    have hnoFragment : (tail .special (splitPath (path ++ slashes)).2).2 = none := by rw [← hfragment, ← hu]
    have hpath_plain := (List.forall_mem_append.mp (not_isEnd_of_tail hnoQuery hnoFragment)).1
    by_cases hedge : path = [] ∧ edges ≠ []
    · obtain ⟨rfl, hne⟩ := hedge
      refine .inl fun f _ => ?_
      rw [List.nil_append]
      exact afterSlashes_edges hinside hat hedges hne (isOutside_file f)
    · have hedges_nil (hnil : path = []) : edges = [] := by
        by_contra hne
        exact hedge ⟨hnil, hne⟩
      obtain ⟨above, habove⟩ : ∃ above, ∀ f, IsFileName f →
          segmentsAfterAuthority .special (path ++ edges ++ '/' :: f) = above ++ [String.ofList f] := by
        apply segmentsAfterAuthority_joined
        intro c hc
        cases path with
        | nil =>
          rw [hedges_nil rfl] at hc
          cases hc
        | cons d path =>
          obtain rfl := Option.some.inj hc
          exact isSlash_of_endsAuthority (hpath d rfl) (hpath_plain d List.mem_cons_self)
      refine .inr ⟨above, fun f hf => ?_⟩
      have hr : IsOutside (path ++ (edges ++ '/' :: f)) := by
        refine hpath.append fun hnil => ?_
        rw [hedges_nil hnil]
        exact isOutside_file f
      have hr_path : splitPath (path ++ (edges ++ '/' :: f)) = (path ++ (edges ++ '/' :: f), []) := by
        apply splitPath_eq
        rw [List.forall_mem_append, List.forall_mem_append, List.forall_mem_cons]
        exact ⟨hpath_plain, fun c hc => not_isEnd_of_isEdge (hedges c hc), rfl,
          fun c hc => not_isEnd_of_isPlain (hf.plain c hc)⟩
      rw [afterSlashes_eq hinside hat hplace hr, hread, hr_path]
      dsimp only [Except.map]
      rw [← List.append_assoc, habove f hf]
      rw [hnoQuery, hnoFragment] at hu
      have hnew := congrArg (fun v : Url => { v with path := .segments (above ++ [String.ofList f]) }) hu
      exact congrArg Except.ok hnew

end

theorem parse_joined {text : String} {u : Url} (hparse : parse text = .ok u)
    (hscheme : u.scheme = "http" ∨ u.scheme = "https") (hquery : u.query = none) (hfragment : u.fragment = none) :
    (∀ f, IsFileName f → ∃ p, parse (mirrorFileText text (String.ofList f)) = .error p) ∨
      ∃ above, ∀ f, IsFileName f → parse (mirrorFileText text (String.ofList f)) =
        .ok { u with path := .segments (above ++ [String.ofList f]) } := by
  obtain ⟨hspecial, rest, hrest⟩ := special_of_parse hparse hscheme
  rw [parse_eq hrest hspecial] at hparse
  obtain ⟨front, edges, slashes, rfl, hslashes, hedges, hjoined⟩ := exists_joined hrest
  have hparse_joined (f : List Char) (hf : IsFileName f) : parse (mirrorFileText text (String.ofList f)) =
      afterSlashes .special u.scheme ((front ++ edges ++ '/' :: f).dropWhile (isSlash .special)) := by
    apply parse_eq _ hspecial
    rw [← hjoined f hf]
    simp [mirrorFileText]
  -- Something stands between the slashes after the scheme and those at the end.
  have hfront : front.dropWhile (isSlash .special) ≠ [] := by
    intro hnil
    have hempty : afterSlashes .special u.scheme (userPart none ++ []) = .error .emptyHost :=
      afterSlashes_empty (by simp [userPart, IsInside]) (by simp [IsOutside])
    have hall : (front ++ slashes).dropWhile (isSlash .special) = [] := by
      rw [List.dropWhile_eq_nil_iff, List.forall_mem_append]
      refine ⟨List.dropWhile_eq_nil_iff.mp hnil, ?_⟩
      intro c hc
      rw [hslashes c hc]
      rfl
    rw [hall] at hparse
    cases hempty.symm.trans hparse
  have hdrop (t : List Char) :
      (front ++ t).dropWhile (isSlash .special) = front.dropWhile (isSlash .special) ++ t := by
    rw [List.dropWhile_append, if_neg (by simpa using hfront)]
  rw [hdrop] at hparse
  simp only [List.append_assoc, hdrop] at hparse_joined
  rcases afterSlashes_joined hparse hquery hfragment hslashes hedges with hfails | ⟨above, habove⟩
  · refine .inl fun f hf => ?_
    rw [hparse_joined f hf]
    exact hfails f hf
  · refine .inr ⟨above, fun f hf => ?_⟩
    rw [hparse_joined f hf]
    exact habove f hf

end

end Url

namespace Relay

theorem Accepts.isFileName {file : String} (h : Accepts file) : Url.IsFileName file.toList := by
  obtain ⟨hne, hplain⟩ := accepts_iff.mp h
  simp only [isPlainName, Bool.and_eq_true, bne_iff_ne, List.all_eq_true] at hplain
  obtain ⟨⟨hdot, hdots⟩, hall⟩ := hplain
  refine ⟨hall, ?_, ?_, ?_⟩
  · exact fun hnil => hne (String.toList_eq_nil_iff.mp hnil)
  · exact fun heq => hdot (String.toList_inj.mp heq)
  · exact fun heq => hdots (String.toList_inj.mp heq)

/-- Whatever file is asked for: either no accepted name has a URL on a mirror, or every one has the URL of the mirror
with itself for the last segment of the path. -/
theorem accepted_file_is_last_segment {mirror : String} {u : Url} (hmirror : Url.parse mirror = .ok u)
    (hscheme : u.scheme = "http" ∨ u.scheme = "https") (hquery : u.query = none) (hfragment : u.fragment = none) :
    (∀ file, Accepts file → ∃ p, mirrorFileUrl mirror file = .error p) ∨
      ∃ above, ∀ file, Accepts file →
        mirrorFileUrl mirror file = .ok { u with path := .segments (above ++ [file]) } := by
  rcases Url.parse_joined hmirror hscheme hquery hfragment with hfails | ⟨above, habove⟩
  · refine .inl fun file hfile => ?_
    obtain ⟨p, hp⟩ := hfails file.toList hfile.isFileName
    rw [String.ofList_toList] at hp
    exact ⟨⟨mirrorFileText mirror file, p⟩, by rw [mirrorFileUrl, hp]⟩
  · refine .inr ⟨above, fun file hfile => ?_⟩
    have hparse := habove file.toList hfile.isFileName
    rw [String.ofList_toList] at hparse
    rw [mirrorFileUrl, hparse]

/-- A mirror with a user and a port, and a path that goes back and ends with two slashes. -/
theorem accepted_file_on_local_mirror :
    let mirror := "https://node@[::1]:8443/images/../stable//"
    let u : Url := {
      scheme := "https", hasAuthority := true, username := "node"
      host := some (.ipv6 ⟨[0, 0, 0, 0, 0, 0, 0, 1], rfl⟩), port := some 8443, path := .segments ["stable", "", ""] }
    Url.parse mirror = .ok u ∧ (u.scheme = "http" ∨ u.scheme = "https") ∧ u.query = none ∧ u.fragment = none ∧
      Accepts "a.bin" ∧
      ∃ above, ∀ file, Accepts file →
        mirrorFileUrl mirror file = .ok { u with path := .segments (above ++ [file]) } := by
  intro mirror u
  have hmirror : Url.parse mirror = .ok u := by decide +kernel
  have haccepts : Accepts "a.bin" := accepts_iff.mpr ⟨by decide, by decide⟩
  refine ⟨hmirror, .inr rfl, rfl, rfl, haccepts, ?_⟩
  rcases accepted_file_is_last_segment hmirror (.inr rfl) rfl rfl with hfails | habove
  · have hok : (mirrorFileUrl mirror "a.bin").isOk = true := by decide +kernel
    obtain ⟨p, hp⟩ := hfails "a.bin" haccepts
    rw [hp] at hok
    cases hok
  · exact habove

end Relay

end MeshFirmware
