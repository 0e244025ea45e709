import Mathlib.Data.List.TakeWhile
import MeshFirmware.Proofs.Text.Encoding
import MeshFirmware.Proofs.Url.Domain
import MeshFirmware.Url.Basic

/-!
# Reading an authority

The authority of a special URL goes up to the first character that ends it, and what follows has no part in how it is
read (`afterSlashes_eq`). It is a user name, if it has an at sign, and the place of a server: a host and perhaps a
port. No place ends with a blank or a control character (`readPlace_append_edges`).
-/

namespace MeshFirmware.Url

/-- No character of the text ends an authority. -/
def IsInside (s : List Char) : Prop := ∀ c ∈ s, endsAuthority .special c = false

/-- The text is empty, or begins where an authority ends. -/
def IsOutside (s : List Char) : Prop := ∀ c, s.head? = some c → endsAuthority .special c = true

theorem IsOutside.append {s t : List Char} (hs : IsOutside s) (ht : s = [] → IsOutside t) : IsOutside (s ++ t) := by
  cases s with
  | nil => exact ht rfl
  | cons c s => exact hs

/-- The part of an authority before its place. -/
def userPart : Option (List Char) → List Char
  | none => []
  | some info => info ++ ['@']

/-- The user name and the password in that part. -/
def userIn : Option (List Char) → String × Option String
  | none => ("", none)
  | some info =>
    let name := info.takeWhile (· != ':')
    let word := info.drop (name.length + 1)
    let shown (t : List Char) : String := String.ofList (escape inUserSet t)
    (shown name, if word.isEmpty then none else some (shown word))

/-- The host and the port in an authority without a user. -/
def readPlace (scheme : String) (s : List Char) : Except Problem (Host × Option Nat) :=
  let (h, t) := splitHost .special false s
  if h.isEmpty then .error .emptyHost
  else match Host.readSpecial h with
    | .error p => .error p
    | .ok host =>
      match t with
      | ':' :: digits => (readPort scheme digits).map fun (port, _) => (host, port)
      | _ => .ok (host, none)

section
variable {scheme : String} {user : Option (List Char)} {s r e : List Char}

/-! ## The user -/

theorem exists_userPart (s : List Char) : ∃ user t, s = userPart user ++ t ∧ '@' ∉ t := by
  induction s with
  | nil => exact ⟨none, [], rfl, List.not_mem_nil⟩
  | cons c s ih =>
    obtain ⟨user, t, rfl, ht⟩ := ih
    cases user with
    | some info => exact ⟨some (c :: info), t, rfl, ht⟩
    | none =>
      by_cases hc : c = '@'
      · exact ⟨some [], t, by rw [hc]; rfl, ht⟩
      · refine ⟨none, c :: t, rfl, ?_⟩
        rw [List.mem_cons, not_or]
        exact ⟨Ne.symm hc, ht⟩

/-- Every text begins with an authority. -/
theorem exists_authority (s : List Char) : ∃ user place path, s = userPart user ++ (place ++ path) ∧
    IsInside (userPart user ++ place) ∧ '@' ∉ place ∧ IsOutside path := by
  obtain ⟨user, place, hsplit, hat⟩ := exists_userPart (s.takeWhile fun c => !endsAuthority .special c)
  refine ⟨user, place, s.dropWhile fun c => !endsAuthority .special c, ?_, ?_, hat, ?_⟩
  · rw [← List.append_assoc, ← hsplit, List.takeWhile_append_dropWhile]
  · rw [← hsplit]
    intro c hc
    simpa using List.mem_takeWhile_imp hc
  · intro c hc
    have hends := List.head?_dropWhile_not (fun c => !endsAuthority .special c) s
    rw [hc] at hends
    simpa using hends

theorem readUser_eq (hs : IsInside (userPart user ++ s)) (hat : '@' ∉ s) (hr : IsOutside r) :
    readUser .special (userPart user ++ (s ++ r)) =
      if user = some [] ∧ (s ++ r).head?.any (endsAuthority .special) = true then .error .emptyHost
      else .ok (userIn user, s ++ r) := by
  have hauthority :
      (userPart user ++ (s ++ r)).takeWhile (fun c => !endsAuthority .special c) = userPart user ++ s := by
    rw [← List.append_assoc]
    apply Text.takeWhile_append_stop
    · intro c hc
      rw [hs c hc]
      rfl
    · intro c hc
      rw [hr c hc]
      rfl
  have hnone : ∀ c ∈ s.reverse, (c != '@') = true := by
    intro c hc
    rw [bne_iff_ne]
    rintro rfl
    exact hat (List.mem_reverse.mp hc)
  have hhost : ((userPart user ++ s).reverse.takeWhile (· != '@')).reverse = s := by
    rw [List.reverse_append, Text.takeWhile_append_stop hnone, List.reverse_reverse]
    intro c hc
    cases user with
    | none => cases hc
    | some info =>
      rw [userPart, List.reverse_concat, List.head?_cons] at hc
      obtain rfl := Option.some.inj hc
      rfl
  unfold readUser
  dsimp only
  rw [hauthority, hhost]
  cases user with
  | none => simp [userPart, userIn]
  | some info =>
    have hlength : (userPart (some info) ++ s).length = info.length + 1 + s.length := by
      rw [List.length_append, userPart, List.length_append, List.length_singleton]
    have hinfo : (userPart (some info) ++ s).take ((userPart (some info) ++ s).length - s.length - 1) = info := by
      have htake : (userPart (some info) ++ s).length - s.length - 1 = info.length := by omega
      rw [htake]
      simp [userPart]
    have hrest : (userPart (some info) ++ (s ++ r)).drop (info.length + 1) = s ++ r := by
      simp [userPart]
    have hne : s.length ≠ (userPart (some info) ++ s).length := by omega
    rw [hinfo, hrest, if_neg (by simpa using hne)]
    simp [userIn]

/-! ## The place -/

theorem splitHost_cons (inside : Bool) (c : Char) (s : List Char) :
    splitHost .special inside (c :: s) =
      if endsAuthority .special c || (c == ':' && !inside) then ([], c :: s)
      else
        let split := splitHost .special (if c == '[' then true else if c == ']' then false else inside) s
        (c :: split.1, split.2) := rfl

theorem splitHost_of_isOutside (hr : IsOutside r) (inside : Bool) : splitHost .special inside r = ([], r) := by
  cases r with
  | nil => rfl
  | cons c r => rw [splitHost, hr c rfl, Bool.true_or, if_pos rfl]

theorem splitHost_append_outside (hr : IsOutside r) (inside : Bool) (s : List Char) :
    splitHost .special inside (s ++ r) =
      ((splitHost .special inside s).1, (splitHost .special inside s).2 ++ r) := by
  induction s generalizing inside with
  | nil => exact splitHost_of_isOutside hr inside
  | cons c s ih =>
    rw [List.cons_append, splitHost_cons, splitHost_cons]
    split
    · rfl
    · dsimp only
      rw [ih]

theorem splitHost_join (inside : Bool) (s : List Char) :
    (splitHost .special inside s).1 ++ (splitHost .special inside s).2 = s := by
  induction s generalizing inside with
  | nil => rfl
  | cons c s ih =>
    rw [splitHost_cons]
    split
    · rfl
    · exact congrArg (c :: ·) (ih _)

/-- What begins after a host within an authority is its port. -/
theorem splitHost_port (hs : IsInside s) (inside : Bool) :
    ∀ c, (splitHost .special inside s).2.head? = some c → c = ':' := by
  induction s generalizing inside with
  | nil =>
    intro c hc
    cases hc
  | cons d s ih =>
    rw [IsInside, List.forall_mem_cons] at hs
    rw [splitHost, hs.1, Bool.false_or]
    split
    · rename_i hcolon
      intro c hc
      obtain rfl := Option.some.inj hc
      simp only [Bool.and_eq_true, beq_iff_eq] at hcolon
      exact hcolon.1
    · exact ih hs.2 _

/-- An authority without a user is a host, or a host and a port after a colon. -/
theorem splitHost_cases (hs : IsInside s) :
    splitHost .special false s = (s, []) ∨
      ∃ h digits, splitHost .special false s = (h, ':' :: digits) ∧ IsInside digits := by
  have hport := splitHost_port hs false
  have hjoin := splitHost_join false s
  generalize splitHost .special false s = split at hport hjoin ⊢
  obtain ⟨h, t⟩ := split
  dsimp only at hport hjoin
  cases t with
  | nil => exact .inl (by rw [← hjoin, List.append_nil])
  | cons d digits =>
    obtain rfl := hport d rfl
    refine .inr ⟨h, digits, rfl, ?_⟩
    intro c hc
    apply hs c
    rw [← hjoin]
    exact List.mem_append_right _ (List.mem_cons_of_mem _ hc)

/-! ## The end of a place -/

/-- Characters at the end of an authority that are trimmed from the end of a text. -/
def AreEdges (e : List Char) : Prop := ∀ c ∈ e, isEdge c = true

theorem ne_of_isEdge {c d : Char} (hc : isEdge c = true) (hd : isEdge d = false) : c ≠ d := by
  rintro rfl
  rw [hc] at hd
  cases hd

theorem not_endsAuthority_of_isEdge {c : Char} (h : isEdge c = true) : endsAuthority .special c = false := by
  have hslash : c ≠ '/' := ne_of_isEdge h (by decide)
  have hquestion : c ≠ '?' := ne_of_isEdge h (by decide)
  have hhash : c ≠ '#' := ne_of_isEdge h (by decide)
  have hbackslash : c ≠ '\\' := ne_of_isEdge h (by decide)
  simp [endsAuthority, hslash, hquestion, hhash, hbackslash]

theorem splitHost_append_edges (he : AreEdges e) (inside : Bool) (s : List Char) :
    splitHost .special inside (s ++ e) =
      if (splitHost .special inside s).2 = [] then ((splitHost .special inside s).1 ++ e, [])
      else ((splitHost .special inside s).1, (splitHost .special inside s).2 ++ e) := by
  induction s generalizing inside with
  | nil =>
    rw [splitHost, if_pos rfl]
    change splitHost .special inside e = (e, [])
    induction e generalizing inside with
    | nil => rfl
    | cons c e ih =>
      rw [AreEdges, List.forall_mem_cons] at he
      have hcolon : c ≠ ':' := ne_of_isEdge he.1 (by decide)
      rw [splitHost, if_neg (by simp [not_endsAuthority_of_isEdge he.1, hcolon])]
      simp [ih he.2]
  | cons c s ih =>
    rw [List.cons_append, splitHost_cons, splitHost_cons]
    split
    · rfl
    · generalize (if c == '[' then true else if c == ']' then false else inside) = now
      dsimp only
      rw [ih]
      by_cases hport : (splitHost .special now s).2 = []
      · rw [if_pos hport, if_pos hport, List.cons_append]
      · rw [if_neg hport, if_neg hport]

theorem mem_unescape_concat {b : UInt8} (hb : Hex.value? b = none) (bytes : Bytes) :
    b ∈ unescape (bytes ++ [b]) := by
  fun_induction unescape bytes with
  | case1 => simp [unescape]
  | case2 => simp [unescape]
  | case3 x y =>
    rw [List.cons_append, List.cons_append, List.nil_append, unescape, hb]
    split
    · split
      · rename_i hsome
        cases hsome
      · simp [unescape]
    · simp [unescape]
  | case4 x c d rest hx y z hc hd ih =>
    rw [List.cons_append, List.cons_append, List.cons_append, unescape, if_pos hx, hc, hd]
    exact List.mem_cons_of_mem _ ih
  | case5 x c d rest hx hnone ih =>
    rw [List.cons_append, List.cons_append, List.cons_append, unescape, if_pos hx]
    split
    · rename_i y z hc hd
      exact absurd hd (hnone y z hc)
    · exact List.mem_cons_of_mem _ ih
  | case6 x c d rest hx ih =>
    rw [List.cons_append, List.cons_append, List.cons_append, unescape, if_neg hx]
    exact List.mem_cons_of_mem _ ih

theorem isDigit_of_isEdge {c : Char} (hc : isEdge c = true) : c.isDigit = false := by
  have hcode : c.toNat ≤ 32 := of_decide_eq_true hc
  by_contra hdigit
  rw [Bool.not_eq_false, Char.isDigit, Bool.and_eq_true, decide_eq_true_eq, ge_iff_le, UInt32.le_iff_toNat_le] at hdigit
  have hzero : '0'.val.toNat = 48 := rfl
  have hval : c.val.toNat = c.toNat := rfl
  omega

/-- A blank or a control character is no digit of an escape, and no domain may have it. -/
theorem edge_cases : ∀ n : Fin 33, Hex.value? (UInt8.ofNat n) = none ∧ (Char.ofNat n).toLower = Char.ofNat n ∧
    (Host.isForbidden (Char.ofNat n) || inControlSet (Char.ofNat n)) = true := by
  decide

theorem domain?_edge {c : Char} (hc : isEdge c = true) (s : List Char) :
    Host.domain? (s ++ [c]) = .error .badDomain := by
  have hcode : c.toNat < 33 := Nat.lt_succ_of_le (of_decide_eq_true hc)
  obtain ⟨hdigit, hlower, hbad⟩ := edge_cases ⟨c.toNat, hcode⟩
  rw [Char.ofNat_toNat] at hlower hbad
  have hbytes : Bytes.ofText (String.ofList (s ++ [c])) = s.flatMap String.utf8EncodeChar ++ [UInt8.ofNat c.toNat] := by
    rw [Bytes.ofText_ofList, List.flatMap_append, List.flatMap_singleton, utf8EncodeChar_ascii (by omega)]
  unfold Host.domain?
  rw [hbytes]
  split
  · rfl
  · rename_i name hname
    obtain ⟨t, ht, hname⟩ := Option.bind_eq_some_iff.mp hname
    have hmem := mem_unescape_concat hdigit (s.flatMap String.utf8EncodeChar)
    rw [← Bytes.ofText_of_text? ht] at hmem
    have hbyte : (UInt8.ofNat c.toNat).toNat = c.toNat := by
      rw [UInt8.toNat_ofNat']
      omega
    have hchar := mem_of_mem_ofText (by rw [hbyte]; omega) hmem
    rw [hbyte, Char.ofNat_toNat] at hchar
    have hkept : c ∈ name :=
      Domain.mem_inAscii? hname hchar (Nat.lt_trans hcode (by decide)) hlower (ne_of_isEdge hc (by decide))
    rw [if_pos]
    simp only [Bool.or_eq_true, List.any_eq_true] at hbad ⊢
    exact ⟨c, hkept, .inl hbad⟩

theorem readSpecial_edge {c : Char} (hc : isEdge c = true) (s : List Char) :
    ∃ p, Host.readSpecial (s ++ [c]) = .error p := by
  unfold Host.readSpecial
  split
  · refine ⟨.badIpv6, ?_⟩
    have hlast : c ≠ ']' := ne_of_isEdge hc (by decide)
    rw [Host.bracketed?, List.getLast?_concat, if_neg (by simpa using hlast)]
  · rw [domain?_edge hc]
    exact ⟨_, rfl⟩

theorem endsAuthority_special (c : Char) :
    endsAuthority .special c = (c == '/' || c == '\\' || c == '?' || c == '#') := by
  unfold endsAuthority
  cases c == '/' <;> cases c == '?' <;> cases c == '#' <;> cases c == '\\' <;> rfl

theorem not_isDigit_of_endsAuthority {c : Char} (h : endsAuthority .special c = true) : c.isDigit = false := by
  rw [endsAuthority_special] at h
  simp only [Bool.or_eq_true, beq_iff_eq] at h
  rcases h with ((rfl | rfl) | rfl) | rfl <;> rfl

/-- A port has digits only. -/
theorem readPort_of_not_digit (hs : IsInside s) (hdigit : ∃ c ∈ s, c.isDigit = false) (r : List Char) :
    readPort scheme (s ++ r) = .error .badPort := by
  have hrest : s.dropWhile Char.isDigit ≠ [] := by
    intro hnil
    obtain ⟨c, hc, hnot⟩ := hdigit
    rw [List.dropWhile_eq_nil_iff.mp hnil c hc] at hnot
    cases hnot
  obtain ⟨d, rest, hcons⟩ := List.exists_cons_of_ne_nil hrest
  have hd : endsAuthority .special d = false := by
    apply hs d
    apply (List.dropWhile_sublist _).subset
    rw [hcons]
    exact List.mem_cons_self
  rw [endsAuthority_special] at hd
  unfold readPort
  dsimp only
  rw [List.dropWhile_append, hcons]
  split
  · rfl
  · rw [List.isEmpty_cons, if_neg Bool.false_ne_true, List.cons_append, List.head?_cons, Option.any_some, hd]
    rfl

theorem readPort_append (hs : ∀ c ∈ s, c.isDigit = true) (hr : IsOutside r) :
    readPort scheme (s ++ r) = (readPort scheme s).map fun (port, _) => (port, r) := by
  have hstop : ∀ c, r.head? = some c → c.isDigit = false := by
    intro c hc
    exact not_isDigit_of_endsAuthority (hr c hc)
  have hrest : r.head?.any (fun c => !(c == '/' || c == '\\' || c == '?' || c == '#')) = false := by
    cases hhead : r.head? with
    | none => rfl
    | some c =>
      have hends := hr c hhead
      rw [endsAuthority_special] at hends
      rw [Option.any_some, hends]
      rfl
  unfold readPort
  dsimp only
  rw [Text.takeWhile_append_stop hs hstop, Text.dropWhile_append_stop hs hstop, List.takeWhile_eq_self_iff.mpr hs,
    List.dropWhile_eq_nil_iff.mpr hs, hrest]
  split <;> rfl

theorem readPort_append_outside (hs : IsInside s) (hr : IsOutside r) :
    readPort scheme (s ++ r) = (readPort scheme s).map fun (port, _) => (port, r) := by
  by_cases hdigit : ∃ c ∈ s, c.isDigit = false
  · have hnone : readPort scheme (s ++ []) = .error .badPort := readPort_of_not_digit hs hdigit []
    rw [List.append_nil] at hnone
    rw [readPort_of_not_digit hs hdigit, hnone]
    rfl
  · exact readPort_append (by simpa using hdigit) hr

theorem readPlace_append_edges (hs : IsInside s) (he : AreEdges e) (hne : e ≠ []) :
    ∃ p, readPlace scheme (s ++ e) = .error p := by
  obtain ⟨e', c, rfl⟩ : ∃ e' c, e = e' ++ [c] := ⟨_, _, (List.dropLast_concat_getLast hne).symm⟩
  have hc : isEdge c = true := he c (List.mem_append_right _ (List.mem_singleton_self c))
  unfold readPlace
  rw [splitHost_append_edges he]
  rcases splitHost_cases hs with hsplit | ⟨h, digits, hsplit, hdigits⟩
  · -- The edges belong to the host.
    rw [hsplit, if_pos rfl]
    dsimp only
    obtain ⟨p, hp⟩ := readSpecial_edge hc (s ++ e')
    rw [← List.append_assoc, hp, if_neg (by simp)]
    exact ⟨p, rfl⟩
  · -- The edges belong to the port.
    rw [hsplit, if_neg (List.cons_ne_nil ':' digits)]
    have hinside : IsInside (digits ++ (e' ++ [c])) :=
      List.forall_mem_append.mpr ⟨hdigits, fun x hx => not_endsAuthority_of_isEdge (he x hx)⟩
    have hport : readPort scheme (digits ++ (e' ++ [c]) ++ []) = .error .badPort :=
      readPort_of_not_digit hinside ⟨c, by simp, isDigit_of_isEdge hc⟩ []
    rw [List.append_nil] at hport
    dsimp only [List.cons_append]
    split
    · exact ⟨.emptyHost, rfl⟩
    · cases Host.readSpecial h with
      | error p => exact ⟨p, rfl⟩
      | ok host =>
        refine ⟨.badPort, ?_⟩
        change (readPort scheme (digits ++ (e' ++ [c]))).map _ = _
        rw [hport]
        rfl

/-! ## All of it -/

theorem afterSlashes_eq (hs : IsInside (userPart user ++ s)) (hat : '@' ∉ s) (hne : s ≠ []) (hr : IsOutside r) :
    afterSlashes .special scheme (userPart user ++ (s ++ r)) =
      (readPlace scheme s).map fun (host, port) => {
        scheme, hasAuthority := true
        username := (userIn user).1, password := (userIn user).2, host := some host, port
        path := .segments (segmentsAfterAuthority .special (splitPath r).1)
        query := (tail .special (splitPath r).2).1, fragment := (tail .special (splitPath r).2).2 } := by
  have hinside : IsInside s := (List.forall_mem_append.mp hs).2
  have hstart : ¬ (user = some [] ∧ (s ++ r).head?.any (endsAuthority .special) = true) := by
    obtain ⟨c, s, rfl⟩ := List.exists_cons_of_ne_nil hne
    rintro ⟨-, hends⟩
    rw [List.cons_append, List.head?_cons, Option.any_some, hinside c List.mem_cons_self] at hends
    cases hends
  unfold afterSlashes readPlace
  rw [readUser_eq hs hat hr, if_neg hstart]
  dsimp only [bind, Except.bind]
  rw [splitHost_append_outside hr]
  rcases splitHost_cases hinside with hsplit | ⟨h, digits, hsplit, hdigits⟩
  · have hhost : ¬ s.isEmpty = true := fun hempty => hne (List.isEmpty_iff.mp hempty)
    rw [hsplit]
    dsimp only [List.nil_append]
    rw [if_neg (by simp [hhost]), if_neg hhost, if_neg hhost, if_pos (by rfl)]
    cases Host.readSpecial s with
    | error p => rfl
    | ok host =>
      dsimp only [Except.map]
      split
      · -- An authority does not end at a colon.
        exact absurd (hr ':' rfl) (by decide)
      · rfl
  · rw [hsplit]
    dsimp only
    by_cases hhost : h.isEmpty = true
    · rw [if_pos (by rw [hhost]; rfl), if_pos hhost]
      rfl
    · rw [if_neg (by simp [hhost]), if_neg hhost, if_neg hhost, if_pos (by rfl)]
      cases Host.readSpecial h with
      | error p => rfl
      | ok host =>
        simp only [List.cons_append, readPort_append_outside hdigits hr]
        cases readPort scheme digits <;> rfl

/-- A place with edges at its end is none. -/
theorem afterSlashes_edges (hs : IsInside (userPart user ++ s)) (hat : '@' ∉ s) (he : AreEdges e) (hne : e ≠ [])
    (hr : IsOutside r) : ∃ p, afterSlashes .special scheme (userPart user ++ (s ++ (e ++ r))) = .error p := by
  obtain ⟨p, hp⟩ := readPlace_append_edges (List.forall_mem_append.mp hs).2 he hne
  have hinside : IsInside (userPart user ++ (s ++ e)) := by
    rw [← List.append_assoc]
    exact List.forall_mem_append.mpr ⟨hs, fun c hc => not_endsAuthority_of_isEdge (he c hc)⟩
  have hnoAt : '@' ∉ s ++ e := by
    rw [List.mem_append, not_or]
    exact ⟨hat, fun hmem => ne_of_isEdge (he '@' hmem) (by decide) rfl⟩
  refine ⟨p, ?_⟩
  rw [← List.append_assoc s, afterSlashes_eq hinside hnoAt (by simp [hne]) hr, hp]
  rfl

theorem afterSlashes_empty (hs : IsInside (userPart user)) (hr : IsOutside r) :
    afterSlashes .special scheme (userPart user ++ r) = .error .emptyHost := by
  have huser := readUser_eq (s := []) (by rwa [List.append_nil]) List.not_mem_nil hr
  rw [List.nil_append] at huser
  unfold afterSlashes
  rw [huser]
  split
  · rfl
  · dsimp only [bind, Except.bind]
    rw [splitHost_of_isOutside hr]
    rfl

end

end MeshFirmware.Url
