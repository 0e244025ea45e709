import Mathlib.Data.List.TakeWhile
import MeshFirmware.Proofs.Url.Address
import MeshFirmware.Source

/-!
# The URL of a relay

A relay has a URL whatever its address is, and nothing but the query in it depends on the file that is asked for
(`relayUrl_eq`). The text of the address stands between brackets, and no character of it ends the authority, so the
reader of URLs comes to the address as a whole (`parse_relay`).
-/

namespace MeshFirmware

namespace Url
open Ipv6 (isAddressChar)

theorem ne_of_isAddressChar {c d : Char} (hc : isAddressChar c = true) (hd : isAddressChar d = false) : c ≠ d := by
  rintro rfl
  rw [hc] at hd
  cases hd

theorem dropWhile_isEdge {s : List Char} (h : ∀ c, s.head? = some c → isEdge c = false) : s.dropWhile isEdge = s := by
  cases s with
  | nil => rfl
  | cons c s => rw [List.dropWhile_cons_of_neg (by simp [h c rfl])]

theorem trimEdges_eq {s : List Char} (hfirst : ∀ c, s.head? = some c → isEdge c = false)
    (hlast : ∀ c, s.getLast? = some c → isEdge c = false) : trimEdges s = s := by
  rw [trimEdges, dropWhile_isEdge hfirst, dropWhile_isEdge, List.reverse_reverse]
  rwa [List.head?_reverse]

section
variable {s : List Char}

theorem not_endsAuthority {c : Char} (h : isAddressChar c = true) : endsAuthority .special c = false := by
  have hslash : c ≠ '/' := ne_of_isAddressChar h (by decide)
  have hquestion : c ≠ '?' := ne_of_isAddressChar h (by decide)
  have hhash : c ≠ '#' := ne_of_isAddressChar h (by decide)
  have hbackslash : c ≠ '\\' := ne_of_isAddressChar h (by decide)
  simp [endsAuthority, hslash, hquestion, hhash, hbackslash]

/-- The host goes on up to the bracket that closes it. -/
theorem splitHost_inside (h : ∀ c ∈ s, isAddressChar c = true) (rest : List Char) :
    splitHost .special true (s ++ ']' :: '/' :: rest) = (s ++ [']'], '/' :: rest) := by
  induction s with
  | nil => rfl
  | cons c s ih =>
    rw [List.forall_mem_cons] at h
    have hends := not_endsAuthority h.1
    have hopen : c ≠ '[' := ne_of_isAddressChar h.1 (by decide)
    have hclose : c ≠ ']' := ne_of_isAddressChar h.1 (by decide)
    rw [List.cons_append, splitHost, if_neg (by simp [hends])]
    simp [hopen, hclose, ih h.2]

/-- The part of a URL that is between the slashes and the path, if it is an address. -/
def authorityOf (s : List Char) : List Char := '[' :: s ++ [']']

theorem mem_authorityOf (h : ∀ c ∈ s, isAddressChar c = true) {c : Char} (hc : c ∈ authorityOf s) :
    isAddressChar c = true ∨ c = '[' ∨ c = ']' := by
  rcases List.mem_append.mp hc with hc | hc
  · rcases List.mem_cons.mp hc with hc | hc
    · exact .inr (.inl hc)
    · exact .inl (h c hc)
  · exact .inr (.inr (List.mem_singleton.mp hc))

theorem unbroken_authorityOf (h : ∀ c ∈ s, isAddressChar c = true) : unbroken (authorityOf s) = authorityOf s := by
  apply List.filter_eq_self.mpr
  intro c hc
  rcases mem_authorityOf h hc with hc | rfl | rfl
  · have htab : c ≠ '\t' := ne_of_isAddressChar hc (by decide)
    have hnewline : c ≠ '\n' := ne_of_isAddressChar hc (by decide)
    have hreturn : c ≠ '\r' := ne_of_isAddressChar hc (by decide)
    simp [isBreak, htab, hnewline, hreturn]
  · rfl
  · rfl

theorem readUser_authorityOf (h : ∀ c ∈ s, isAddressChar c = true) (rest : List Char) :
    readUser .special (authorityOf s ++ '/' :: rest) = .ok (("", none), authorityOf s ++ '/' :: rest) := by
  have hinside : ∀ c ∈ authorityOf s, (!endsAuthority .special c) = true := by
    intro c hc
    rcases mem_authorityOf h hc with hc | rfl | rfl
    · simp [not_endsAuthority hc]
    · rfl
    · rfl
  have hnoUser : ∀ c ∈ (authorityOf s).reverse, (c != '@') = true := by
    intro c hc
    rcases mem_authorityOf h (List.mem_reverse.mp hc) with hc | rfl | rfl
    · simpa using ne_of_isAddressChar hc (by decide)
    · rfl
    · rfl
  have hauthority : (authorityOf s ++ '/' :: rest).takeWhile (fun c => !endsAuthority .special c) = authorityOf s := by
    rw [List.takeWhile_append_of_pos hinside, List.takeWhile_cons_of_neg (by decide), List.append_nil]
  have hhost : (authorityOf s).reverse.takeWhile (· != '@') = (authorityOf s).reverse :=
    List.takeWhile_eq_self_iff.mpr hnoUser
  unfold readUser
  dsimp only
  rw [hauthority, hhost, List.reverse_reverse, if_pos (by simp)]

theorem splitHost_authorityOf (h : ∀ c ∈ s, isAddressChar c = true) (rest : List Char) :
    splitHost .special false (authorityOf s ++ '/' :: rest) = (authorityOf s, '/' :: rest) := by
  rw [authorityOf, List.append_assoc, List.singleton_append, List.cons_append, splitHost, if_neg (by decide)]
  simp [splitHost_inside h rest]

/-- An authority that is an address between brackets. -/
theorem afterSlashes_authorityOf {a : Ipv6} (h : ∀ c ∈ s, isAddressChar c = true) (hread : Ipv6.read? s = some a) :
    afterSlashes .special "http" (authorityOf s ++ relayPath.toList) =
      .ok { scheme := "http", hasAuthority := true, host := some (.ipv6 a)
            path := .segments ["cgi-bin", "fwproxy"] } := by
  have hpath : relayPath.toList = '/' :: "cgi-bin/fwproxy".toList := rfl
  have hhost : Host.readSpecial (authorityOf s) = .ok (.ipv6 a) := by
    have hlast : (authorityOf s).getLast? = some ']' := List.getLast?_concat
    have hinner : ((authorityOf s).drop 1).dropLast = s := List.dropLast_concat
    rw [Host.readSpecial, if_pos (by rfl), Host.bracketed?, hlast, if_pos (by rfl), hinner, hread]
  have htail : splitPath ('/' :: "cgi-bin/fwproxy".toList) = ('/' :: "cgi-bin/fwproxy".toList, []) := by decide
  have hsegments : segmentsAfterAuthority .special ('/' :: "cgi-bin/fwproxy".toList) = ["cgi-bin", "fwproxy"] := by
    decide
  unfold afterSlashes
  rw [hpath, readUser_authorityOf h]
  dsimp only [bind, Except.bind]
  rw [splitHost_authorityOf h]
  dsimp only
  rw [if_neg (by simp [authorityOf]), if_neg (by simp [authorityOf]), if_pos (by rfl), hhost]
  dsimp only [Except.map]
  rw [if_neg (by simp), htail]
  dsimp only
  rw [hsegments]
  rfl

/-- The URL of a relay without its query. -/
def relayText (s : List Char) : List Char :=
  ['h', 't', 't', 'p', ':', '/', '/'] ++ (authorityOf s ++ relayPath.toList)

theorem trimEdges_relayText (s : List Char) : trimEdges (relayText s) = relayText s := by
  have hend : (relayText s).getLast? = some 'y' := by
    have hpath : relayPath.toList.getLast? = some 'y' := rfl
    rw [relayText, ← List.append_assoc, List.getLast?_append, hpath, Option.some_or]
  apply trimEdges_eq
  · intro c hc
    obtain rfl : 'h' = c := Option.some.inj hc
    rfl
  · intro c hc
    obtain rfl : 'y' = c := Option.some.inj (hend.symm.trans hc)
    rfl

theorem unbroken_relayText (h : ∀ c ∈ s, isAddressChar c = true) : unbroken (relayText s) = relayText s := by
  have hauthority := unbroken_authorityOf h
  have hpath : unbroken relayPath.toList = relayPath.toList := by decide
  have hfront : unbroken ['h', 't', 't', 'p', ':', '/', '/'] = ['h', 't', 't', 'p', ':', '/', '/'] := by decide
  unfold unbroken at *
  rw [relayText, List.filter_append, List.filter_append, hfront, hauthority, hpath]

theorem scheme?_http (rest : List Char) : scheme? ('h' :: 't' :: 't' :: 'p' :: ':' :: rest) = some ("http", rest) := by
  rfl

theorem parse_relay {a : Ipv6} {address : String} (h : ∀ c ∈ address.toList, isAddressChar c = true)
    (hread : Ipv6.read? address.toList = some a) :
    parse ("http://[" ++ address ++ "]" ++ relayPath) =
      .ok { scheme := "http", hasAuthority := true, host := some (.ipv6 a)
            path := .segments ["cgi-bin", "fwproxy"] } := by
  have htext : ("http://[" ++ address ++ "]" ++ relayPath).toList = relayText address.toList := by
    simp [relayText, authorityOf]
  have hscheme : scheme? (relayText address.toList) =
      some ("http", '/' :: '/' :: (authorityOf address.toList ++ relayPath.toList)) := by
    exact scheme?_http _
  have hkind : Kind.ofScheme "http" = .special := by decide
  have hslashes : ('/' :: '/' :: (authorityOf address.toList ++ relayPath.toList)).dropWhile (isSlash .special) =
      authorityOf address.toList ++ relayPath.toList := rfl
  rw [parse, htext, trimEdges_relayText, unbroken_relayText h, hscheme]
  dsimp only
  rw [hkind, hslashes]
  exact afterSlashes_authorityOf h hread

end

end Url

namespace Source

/-- Every relay has a URL, with its address for the host. -/
theorem relayUrl_eq (address : Ipv6) (branch file : String) :
    relayUrl address branch file = .ok {
      scheme := "http"
      hasAuthority := true
      host := some (.ipv6 address)
      path := .segments ["cgi-bin", "fwproxy"]
      query := some (relayQuery branch file) } := by
  rw [relayUrl, Url.parse_relay (fun _ => Ipv6.isAddressChar_of_mem_display) (Ipv6.read?_display address)]

end Source

end MeshFirmware
