import MeshFirmware.Proofs.Source.RelayUrl
import MeshFirmware.Proofs.Url.Form
import MeshFirmware.Relay.Request

/-!
# Requests reach the relay as they were made

A node asks a neighbour for a file by a URL with a query, and the neighbour reads the query. Whatever the texts of
branch and file are, the neighbour has a URL, and it reads these very texts: it takes the request if both are there
and the file has a plain name, and otherwise refuses it (`relay_reads_request`).
-/

namespace MeshFirmware.Relay

/-- A request that is taken: it names a branch, and a file with a plain name. -/
def Request.IsTaken (r : Request) : Prop := r.branch ≠ "" ∧ r.file ≠ "" ∧ isPlainName r.file = true

instance (r : Request) : Decidable r.IsTaken := inferInstanceAs (Decidable (_ ∧ _ ∧ _))

/-- Why a request is not taken. -/
def Request.refusal (r : Request) : QueryError :=
  if r.branch = "" then .missing "branch" else if r.file = "" then .missing "file" else .badFile r.file

theorem parse_relayQuery (branch file : String) :
    Url.Form.parse (relayQuery branch file) = [("branch", branch), ("file", file)] :=
  Url.Form.parse_render _

theorem parameter_branch (branch file : String) :
    parameter "branch" [("branch", branch), ("file", file)] =
      if branch = "" then .error (.missing "branch") else .ok branch := by
  simp [parameter]

theorem parameter_file (branch file : String) :
    parameter "file" [("branch", branch), ("file", file)] =
      if file = "" then .error (.missing "file") else .ok file := by
  simp [parameter]

/-- A request is read from its query if it is one to take. -/
theorem read_relayQuery (r : Request) :
    Request.read (relayQuery r.branch r.file) = if r.IsTaken then .ok r else .error r.refusal := by
  obtain ⟨branch, file⟩ := r
  rw [Request.read, parse_relayQuery, parameter_branch, parameter_file]
  unfold Request.IsTaken Request.refusal
  dsimp only
  by_cases hbranch : branch = ""
  · simp [hbranch]
  by_cases hfile : file = ""
  · simp [hbranch, hfile]
  by_cases hplain : isPlainName file = true
  · simp [hbranch, hfile, hplain]
  · simp [hbranch, hfile, hplain]

/-- The relay accepts requests for a file of this name. -/
def Accepts (file : String) : Prop := ∃ query r, Request.read query = .ok r ∧ r.file = file

theorem parameter_ne_empty {name v : String} {pairs : List (String × String)} (h : parameter name pairs = .ok v) :
    v ≠ "" := by
  unfold parameter at h
  split at h
  · split at h
    · cases h
    · rename_i hne
      obtain rfl := Except.ok.inj h
      simpa using hne
  · cases h

theorem accepts_iff {file : String} : Accepts file ↔ file ≠ "" ∧ isPlainName file = true := by
  constructor
  · rintro ⟨query, r, hread, rfl⟩
    unfold Request.read at hread
    dsimp only at hread
    split at hread
    · cases hread
    · split at hread
      · cases hread
      · rename_i file hfile
        split at hread
        · rename_i hplain
          obtain rfl := Except.ok.inj hread
          exact ⟨parameter_ne_empty hfile, hplain⟩
        · cases hread
  · rintro ⟨hne, hplain⟩
    have htaken : Request.IsTaken ⟨"stable", file⟩ := ⟨(by decide : "stable" ≠ ""), hne, hplain⟩
    refine ⟨relayQuery "stable" file, ⟨"stable", file⟩, ?_, rfl⟩
    have hread := read_relayQuery ⟨"stable", file⟩
    rwa [if_pos htaken] at hread

theorem neighbour_endpoint (address : Ipv6) (interface branch file : String) :
    (Source.neighbour address interface).endpoint branch file = .ok {
      url := {
        scheme := "http"
        hasAuthority := true
        host := some (.ipv6 address)
        path := .segments ["cgi-bin", "fwproxy"]
        query := some (relayQuery branch file) }
      interface := some interface } := by
  rw [Source.endpoint, Source.relayUrl_eq]

/-- Every file of every branch has a URL on every neighbour, and the neighbour reads from the query in it what has
been asked for. -/
theorem relay_reads_request (address : Ipv6) (interface branch file : String) :
    ∃ url query, (Source.neighbour address interface).endpoint branch file =
        .ok { url, interface := some interface } ∧
      url.scheme = "http" ∧ url.host = some (.ipv6 address) ∧ url.port = none ∧
      url.path.text = "/cgi-bin/fwproxy" ∧ url.fragment = none ∧ url.query = some query ∧
      Request.read query =
        if Request.IsTaken ⟨branch, file⟩ then .ok ⟨branch, file⟩ else .error (Request.refusal ⟨branch, file⟩) := by
  have hpath : (Url.Path.segments ["cgi-bin", "fwproxy"]).text = relayPath := by decide
  exact ⟨_, _, neighbour_endpoint address interface branch file, rfl, rfl, rfl, hpath, rfl, rfl,
    read_relayQuery ⟨branch, file⟩⟩

/-- A plus sign and a blank are told apart, and a name with a slash is refused. -/
example : Request.read (relayQuery "a b+c&d" "x+y~1.bin") = .ok ⟨"a b+c&d", "x+y~1.bin"⟩ ∧
    Request.read (relayQuery "ä" "../x") = .error (.badFile "../x") := by
  decide +kernel

end MeshFirmware.Relay
