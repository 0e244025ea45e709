import MeshFirmware.Proofs.Relay.Query
import MeshFirmware.Proofs.Relay.Serving
import MeshFirmware.Settings

/-!
# A relay stands for the mirrors of the branch

A node that asks a neighbour for a file of its branch gets it from where it would have fetched the file itself: the
neighbour calls the mirrors of the section that the settings of the node come from, and no others
(`relay_transparent`). The neighbour finds the section by the name that the branch has in manifests, and the key of
another section may be that same name.
-/

namespace MeshFirmware.Relay

/-- Every branch has a name, and no two have the same. -/
structure NamesApart (c : Config) : Prop where
  named : ∀ e ∈ c.branches.entries, e.2.name ≠ ""
  distinct : (c.branches.entries.map fun e => e.2.name).Nodup

/-- The calls for a file, made to mirrors that are tried in some order: each place of the list at most once, and each
mirror for the URL at which the file of the branch is when it is fetched from the mirror without a relay. -/
def AsksDirectly (branch file : String) (mirrors : List String) (calls : List Call) : Prop :=
  ∃ tries : List (Fin mirrors.length × List Call), (tries.map Prod.fst).Nodup ∧ calls = callsOf tries ∧
    ∀ a ∈ tries, a.2 = [] ∨ ∃ e, (Source.mirror (mirrors.get a.1)).endpoint branch file = .ok e ∧
      (a.2 = [.probe e] ∨ a.2 = [.probe e, .fetch e])

/-! ## Sections -/

section
variable {c : Config} {key : String} {b : BranchConfig}

theorem mem_of_get? (h : c.branches.get? key = some b) : (key, b) ∈ c.branches.entries := by
  obtain ⟨e, he, rfl⟩ := Option.map_eq_some_iff.mp h
  have hkey : e.1 = key := by simpa using List.find?_some he
  rw [← hkey]
  exact List.mem_of_find?_eq_some he

/-- The section of a key is found by its name. -/
theorem mirrorsOf?_name (hnames : NamesApart c) (h : c.branches.get? key = some b) :
    mirrorsOf? c b.name = some b.mirrors := by
  have hmem := mem_of_get? h
  unfold mirrorsOf?
  cases hfind : c.branches.entries.find? fun e => e.2.name == b.name with
  | none =>
    have hnone := List.find?_eq_none.mp hfind _ hmem
    exact absurd (beq_self_eq_true b.name) hnone
  | some e =>
    have hname : e.2.name = b.name := by simpa using List.find?_some hfind
    have hsame : e = (key, b) :=
      List.inj_on_of_nodup_map hnames.distinct (List.mem_of_find?_eq_some hfind) hmem hname
    rw [hsame]

/-- The settings of a run name the branch as manifests do. -/
theorem branch_of_build {a : CommandLine.UpdaterArgs} {release : String} {t : Settings}
    (h : c.branches.get? (Settings.branchKey c a) = some b) (hbuild : Settings.build c a release = .ok t) :
    t.branch = b.name := by
  unfold Settings.build at hbuild
  dsimp only at hbuild
  rw [h] at hbuild
  dsimp only at hbuild
  split at hbuild
  · cases hbuild
  · obtain rfl := Except.ok.inj hbuild
    rfl

end

/-! ## Calls -/

theorem calls_answer (status : Status) (message : String) (output : Output) (calls : List Call) :
    (answer status message output calls).calls = calls := by
  unfold answer
  split <;> rfl

theorem started_write (r : Response) (bytes : Bytes) : (r.write bytes).2.started = true := by
  unfold Response.write
  split <;> rfl

theorem started_takePieces {file : String} {r : Response} (h : r.started = true) (pieces : List Bytes) :
    ((sink file).takePieces r pieces).2.started = true := by
  induction pieces generalizing r with
  | nil => exact h
  | cons piece rest ih =>
    have hwrite := started_write r piece
    have hdata : (sink file).data r piece = r.write piece := rfl
    rw [Sink.takePieces, hdata]
    generalize r.write piece = written at hwrite
    obtain ⟨_ | cause, r'⟩ := written
    · exact ih hwrite
    · exact hwrite

/-- With the first byte of a header the response has been started, even if the output takes no more. -/
theorem started_take_sink (file : String) (r : Response) (length : Option UInt64) (pieces : List Bytes)
    (failure : Option String) : ((sink file).take r (.started length pieces failure)).2.started = true := by
  have hwrite := started_write r (Bytes.ofText (fileHeader (contentType file) length))
  have hheader : (sink file).header r length = r.write (Bytes.ofText (fileHeader (contentType file) length)) := rfl
  rw [Sink.take, hheader]
  generalize r.write (Bytes.ofText (fileHeader (contentType file) length)) = written at hwrite
  obtain ⟨_ | cause, r'⟩ := written
  · have hpieces : ((sink file).takePieces r' pieces).2.started = true := started_takePieces hwrite pieces
    dsimp only at hpieces ⊢
    generalize (sink file).takePieces r' pieces = taken at hpieces
    obtain ⟨_ | cause, r''⟩ := taken
    · cases failure <;> exact hpieces
    · exact hpieces
  · exact hwrite

/-- Which calls are made does not depend on what becomes of the response. -/
theorem calls_tryMirrors (m : Mirrors) (file : String) (output output' : Output) (before : List Call)
    (mirrors : List String) :
    (tryMirrors m file output before mirrors).calls = (tryMirrors m file output' before mirrors).calls := by
  induction mirrors generalizing before with
  | nil => rw [tryMirrors, tryMirrors, calls_answer, calls_answer]
  | cons mirror rest ih =>
    rw [tryMirrors, tryMirrors]
    cases mirrorFileUrl mirror file with
    | error p => exact ih before
    | ok url =>
      dsimp only
      cases m.probe before { url } with
      | some cause => exact ih _
      | none =>
        dsimp only
        cases m.fetch (before ++ [.probe { url }]) { url } with
        | refused cause => exact ih _
        | started length pieces failure =>
          -- Either way the response has been started, so this call is the last one.
          have hlast (o : Output) := started_take_sink file { output := o } length pieces failure
          have hleft := hlast output
          have hright := hlast output'
          generalize (sink file).take { output } (.started length pieces failure) = left at hleft
          generalize (sink file).take { output := output' } (.started length pieces failure) = right at hright
          obtain ⟨_ | cause, r⟩ := left <;> obtain ⟨_ | cause', r'⟩ := right <;> simp_all

/-- If no transfer is started, every mirror with a URL is asked whether it has the file. -/
theorem Tries.probe_mem {ι : Type} {m : Mirrors} {file : String} {name : ι → String} {before : List Call}
    {places : List ι} {tries : List (ι × List Call)} (h : Tries m file name before places tries none) :
    ∀ i ∈ places, ∀ url, mirrorFileUrl (name i) file = .ok url → .probe { url } ∈ callsOf tries := by
  generalize hx : none = x at h
  induction h with
  | done => exact List.forall_mem_nil _
  | noUrl hurl _ ih =>
    rw [List.forall_mem_cons]
    refine ⟨fun url hok => ?_, ih hx⟩
    rw [hurl] at hok
    cases hok
  | unprobed hurl _ _ ih =>
    rw [List.forall_mem_cons]
    refine ⟨fun url hok => ?_, fun i hi url hok => ?_⟩
    · obtain rfl := Except.ok.inj (hurl.symm.trans hok)
      simp
    · simp [ih hx i hi url hok]
  | refused hurl _ _ _ ih =>
    rw [List.forall_mem_cons]
    refine ⟨fun url hok => ?_, fun i hi url hok => ?_⟩
    · obtain rfl := Except.ok.inj (hurl.symm.trans hok)
      simp
    · simp [ih hx i hi url hok]
  | started => cases hx

theorem mirror_endpoint {mirror branch file : String} {url : Url} (h : mirrorFileUrl mirror file = .ok url) :
    (Source.mirror mirror).endpoint branch file = .ok { url } := by
  rw [Source.endpoint, h]

theorem exists_url_of_endpoint {mirror branch file : String} {e : Endpoint}
    (h : (Source.mirror mirror).endpoint branch file = .ok e) :
    ∃ url, mirrorFileUrl mirror file = .ok url ∧ e = { url } := by
  rw [Source.endpoint] at h
  split at h
  next url hurl => exact ⟨url, hurl, (Except.ok.inj h).symm⟩
  next => cases h

theorem Tries.asksDirectly {m : Mirrors} {file : String} {mirrors : List String}
    {places : List (Fin mirrors.length)} {tries : List (Fin mirrors.length × List Call)} {x : Option Transfer}
    (h : Tries m file mirrors.get [] places tries x) (hplaces : places.Nodup) (branch : String) :
    AsksDirectly branch file mirrors (callsOf tries) := by
  refine ⟨tries, hplaces.sublist h.places_prefix.sublist, rfl, ?_⟩
  intro a ha
  rcases h.called a ha with hnone | ⟨url, hurl, hcalls⟩
  · exact .inl hnone
  · exact .inr ⟨_, mirror_endpoint hurl, hcalls⟩

/-! ## Transparency -/

/-- In these calls no mirror has come as far as a header. -/
def NoneStarted (m : Mirrors) (calls : List Call) : Prop :=
  ∀ front rest e, calls = front ++ .fetch e :: rest → ∃ cause, m.fetch front e = .refused cause

/-- The calls of a relay for a branch with these mirrors. -/
theorem calls_serve {c : Config} {request : Request} {mirrors : List String} {query : String} {admission : Admission}
    (hadmitted : admission ≠ .busy) (hread : Request.read query = .ok request)
    (hmirrors : mirrorsOf? c request.branch = some mirrors) (m : Mirrors) (shuffle : List String → List String)
    (output : Output) :
    (serve c m shuffle admission (some query) output).calls =
      (tryMirrors m request.file output [] (shuffle mirrors)).calls := by
  unfold serve
  split
  · exact absurd rfl hadmitted
  · dsimp only
    rw [hread]
    dsimp only
    rw [hmirrors]

/-- A file that is asked for at a neighbour is asked for at the mirrors of the branch, as if there were no neighbour
between. The manifest of the branch is such a file, and so are its images. -/
theorem relay_transparent {c : Config} (hnames : NamesApart c) {key : String} {b : BranchConfig}
    (hbranch : c.branches.get? key = some b) {file : String} (hplain : isPlainName file = true) (hfile : file ≠ "")
    (m : Mirrors) {shuffle : List String → List String} (hshuffle : ∀ mirrors, (shuffle mirrors).Perm mirrors)
    {admission : Admission} (hadmitted : admission ≠ .busy) (address : Ipv6) (interface : String) (output : Output) :
    (∀ a release t, Settings.branchKey c a = key → Settings.build c a release = .ok t → t.branch = b.name) ∧
    ∃ e query, (Source.neighbour address interface).endpoint b.name file = .ok e ∧ e.url.query = some query ∧
      AsksDirectly b.name file b.mirrors (serve c m shuffle admission (some query) output).calls ∧
      (NoneStarted m (serve c m shuffle admission (some query) output).calls →
        ∀ mirror ∈ b.mirrors, ∀ e, (Source.mirror mirror).endpoint b.name file = .ok e →
          .probe e ∈ (serve c m shuffle admission (some query) output).calls) := by
  constructor
  · intro a release t hkey hbuild
    exact branch_of_build (hkey ▸ hbranch) hbuild
  have htaken : Request.IsTaken ⟨b.name, file⟩ := ⟨hnames.named _ (mem_of_get? hbranch), hfile, hplain⟩
  have hread : Request.read (relayQuery b.name file) = .ok ⟨b.name, file⟩ :=
    (read_relayQuery ⟨b.name, file⟩).trans (if_pos htaken)
  refine ⟨_, _, neighbour_endpoint address interface b.name file, rfl, ?_⟩
  obtain ⟨places, hplaces, horder⟩ := exists_places (hshuffle b.mirrors)
  obtain ⟨tries, x, htries, hserved⟩ := tryMirrors_eq m file b.mirrors.get [] [] places
  have hcalls : (serve c m shuffle admission (some (relayQuery b.name file)) output).calls = callsOf tries := by
    rw [calls_serve hadmitted hread (mirrorsOf?_name hnames hbranch) m shuffle output, horder,
      calls_tryMirrors m file output {}, hserved]
    cases x with
    | none => exact calls_answer ..
    | some x => rfl
  rw [hcalls]
  refine ⟨htries.asksDirectly (hplaces.nodup_iff.mpr (List.nodup_finRange _)) b.name, ?_⟩
  intro hrefused mirror hmirror e he
  cases x with
  | none =>
    obtain ⟨i, hi⟩ := List.get_of_mem hmirror
    have hmem : i ∈ places := hplaces.mem_iff.mpr (List.mem_finRange i)
    obtain ⟨url, hurl, rfl⟩ := exists_url_of_endpoint he
    exact htries.probe_mem i hmem url (by rw [hi, hurl])
  | some x =>
    -- A transfer that has been started comes from a fetch that was not refused.
    obtain ⟨i, -, url, front, -, -, hlast, hfetch⟩ := htries.exists_transfer
    obtain ⟨cause, hcause⟩ := hrefused (front ++ [.probe { url }]) [] { url } (by rw [hlast]; simp)
    rw [List.nil_append, hcause] at hfetch
    cases hfetch

/-- Two branches, of which the first has for its name what is the key of the second. -/
def crossedConfig : Config where
  branches := (NameTable.empty.insert "stable"
    { name := "beta", mirrors := ["http://[fd00::1]", "nowhere", "http://[fd00::2]/fw/"] }).insert "beta"
    { name := "gamma", mirrors := ["http://[fd00::3]"] }

/-- Mirrors without files. -/
def emptyMirrors : Mirrors where
  probe _ _ := some "404"
  fetch _ _ := .refused "404"

/-- A node of the first branch gets its manifest from its own mirrors, two of which are URLs. -/
theorem relay_transparent_crossed :
    let mirrors := ["http://[fd00::1]", "nowhere", "http://[fd00::2]/fw/"]
    NamesApart crossedConfig ∧ (crossedConfig.branches.get? "beta").map (·.name) = some "gamma" ∧
    ∃ e query, (Source.neighbour default "mesh0").manifestEndpoint "beta" = .ok e ∧ e.url.query = some query ∧
      let calls := (serve crossedConfig emptyMirrors (shuffle fun _ => 0) .locked (some query) {}).calls
      AsksDirectly "beta" (manifestFile "beta") mirrors calls ∧
        ∀ mirror ∈ mirrors, ∀ e, (Source.mirror mirror).manifestEndpoint "beta" = .ok e → .probe e ∈ calls := by
  intro mirrors
  have hnames : NamesApart crossedConfig := ⟨by decide +kernel, by decide +kernel⟩
  have hother : (crossedConfig.branches.get? "beta").map (·.name) = some "gamma" := by decide +kernel
  have hbranch : crossedConfig.branches.get? "stable" = some { name := "beta", mirrors } := by decide +kernel
  have hshuffle : ∀ mirrors : List String, (shuffle (fun _ => 0) mirrors).Perm mirrors := perm_shuffle _
  have hplain : isPlainName (manifestFile "beta") = true := by decide
  have hfile : manifestFile "beta" ≠ "" := by decide
  have hadmitted : Admission.locked ≠ .busy := by decide
  obtain ⟨-, e, query, he, hquery, hasked, hprobed⟩ :=
    relay_transparent hnames hbranch hplain hfile emptyMirrors hshuffle hadmitted default "mesh0" {}
  refine ⟨hnames, hother, e, query, he, hquery, hasked, hprobed ?_⟩
  intro front rest e' _
  exact ⟨"404", rfl⟩

end MeshFirmware.Relay
