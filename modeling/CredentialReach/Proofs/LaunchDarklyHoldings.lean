import CredentialReach.Proofs.GuardedWalks
import CredentialReach.Proofs.HeldPermissions
import CredentialReach.Proofs.ListedItems
import CredentialReach.Vendor.LaunchDarkly

/-! What a LaunchDarkly token holds on what it finds. A collection is asked for if the token may
read what it lists, and these resources are of a type that can carry just this permission. So
whatever is found is bound, at least by the permission to read it. -/

namespace CredentialReach

namespace LaunchDarkly

/-- The collection lists resources of a type, and what it needs is the permission to read them. -/
def Reads (source : Source) : Prop :=
  ∃ type ∈ resourceTypes, source.required = some type.read ∧
    ∀ body parent drafts, source.extract body parent = .ok drafts →
      ∀ draft ∈ drafts, draft.type = type.name

private theorem reads_source {listing : Listing} {type : ResourceType} (known : type ∈ resourceTypes)
    (lists : listing.type = type.name) (needs : listing.required = some type.read) :
    Reads listing.source := by
  refine ⟨type, known, needs, ?_⟩
  intro body parent drafts extracts draft listed
  exact (Listing.type_of_extract extracts draft listed).trans lists

def listings : List Listing :=
  [members, applications, repositories, projects, environments, experiments, holdouts]

private theorem reads_of_mem {listing : Listing} (listed : listing ∈ listings) : Reads listing.source := by
  have agrees : ∀ listing ∈ listings, ∃ type ∈ resourceTypes,
      listing.type = type.name ∧ listing.required = some type.read := by
    decide
  obtain ⟨type, known, lists, needs⟩ := agrees listing listed
  exact reads_source known lists needs

private theorem reads_throughout : ∀ collection ∈ collections, collection.Throughout Reads := by
  have above {listing : Listing} (listed : listing ∈ listings) {children : List Collection}
      (below : ∀ child ∈ children, child.Throughout Reads) :
      (listing.above children).Throughout Reads := .of (reads_of_mem listed) below
  have leaf {listing : Listing} (listed : listing ∈ listings) :
      (listing.above []).Throughout Reads := above listed nofun
  intro collection member
  simp only [collections, List.mem_cons, List.not_mem_nil, or_false] at member
  rcases member with rfl | rfl | rfl | rfl
  · exact leaf (by simp [listings])
  · exact leaf (by simp [listings])
  · exact leaf (by simp [listings])
  · apply above (by simp [listings])
    intro child member
    obtain rfl := List.mem_singleton.mp member
    apply above (by simp [listings])
    intro child member
    rcases List.mem_pair.mp member with rfl | rfl
    · exact leaf (by simp [listings])
    · exact leaf (by simp [listings])

/-- A type can carry the permissions to read and to write it, and no others. -/
theorem applicable_of_mem {type : ResourceType} (known : type ∈ resourceTypes) :
    permissionTable.applicable type.name = [type.read, type.write] := by
  revert type
  decide +kernel

/-- Who may read what is of a type has that permission on it, and maybe the one to write it. -/
theorem resolve_of_meets {type : ResourceType} (known : type ∈ resourceTypes) {held : PermissionSet}
    (met : held.meets (some type.read) = true) :
    let values := (permissionTable.resolve type.name held).map (·.value)
    values = [type.read] ∨ values = [type.read, type.write] := by
  intro values
  have readable : permissionTable.grants held type.read = true := by
    simp only [PermissionSet.meets, Bool.or_eq_true] at met
    simp only [PermissionTable.grants, Bool.or_eq_true]
    exact .inl met
  have resolved : values = [type.read, type.write].filter (permissionTable.grants held) := by
    rw [← applicable_of_mem known]
    exact PermissionTable.values_resolve ..
  rw [resolved, List.filter_cons_of_pos readable]
  cases writable : permissionTable.grants held type.write with
  | true => exact .inr (by rw [List.filter_cons_of_pos writable, List.filter_nil])
  | false => exact .inl (by rw [List.filter_cons_of_neg (ne_true_of_eq_false writable), List.filter_nil])

open Walk in
/-- What a walk finds is of a type that its token may read. -/
theorem exists_type_of_found {plan : Plan} {course : Course} (ends : plan.manner.Ends collections course)
    {resource : Resource} (found : resource ∈ course.graph.resources) :
    ∃ type ∈ resourceTypes, resource.type = type.name ∧
      plan.permissions.meets (some type.read) = true := by
  obtain ⟨errand, tried, draft, drafted, rfl⟩ := ends.exists_find found
  have guarded := ends.guarded reads_throughout errand tried
  obtain ⟨type, known, needs, lists⟩ := guarded.throughout.source
  obtain ⟨_, _, _, _, _, extracts⟩ := (plan.answers errand).exists_reply drafted
  have met : plan.permissions.meets errand.collection.source.required = true := guarded.met
  refine ⟨type, known, ?_, needs ▸ met⟩
  rw [Resource.toDraft_place]
  exact lists _ _ _ extracts draft drafted

/-- Everything that was found is bound, by the permission to read its type and maybe by the one to
write it. -/
structure BindsAll (result : AnalysisResult) (graph : ResourceGraph) : Prop where
  bound : result.boundResources.Perm graph.resources
  unbounded : result.unbounded = []
  found : ∀ binding ∈ result.bindings, binding.resource ∈ graph.resources
  permissions : ∀ resource ∈ graph.resources, ∃ type ∈ resourceTypes, resource.type = type.name ∧
    (result.permissionsOf resource.fullName = [type.read] ∨
      result.permissionsOf resource.fullName = [type.read, type.write])

/-- If every resource is of a type that may be read, the permissions that its type can carry leave
none unbounded. -/
theorem bindsAll_aggregate {graph : ResourceGraph} {held : PermissionSet}
    (once : graph.fullNames.Nodup)
    (readable : ∀ resource ∈ graph.resources, ∃ type ∈ resourceTypes,
      resource.type = type.name ∧ held.meets (some type.read) = true)
    (metadata : NameMap Json) :
    BindsAll (.aggregate .launchDarkly graph permissionTable ⟨held, []⟩ metadata) graph := by
  have apart : AnalysisResult.Apart (AnalysisResult.holdings graph permissionTable ⟨held, []⟩) :=
    AnalysisResult.apart_holdings once
  have tells := AnalysisResult.tells_aggregate .launchDarkly metadata apart
  have unbounded : (AnalysisResult.aggregate .launchDarkly graph permissionTable ⟨held, []⟩
      metadata).unbounded = [] := by
    apply List.eq_nil_iff_forall_not_mem.mpr
    intro resource listed
    obtain ⟨found, nothing⟩ := AnalysisResult.mem_unbounded_aggregate.mp listed
    obtain ⟨type, known, typed, met⟩ := readable resource found
    have resolved := resolve_of_meets known met
    rw [← typed, nothing] at resolved
    simp at resolved
  constructor
  case unbounded => exact unbounded
  case bound =>
    have reported := tells.reported
    rwa [unbounded, List.append_nil, AnalysisResult.resources_holdings] at reported
  case found =>
    intro binding listed
    exact (AnalysisResult.mem_bindings_aggregate.mp listed).1
  case permissions =>
    intro resource found
    obtain ⟨type, known, typed, met⟩ := readable resource found
    refine ⟨type, known, typed, ?_⟩
    have holding : ⟨resource, permissionTable.resolve resource.type held⟩ ∈
        AnalysisResult.holdings graph permissionTable ⟨held, []⟩ := by
      rw [AnalysisResult.holdings_everywhere]
      exact List.mem_map_of_mem found
    have bound := tells.bound _ holding
    rw [AnalysisResult.permissionsOf, bound, Holding.bindings, List.map_map, typed]
    exact resolve_of_meets known met

/-- What an analysis can return, and what its walk can have found, whichever branch takes the next
step. -/
inductive Returns (settings : Settings) (given : Option Transport) (credential : Credential) :
    ResourceGraph → Analysis → Prop
  | walked {secret : String} {transport : Transport} {identity : CallerIdentity}
      {token : Option Token} {final : Walk.Progress} {analysis : Analysis}
      (has : credential.require Credential.tokenField = .ok secret)
      (connects : Transport.connect given (settings.endpoints.launchDarkly.getD defaultBaseUrl)
        (.header "Authorization" secret) settings = .ok transport)
      (identifies : (fetch transport identityPath CallerIdentity.parse).outcome = .ok identity)
      (details : (fetchToken transport identity).outcome = .ok token)
      (ends : (Walk.Plan.within transport (rolePermissions (roleOf token)) settings.timeout
        settings.rateLimitBackoff).Ends collections final)
      (reports : (report (rolePermissions (roleOf token)) (metadataOf identity token)
        final.outcome).outcome = .ok analysis) :
      Returns settings given credential final.graph analysis

private theorem exists_returns {settings : Settings} {given : Option Transport} {credential : Credential}
    {analysis : Analysis} (done : (analyze settings given credential).outcome = .ok analysis) :
    ∃ graph, Returns settings given credential graph analysis := by
  unfold analyze at done
  obtain ⟨secret, has, done⟩ := Session.exists_of_bind_ok done
  obtain ⟨transport, connects, done⟩ := Session.exists_of_bind_ok done
  obtain ⟨identity, identifies, done⟩ := Session.exists_of_bind_ok done
  obtain ⟨token, details, done⟩ := Session.exists_of_bind_ok done
  obtain ⟨final, ends, same⟩ := (Walk.Plan.within transport (rolePermissions (roleOf token))
    settings.timeout settings.rateLimitBackoff).exists_ends Walk.State.earliest collections
  exact ⟨final.graph, .walked has connects identifies details ends (same ▸ done)⟩

/-- Whatever role a token has and whatever is answered: what an analysis returns has every resource
that its walk found bound, and none unbounded. -/
theorem analyze_binds_all (settings : Settings) (given : Option Transport) (credential : Credential) :
    (∀ analysis, (analyze settings given credential).outcome = .ok analysis →
      ∃ graph, Returns settings given credential graph analysis) ∧
    ∀ graph analysis, Returns settings given credential graph analysis →
      BindsAll analysis.result graph := by
  refine ⟨fun _ done => exists_returns done, ?_⟩
  rintro _ analysis (@⟨_, _, _, token, final, _, has, connects, identifies, details, ends, reports⟩)
  cases reports
  obtain ⟨course, whole, rfl⟩ := Walk.Plan.ends_iff.mp ends
  apply bindsAll_aggregate
  · rw [← ResourceGraph.names_resources]
    exact whole.recorded.apart
  · exact fun resource found => exists_type_of_found whole found

def oneItem (field value : String) : Reply :=
  ⟨0, .ok ⟨200, "\x7b\"items\":[\x7b\"" ++ field ++ "\":\"" ++ value ++ "\"\x7d]\x7d"⟩⟩

/-- A writer finds a member, and a project with an environment in it. -/
def ofWriter : Transport := fun request =>
  if request.path = identityPath then ⟨0, .ok ⟨200, "\x7b\"tokenId\":\"t1\"\x7d"⟩⟩
  else if request.path = tokenPath "t1" then ⟨0, .ok ⟨200, "\x7b\"role\":\"writer\"\x7d"⟩⟩
  else if request.path = members.path then oneItem "_id" "m1"
  else if request.path = projects.path then oneItem "key" "web"
  else if request.path = "/api/v2/projects/web/environments" then oneItem "key" "prod"
  else ⟨0, .ok ⟨404, ""⟩⟩

theorem analyze_binds_all_of_writer :
    ∃ graph analysis, Returns {} (some ofWriter) (.token "api-1") graph analysis ∧
      graph.resources.map (·.fullName) =
        ["member/m1", "project/web", "project/web/environment/prod"] ∧
      BindsAll analysis.result graph := by
  let identity : CallerIdentity := { tokenId := some "t1" }
  let token : Token := { role := some "writer" }
  let plan := Walk.Plan.within ofWriter (rolePermissions "writer") 30000 1000
  have identifies : (fetch ofWriter identityPath CallerIdentity.parse).outcome = .ok identity := by
    rfl
  have details : (fetchToken ofWriter identity).outcome = .ok (some token) := by
    rfl
  obtain ⟨final, ends, same⟩ := plan.exists_ends Walk.State.earliest collections
  have graph : final.graph = (plan.walk collections).graph := congrArg Walk.Outcome.graph same
  have returns : Returns {} (some ofWriter) (.token "api-1") final.graph _ :=
    .walked rfl rfl identifies details ends rfl
  refine ⟨_, _, returns, ?_, (analyze_binds_all ..).2 _ _ returns⟩
  rw [graph]
  decide +kernel

end LaunchDarkly

end CredentialReach
