import Mathlib.Tactic.IntervalCases
import CredentialReach.Proofs.AggregatePlacement

/-! The order of discovery. Drafts can be filed in any order that has owners first. The ids differ
from one order to another, but what stands under a full name is the same resource with the same
owners, so that a result cannot tell two orders apart. -/

namespace CredentialReach

namespace Filing

def OwnersFirst (filings : List Filing) : Prop :=
  ∀ i, ∀ inside : i < filings.length, ∀ owner ∈ filings[i].owner,
    owner ∈ (filings.take i).map (·.draft.fullName)

instance (filings : List Filing) : Decidable (OwnersFirst filings) :=
  inferInstanceAs (Decidable (∀ i, ∀ inside : i < filings.length, ∀ owner ∈ filings[i].owner,
    owner ∈ (filings.take i).map (·.draft.fullName)))

def Apart (filings : List Filing) : Prop := (filings.map (·.draft.fullName)).Nodup

instance (filings : List Filing) : Decidable (Apart filings) :=
  inferInstanceAs (Decidable (filings.map (·.draft.fullName)).Nodup)

private theorem OwnersFirst.init {filings : List Filing} {last : Filing}
    (ordered : OwnersFirst (filings ++ [last])) :
    OwnersFirst filings ∧ ∀ owner ∈ last.owner, owner ∈ filings.map (·.draft.fullName) := by
  constructor
  · intro i inside owner owned
    have before := ordered i (by simp; omega) owner
    rw [List.getElem_append_left inside, List.take_append_of_le_length (by omega)] at before
    exact before owned
  · intro owner owned
    have before := ordered filings.length (by simp) owner
    rw [List.getElem_concat_length rfl, List.take_left] at before
    exact before owned

end Filing

namespace ResourceGraph

variable {graph grown : ResourceGraph} {filings : List Filing}

/-- The drafts stand as they were filed, each below its owner. -/
structure Files (graph : ResourceGraph) (filings : List Filing) : Prop where
  orderly : graph.Orderly
  drafts : graph.nodes.map (·.draft) = filings.map (·.draft)
  owners : ∀ id, ((graph.parentOf? id).bind graph.get?).map (·.fullName) = filings[id]?.bind (·.owner)

private theorem files_empty : ({} : ResourceGraph).Files [] := ⟨orderly_empty, rfl, fun _ => rfl⟩

theorem Files.size (files : graph.Files filings) : graph.size = filings.length := by
  have same := congrArg List.length files.drafts
  rw [List.length_map, List.length_map] at same
  exact same

theorem Files.get? (files : graph.Files filings) (id : Nat) :
    graph.get? id = filings[id]?.map (·.draft) := by
  rw [ResourceGraph.get?, ← List.getElem?_map, files.drafts, List.getElem?_map]

theorem Files.fullNames (files : graph.Files filings) :
    graph.fullNames = filings.map (·.draft.fullName) := by
  have same := congrArg (List.map Draft.fullName) files.drafts
  rw [List.map_map, List.map_map] at same
  exact same

theorem Files.exists_filing (files : graph.Files filings) {id : Nat} {draft : Draft}
    (found : graph.get? id = some draft) :
    ∃ filing ∈ filings, filing.draft = draft ∧
      ((graph.parentOf? id).bind graph.get?).map (·.fullName) = filing.owner := by
  rw [files.get?] at found
  obtain ⟨filing, filed, drafted⟩ := Option.map_eq_some_iff.mp found
  refine ⟨filing, List.mem_of_getElem? filed, drafted, ?_⟩
  rw [files.owners, filed, Option.bind_some]

/-- A further draft is filed below an owner that is there, or at the top. -/
theorem Files.grow (files : graph.Files filings) {last : Filing} {parent? : Option Nat}
    (nodes : grown.nodes = graph.nodes ++ [⟨last.draft, parent?⟩])
    (new : graph.idOf? last.draft.fullName = none)
    (there : ∀ parent ∈ parent?, parent < graph.size)
    (owner : (parent?.bind graph.get?).map (·.fullName) = last.owner) :
    grown.Files (filings ++ [last]) where
  orderly := files.orderly.grow nodes new there
  drafts := by
    rw [nodes, List.map_append, List.map_append, files.drafts]
    rfl
  owners := by
    intro id
    have same (parent? : Option Nat) (there : ∀ parent ∈ parent?, parent < graph.size) :
        parent?.bind grown.get? = parent?.bind graph.get? := by
      cases parent? with
      | none => rfl
      | some parent =>
        exact (get?_grown nodes parent).trans (if_neg (Nat.ne_of_lt (there parent rfl)))
    rw [parentOf?_grown nodes]
    by_cases last : id = graph.size
    · rw [if_pos last, same _ there, owner, last, files.size, List.getElem?_concat_length]
      rfl
    · rw [if_neg last, same, files.owners]
      · rw [files.size] at last
        grind
      · intro parent contained
        exact Nat.lt_trans (files.orderly.older id parent contained) (lt_size_of_parentOf? contained)

end ResourceGraph

namespace History

private theorem ofFilings?_append (filings : List Filing) (last : Filing) :
    ofFilings? (filings ++ [last]) = (ofFilings? filings).bind (·.file? last) := by
  unfold ofFilings?
  rw [List.foldlM_append]
  cases List.foldlM file? {} filings with
  | none => rfl
  | some history => exact bind_pure (history.file? last)

/-- Drafts with names of their own can be filed if owners come first. -/
theorem exists_files {filings : List Filing} (apart : Filing.Apart filings)
    (ordered : Filing.OwnersFirst filings) :
    ∃ history, ofFilings? filings = some history ∧ history.graph.Files filings := by
  induction filings using List.reverseRecOn with
  | nil => exact ⟨{}, rfl, ResourceGraph.files_empty⟩
  | append_singleton filings last ih =>
    obtain ⟨earlier, owned⟩ := ordered.init
    unfold Filing.Apart at apart
    rw [List.map_append] at apart
    obtain ⟨others, -, different⟩ := List.nodup_append.mp apart
    obtain ⟨history, made, files⟩ := ih others earlier
    have new : history.graph.idOf? last.draft.fullName = none := by
      rw [← Option.not_isSome_iff_eq_none, ← ResourceGraph.mem_fullNames_iff, files.fullNames]
      intro taken
      exact different _ taken _ (List.mem_singleton_self _) rfl
    rw [ofFilings?_append, made, Option.bind_some, file?]
    cases owner : last.owner with
    | none =>
      refine ⟨_, rfl, files.grow (congrArg _ (graph_next_of_new nofun new)) new nofun ?_⟩
      exact owner.symm
    | some name =>
      have listed : name ∈ history.graph.fullNames := files.fullNames ▸ owned name owner
      obtain ⟨parent, found⟩ :=
        Option.isSome_iff_exists.mp (ResourceGraph.mem_fullNames_iff.mp listed)
      obtain ⟨draft, drafted, same⟩ := files.orderly.idOf?_eq_some.mp found
      have there : ∀ id ∈ some parent, id < history.graph.size := by
        rintro _ ⟨⟩
        exact ResourceGraph.isSome_get?.mp (drafted ▸ rfl)
      simp only [found, Option.map_some]
      refine ⟨_, rfl, files.grow (congrArg _ (graph_next_of_new there new)) new there ?_⟩
      simp [drafted, same, owner]

end History

namespace ResourceGraph

variable {one two : ResourceGraph} {first second : List Filing}

/-- What has a full name in one graph is what has it in the other. -/
theorem Files.resource?_eq (here : one.Files first) (there : two.Files second)
    (same : first.Perm second) (apart : Filing.Apart first) {id other : Nat} {draft also : Draft}
    (found : one.get? id = some draft) (known : two.get? other = some also)
    (name : draft.fullName = also.fullName) : one.resource? id = two.resource? other := by
  -- On the ids of the one graph. Owners have smaller ids there, whatever ids they have in the other.
  induction id using Nat.strongRecOn generalizing other draft also with
  | ind id ih =>
    obtain ⟨filing, filed, rfl, owner⟩ := here.exists_filing found
    obtain ⟨other', filed', rfl, owner'⟩ := there.exists_filing known
    obtain rfl : filing = other' :=
      List.inj_on_of_nodup_map apart filed (same.mem_iff.mpr filed') name
    rw [here.orderly.resource?_eq, there.orderly.resource?_eq, found, known]
    suffices owners : (one.parentOf? id).bind one.resource? = (two.parentOf? other).bind two.resource? by
      rw [owners]
    rcases here.orderly.owner_cases id with top | ⟨parent, above, contained, present, older⟩ <;>
      rcases there.orderly.owner_cases other with top' | ⟨parent', above', contained', present', -⟩
    · rw [top, top']
      rfl
    · simp [← owner, top, contained', present'] at owner'
    · simp [← owner', top', contained, present] at owner
    · simp only [contained, contained', present, present', Option.bind_some, Option.map_some] at owner owner' ⊢
      exact ih parent older present present' (Option.some.inj (owner.trans owner'.symm))

end ResourceGraph

namespace AnalysisResult

open ResourceGraph

variable {one two : ResourceGraph} {first second : List Filing} {table : PermissionTable}
variable {grants others : Grants}

/-- The same is granted on resources that have one full name. -/
def GrantsAgree (one two : ResourceGraph) (grants others : Grants) : Prop :=
  ∀ id ∈ one.ids, ∀ other ∈ two.ids,
    (one.get? id).map (·.fullName) = (two.get? other).map (·.fullName) →
      grants.heldOn id = others.heldOn other

theorem GrantsAgree.symm (agree : GrantsAgree one two grants others) :
    GrantsAgree two one others grants := by
  intro other present id listed name
  exact (agree id listed other present name.symm).symm

theorem mem_holdings_of_files (here : one.Files first) (there : two.Files second)
    (same : first.Perm second) (apart : Filing.Apart first)
    (agree : GrantsAgree one two grants others) {holding : Holding}
    (listed : holding ∈ holdings one table grants) : holding ∈ holdings two table others := by
  obtain ⟨id, resource, found, rfl⟩ := mem_holdings_iff.mp listed
  have drafted := (here.orderly.owners found).1
  obtain ⟨filing, filed, same', -⟩ := here.exists_filing drafted
  obtain ⟨other, placed⟩ := List.mem_iff_getElem?.mp (same.mem_iff.mp filed)
  have also : two.get? other = some resource.toDraft := by
    rw [there.get?, placed, Option.map_some, same']
  have equal := here.resource?_eq there same apart drafted also rfl
  have held : grants.heldOn id = others.heldOn other := by
    refine agree id ?_ other ?_ (by rw [drafted, also])
    · exact List.mem_range.mpr (isSome_get?.mp (drafted ▸ rfl))
    · exact List.mem_range.mpr (isSome_get?.mp (also ▸ rfl))
  exact mem_holdings_iff.mpr ⟨other, resource, equal ▸ found, by rw [held]⟩

private theorem perm_holdings_of_files (here : one.Files first) (there : two.Files second)
    (same : first.Perm second) (apart : Filing.Apart first)
    (agree : GrantsAgree one two grants others) :
    (holdings one table grants).Perm (holdings two table others) := by
  have once (graph : ResourceGraph) (grants : Grants) (orderly : graph.Orderly) :
      (holdings graph table grants).Nodup := List.Nodup.of_map _ (apart_holdings orderly.apart)
  refine (List.perm_ext_iff_of_nodup (once one grants here.orderly)
    (once two others there.orderly)).mpr ?_
  intro holding
  constructor
  · exact mem_holdings_of_files here there same apart agree
  · exact mem_holdings_of_files there here same.symm ((same.map _).nodup_iff.mp apart) agree.symm

/-- Holdings that are apart are put in one order, however they are listed. -/
theorem mergeSort_of_perm {left right : List Holding} (apart : Apart left) (same : left.Perm right) :
    left.mergeSort byFullName = right.mergeSort byFullName := by
  have perm := (List.mergeSort_perm left byFullName).trans
    (same.trans (List.mergeSort_perm right byFullName).symm)
  refine List.Perm.eq_of_pairwise ?_ (pairwise_sorted left) (pairwise_sorted right) perm
  intro holding other listed also le ge
  apply List.inj_on_of_nodup_map apart
  · exact (List.mergeSort_perm left byFullName).mem_iff.mp listed
  · exact same.mem_iff.mpr ((List.mergeSort_perm right byFullName).mem_iff.mp also)
  · exact String.le_antisymm le ge

/-- Drafts that are filed in two orders make two graphs with one result. -/
theorem aggregate_unordered {first second : List Filing} (same : first.Perm second)
    (apart : Filing.Apart first) (ordered : Filing.OwnersFirst first)
    (reordered : Filing.OwnersFirst second) :
    ∃ one two, History.ofFilings? first = some one ∧ History.ofFilings? second = some two ∧
      ∀ (kind : AnalyzerKind) (table : PermissionTable) (metadata : NameMap Json)
        (grants others : Grants), GrantsAgree one.graph two.graph grants others →
          aggregate kind one.graph table grants metadata =
            aggregate kind two.graph table others metadata := by
  obtain ⟨one, made, here⟩ := History.exists_files apart ordered
  obtain ⟨two, also, there⟩ := History.exists_files ((same.map _).nodup_iff.mp apart) reordered
  refine ⟨one, two, made, also, ?_⟩
  intro kind table metadata grants others agree
  have listed : (holdings one.graph table grants).Perm (holdings two.graph table others) :=
    perm_holdings_of_files here there same apart agree
  rw [aggregate_eq, aggregate_eq, mergeSort_of_perm (apart_holdings here.orderly.apart) listed]

/-- A bot is found last or first. More is held on the repository than elsewhere, whichever id it
has. -/
theorem aggregate_unordered_of_bot :
    let org : Filing := ⟨⟨"Acme", "acme", "org", ∅⟩, none⟩
    let team : Filing := ⟨⟨"Web", "acme/web", "team", ∅⟩, some "acme"⟩
    let repository : Filing := ⟨⟨"Site", "acme/web/site", "repository", ∅⟩, some "acme/web"⟩
    let bot : Filing := ⟨⟨"Bot", "bot", "user", ∅⟩, none⟩
    let table := PermissionTable.withType {} "repository" ["read", "write"]
    let all := NameSet.ofList ["read", "write"]
    ∃ one two, History.ofFilings? [org, team, repository, bot] = some one ∧
      History.ofFilings? [bot, org, team, repository] = some two ∧
      one.graph.idOf? "acme/web/site" = some 2 ∧ two.graph.idOf? "acme/web/site" = some 3 ∧
      aggregate .figma one.graph table ⟨∅, [(2, all)]⟩ ∅ =
        aggregate .figma two.graph table ⟨∅, [(3, all)]⟩ ∅ := by
  intro org team repository bot table all
  have same : [org, team, repository, bot].Perm [bot, org, team, repository] :=
    show ([org, team, repository] ++ [bot]).Perm ([bot] ++ [org, team, repository]) from
      List.perm_append_comm
  obtain ⟨one, two, made, also, equal⟩ := aggregate_unordered same (by decide) (by decide) (by decide)
  cases made
  cases also
  refine ⟨_, _, rfl, rfl, rfl, rfl, equal _ _ _ _ _ ?_⟩
  intro id present other listed name
  have inside : id < 4 := List.mem_range.mp present
  have within : other < 4 := List.mem_range.mp listed
  interval_cases id <;> interval_cases other <;> first | rfl | exact absurd name (by decide)

end AnalysisResult

end CredentialReach
