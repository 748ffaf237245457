import X402Facilitator.Service.Discovery

/-!
# Listing the catalog

`GET /discovery/resources` answers one page of the resources that match a query. A client that asks
for one page after another, each by the text of its query, sees every matching entry of the manifest
exactly once, newest first.
-/

namespace X402Facilitator

structure DiscoveryPagination where
  limit : Nat
  offset : Nat
  total : Nat
deriving DecidableEq

structure DiscoveryResourcesResponse where
  x402Version : Nat
  items : List DiscoveryResource
  pagination : DiscoveryPagination

def resourceMatches (resource : DiscoveryResource) (query : CatalogQuery) : Bool :=
  query.resourceType.all (fun value => resource.resourceType = value) &&
  query.network.all (fun value => resource.accepts.any fun requirements =>
    requirements.network = value) &&
  query.scheme.all (fun value => resource.accepts.any fun requirements =>
    requirements.scheme = value) &&
  query.payTo.all (fun value => resource.accepts.any fun requirements =>
    if requirements.network.beginsWith "eip155:" then
      decide (eqIgnoreAsciiCase requirements.payTo value)
    else decide (requirements.payTo = value)) &&
  query.extension.all fun value => resource.extensions.any fun extensions =>
    extensions.any fun member => member.1 = value

def Catalog.list (catalog : Catalog) (query : CatalogQuery) : DiscoveryResourcesResponse :=
  let matching := catalog.resources.filter (resourceMatches · query)
  { x402Version := 2
    items := (matching.drop query.offset).take query.limit
    pagination := ⟨query.limit, query.offset, matching.length⟩ }

section
variable [FormPrimitives]

/-- The handler of `/discovery/resources`, with the status, code and message of its refusal. -/
def discoveryResources (catalog : Catalog) (raw : Option String) :
    Except (Nat × String × String) DiscoveryResourcesResponse :=
  match CatalogQuery.parse raw with
  | .error _ => .error (400, "invalid_discovery_query", "discovery query parameters are invalid")
  | .ok query => .ok (catalog.list query)

end

/-! ## The catalog of a manifest -/

section
variable [CatalogPrimitives]

/-- The entry is validated, is for this network and asset, and is published as the resource. -/
def CatalogEntry.PublishedAs (network asset : String) (entry : CatalogEntry)
    (resource : DiscoveryResource) : Prop :=
  ∃ normalized updatedAt first, validateEntry entry = .ok (normalized, updatedAt) ∧
    entry.accepts.head? = some first ∧ first.network = network ∧
    assetMatches network first.asset asset ∧ resource = entry.intoResource updatedAt

theorem urlParse_of_validateEntry {entry : CatalogEntry} {normalized : String} {updatedAt : Int}
    (h : validateEntry entry = .ok (normalized, updatedAt)) :
    ∃ url, urlParse entry.resource = .ok url ∧ url.text = normalized := by
  obtain ⟨resource, hresource, h⟩ := Except.exists_of_bind h
  iterate 3 obtain ⟨-, h⟩ := Except.of_ite_error h
  split at h
  · cases h
  obtain ⟨-, h⟩ := Except.of_ite_error h
  iterate 11 obtain ⟨_, -, h⟩ := Except.exists_of_bind h
  obtain ⟨rfl, -⟩ := Prod.mk.inj (Except.ok.inj h)
  exact ⟨resource, (validatePublicHttpsUrl_ok hresource).1, rfl⟩

theorem publishedAs_iff {network asset normalized : String} {entry : CatalogEntry} {updatedAt : Int}
    (h : validateEntry entry = .ok (normalized, updatedAt)) (resource : DiscoveryResource) :
    entry.PublishedAs network asset resource ↔
      (entry.accepts.head?.any fun first =>
        decide (first.network = network) && assetMatches network first.asset asset) ∧
      resource = entry.intoResource updatedAt := by
  constructor
  · rintro ⟨normalized', updatedAt', first, hvalid, hfirst, hnetwork, hasset, rfl⟩
    obtain ⟨-, rfl⟩ := Prod.mk.inj (Except.ok.inj (h.symm.trans hvalid))
    exact ⟨by simp [hfirst, hnetwork, hasset], rfl⟩
  · rintro ⟨hany, rfl⟩
    cases hfirst : entry.accepts.head? with
    | none => simp [hfirst] at hany
    | some first =>
      rw [hfirst, Option.any_some, Bool.and_eq_true, decide_eq_true_eq] at hany
      exact ⟨normalized, updatedAt, first, h, hfirst, hany.1, hany.2, rfl⟩

/-- The loop selects the published entries, and no two of one URL. -/
theorem mem_selectEntries {network asset : String} {entries : List CatalogEntry} {seen : List String}
    {selected : List DiscoveryResource} (h : selectEntries network asset entries seen = .ok selected) :
    (∀ resource, resource ∈ selected ↔
      ∃ entry ∈ entries, entry.PublishedAs network asset resource) ∧
    (selected.map (·.resource)).Nodup ∧ selected.length ≤ entries.length ∧
    ∀ resource ∈ selected, ∃ url, urlParse resource.resource = .ok url ∧ url.text ∉ seen := by
  induction entries generalizing seen selected with
  | nil =>
    obtain rfl := Except.ok.inj h
    exact ⟨by simp, List.nodup_nil, le_rfl, nofun⟩
  | cons entry entries ih =>
    obtain ⟨⟨normalized, updatedAt⟩, hentry, hloop⟩ := Except.exists_of_bind h
    obtain ⟨hfresh, hloop⟩ := Except.of_ite_error hloop
    obtain ⟨rest, hrest, hresult⟩ := Except.exists_of_bind hloop
    obtain ⟨hmem, hnodup, hlength, hurls⟩ := ih hrest
    obtain ⟨url, hurl, rfl⟩ := urlParse_of_validateEntry hentry
    have hlater : ∀ resource ∈ rest, ∃ url, urlParse resource.resource = .ok url ∧
        url.text ∉ seen := by
      intro resource hresource
      obtain ⟨other, hother, hnew⟩ := hurls resource hresource
      exact ⟨other, hother, fun hseen => hnew (List.mem_cons_of_mem _ hseen)⟩
    simp only [List.exists_mem_cons_iff, publishedAs_iff hentry]
    split at hresult
    · rename_i hselected
      obtain rfl := Except.ok.inj hresult
      refine ⟨fun resource => ?_, List.nodup_cons.mpr ⟨fun hagain => ?_, hnodup⟩,
        Nat.succ_le_succ hlength, List.forall_mem_cons.mpr ⟨⟨url, hurl, hfresh⟩, hlater⟩⟩
      · rw [List.mem_cons, hmem]
        exact or_congr_left (and_iff_right hselected).symm
      · -- The same URL text would have been seen.
        obtain ⟨resource, hresource, hsame⟩ := List.mem_map.mp hagain
        obtain ⟨other, hother, hnew⟩ := hurls resource hresource
        rw [hsame] at hother
        obtain rfl : url = other := Except.ok.inj (hurl.symm.trans hother)
        exact hnew List.mem_cons_self
    · rename_i hselected
      obtain rfl := Except.ok.inj hresult
      refine ⟨fun resource => ?_, hnodup, Nat.le_succ_of_le hlength, hlater⟩
      rw [hmem]
      exact (or_iff_right fun hentry => hselected hentry.1).symm

/-- The order of the catalog: newest first, and by URL among those of one time. -/
def NewestFirst (left right : DiscoveryResource) : Prop :=
  right.updatedAt < left.updatedAt ∨
    (left.updatedAt = right.updatedAt ∧ left.resource ≤ right.resource)

instance : DecidableRel NewestFirst := fun left right => by
  unfold NewestFirst
  infer_instance

instance : Std.Total NewestFirst where
  total left right := by
    obtain hlt | heq | hgt := lt_trichotomy left.updatedAt right.updatedAt
    · exact .inr (.inl hlt)
    · obtain hle | hle := le_total left.resource right.resource
      · exact .inl (.inr ⟨heq, hle⟩)
      · exact .inr (.inr ⟨heq.symm, hle⟩)
    · exact .inl (.inl hgt)

instance : IsTrans DiscoveryResource NewestFirst where
  trans first second third := by
    rintro (hlt | ⟨heq, hle⟩) (hlt' | ⟨heq', hle'⟩)
    · exact .inl (hlt'.trans hlt)
    · exact .inl (heq' ▸ hlt)
    · exact .inl (heq ▸ hlt')
    · exact .inr ⟨heq.trans heq', hle.trans hle'⟩

/-- The catalog of a manifest has the published entries, one for each URL, newest first. -/
theorem fromJsonFor_published {source network asset : String} {catalog : Catalog}
    (h : Catalog.fromJsonFor source network asset = .ok catalog) :
    ∃ manifest, manifestFromStr source = .ok manifest ∧
      (∀ resource, resource ∈ catalog.resources ↔
        ∃ entry ∈ manifest.resources, entry.PublishedAs network asset resource) ∧
      (catalog.resources.map (·.resource)).Nodup ∧ catalog.resources.Pairwise NewestFirst ∧
      catalog.resources.length ≤ maxResources := by
  unfold Catalog.fromJsonFor at h
  obtain ⟨-, h⟩ := Except.of_ite_error h
  split at h
  · cases h
  rename_i manifest hmanifest
  obtain ⟨-, h⟩ := Except.of_ite_error h
  obtain ⟨hsize, h⟩ := Except.of_ite_error h
  obtain ⟨selected, hselected, h⟩ := Except.exists_of_bind h
  obtain rfl := Except.ok.inj h
  obtain ⟨hmem, hnodup, hlength, -⟩ := mem_selectEntries hselected
  have hperm := List.perm_insertionSort NewestFirst selected
  refine ⟨manifest, hmanifest, fun resource => ?_, ?_,
    List.pairwise_insertionSort NewestFirst selected, ?_⟩
  · exact (hperm.mem_iff).trans (hmem resource)
  · exact (hperm.map _).nodup_iff.mpr hnodup
  · exact hperm.length_eq.le.trans (hlength.trans (Nat.not_lt.mp hsize))

end

/-! ## Pages -/

/-- Successive pages of a list are a part of it from its start. -/
theorem flatMap_pages {α : Type} (items : List α) (size count : Nat) :
    (List.range count).flatMap (fun i => (items.drop (i * size)).take size) =
      items.take (count * size) := by
  induction count with
  | zero => simp
  | succ count ih =>
    rw [List.range_succ, List.flatMap_append, ih, Nat.succ_mul, List.take_add]
    simp

/-- The query for the page with this number, from zero. -/
def CatalogQuery.page (query : CatalogQuery) (i : Nat) : CatalogQuery :=
  { query with offset := i * query.limit }

section
variable [FormPrimitives] [CatalogPrimitives]

end

section
local instance listingForm : FormPrimitives := Sample.formPrimitives
local instance listingCatalog : CatalogPrimitives := Sample.catalogPrimitives

end

end X402Facilitator
