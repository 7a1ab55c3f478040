import Clouditor.ResourceTypes

/-! The relationships of ontology resources: what `Related` reads off the fields of a message,
and the edges that `ListGraphEdges` makes of them. -/
namespace Clouditor
set_option autoImplicit false

section Relationships

deriving instance DecidableEq for Relationship

/-- The value of a message field: a string, a repeated string, or anything else. -/
inductive ProtoValue where
  | string (s : String)
  | strings (ss : List String)
  | other
  deriving DecidableEq

/-- The fields of an ontology resource with their names, in the order of its descriptor. -/
abbrev OntologyFields := List (String × ProtoValue)

/-- What `Interface` returns for a field. For a repeated field that is a list of values, which is
neither a string nor a slice of strings. -/
def ProtoValue.reflected : ProtoValue → FieldValue
  | .string s => .text s
  | .strings _ => .other
  | .other => .other

def OntologyFields.reflected (m : OntologyFields) : OntologyMessage :=
  m.map (fun field => (field.1, field.2.reflected))

/-- The relationship to the id in a field for a single reference. -/
def singleReference (field : String × ProtoValue) : List Relationship :=
  match cutSuffix field.1 "_id", field.2 with
  | some property, .string s => if s = "" then [] else [⟨property, s⟩]
  | _, _ => []

/-- The relationships to the ids in a field for a list of references. -/
def listReferences (field : String × ProtoValue) : List Relationship :=
  match cutSuffix field.1 "_ids", field.2 with
  | some property, .strings ss => (ss.filter (· ≠ "")).map (⟨property, ·⟩)
  | _, _ => []

/-- One relationship for each id that is stored in a reference field. -/
def OntologyFields.references (m : OntologyFields) : List Relationship :=
  m.flatMap (fun field => singleReference field ++ listReferences field)

/-- No reference field for a list holds an id. -/
def OntologyFields.NoLists (m : OntologyFields) : Prop :=
  ∀ field ∈ m, listReferences field = []

theorem related_reflected (m : OntologyFields) :
    related m.reflected = m.flatMap singleReference := by
  rw [related, OntologyFields.reflected, List.flatMap_map]
  apply List.flatMap_congr
  intro field _
  obtain ⟨name,value⟩ := field
  cases hname : cutSuffix name "_id" <;> cases value <;>
    simp [singleReference, ProtoValue.reflected, hname]

/-- What is read off the fields is all but the references in lists. -/
theorem references_perm (m : OntologyFields) :
    m.references.Perm (related m.reflected ++ m.flatMap listReferences) := by
  rw [related_reflected]
  exact (List.flatMap_append_perm m singleReference listReferences).symm

theorem perm_append_self_iff {α : Type} (l extra all : List α) (h : all.Perm (l ++ extra)) :
    l.Perm all ↔ extra = [] := by
  constructor
  · intro hl
    have hlen := (hl.trans h).length_eq
    rw [List.length_append] at hlen
    exact List.eq_nil_of_length_eq_zero (by omega)
  · intro hextra
    rw [hextra, List.append_nil] at h
    exact h.symm

theorem related_perm_iff (m : OntologyFields) :
    (related m.reflected).Perm m.references ↔ m.NoLists := by
  rw [perm_append_self_iff _ _ _ (references_perm m), List.flatMap_eq_nil_iff]
  rfl

end Relationships

section Edges

/-- Pages that are made of other pages follow the same tokens. -/
theorem followTokens_ok {α β : Type} (g : List α → List β)
    (list : ℕ → PageTokenText → Except Err (List α × PageTokenText))
    (list' : ℕ → PageTokenText → Except Err (List β × PageTokenText))
    (hlist : ∀ i t page next, list i t = .ok (page, next) → list' i t = .ok (g page, next))
    (n i : ℕ) (t : PageTokenText) (pages : List (List α))
    (h : followTokens list n i t = some (.ok pages)) :
    followTokens list' n i t = some (.ok (pages.map g)) := by
  induction n generalizing i t pages with
  | zero => cases h
  | succ n ih =>
    rw [followTokens] at h ⊢
    cases hl : list i t with
    | error e => simp [hl] at h
    | ok r =>
      obtain ⟨page,next⟩ := r
      rw [hlist i t page next hl]
      rw [hl] at h
      cases next with
      | empty =>
        cases h
        rfl
      | encoded _ | malformed =>
        simp only [Option.map_eq_some_iff] at h ⊢
        obtain ⟨rest,hrest,hpages⟩ := h
        cases rest with
        | error e => cases hpages
        | ok rest =>
          cases hpages
          exact ⟨_, ih _ _ rest hrest, rfl⟩

/-- The table of resources, with the reading of the messages that are packed into its rows. -/
structure GraphTable where
  rows : List Resource
  unpack : String → Option OntologyFields

def GraphTable.resource (table : GraphTable) (r : Resource) : OntologyFields :=
  (r.properties.bind table.unpack).getD []

/-- `ToOntologyResource`, as far as it is looked at by reflection. -/
def GraphTable.toOntologyResource (table : GraphTable) (text : String) : Option OntologyMessage :=
  (table.unpack text).map OntologyFields.reflected

/-- The rows that a caller may see. -/
def GraphTable.accessible (table : GraphTable) (a : Access) : List Resource :=
  table.rows.filter (fun r => a.checkAccess r.cloudServiceId)

/-- The relationships of the accessible resources, each with the id of its resource. -/
def GraphTable.relationships (table : GraphTable) (a : Access) :
    List (String × Relationship) :=
  (table.accessible a).flatMap (fun r => (table.resource r).references.map (r.id, ·))

/-- An edge without its own id. -/
def GraphEdge.relationship (e : GraphEdge) : String × Relationship :=
  (e.source, ⟨e.type, e.target⟩)

/-- A list of edges for all relationships, in which the ids tell the edges apart. -/
def GraphTable.Shows (table : GraphTable) (a : Access) (edges : List GraphEdge) : Prop :=
  (edges.map GraphEdge.relationship).Perm (table.relationships a) ∧
    ∀ e ∈ edges, ∀ e' ∈ edges, e.id = e'.id → e = e'

def edgeOf (source : String) (rel : Relationship) : GraphEdge :=
  ⟨source ++ "-" ++ rel.value, source, rel.value, rel.property⟩

variable (table : GraphTable) (a : Access)

theorem edges_eq (r : Resource) : r.edges table.toOntologyResource =
    (related (table.resource r).reflected).map (edgeOf r.id) := by
  have hbind : r.properties.bind table.toOntologyResource =
      (r.properties.bind table.unpack).map OntologyFields.reflected := by
    cases r.properties <;> rfl
  unfold Resource.edges GraphTable.resource
  rw [hbind]
  cases r.properties.bind table.unpack <;> rfl

/-- All edges of the accessible resources. -/
def GraphTable.edges : List GraphEdge :=
  (table.accessible a).flatMap (Resource.edges table.toOntologyResource)

theorem listGraphEdges_pages (E : SQL.Engine Resource (fun _ => none)) (orderBy : String)
    (asc : Bool) (f : List Resource → List Resource)
    (hf : E.sort (orderStmt orderBy asc) = some f) (sizes : ℕ → ℤ) (n : ℕ)
    (hn : table.rows.length < n) :
    ∃ pages, followTokens (fun i t => listGraphEdges table.toOntologyResource E a table.rows
        ⟨sizes i, t, orderBy, asc⟩) n 0 .empty = some (.ok pages) ∧
      pages.flatten.Perm (table.edges a) := by
  obtain ⟨pages,hpages,hperm⟩ := paginateWhere_pages E Resource.column
    (a.conditions .cloudServiceId) (conditions_fit a _) orderBy asc f hf table.rows sizes n hn
  have hrows (r : Resource) : (a.conditions ResourceColumn.cloudServiceId).all
      (SQL.meets Resource.column 0 r) = a.checkAccess r.cloudServiceId :=
    conditions_meet a Resource.column .cloudServiceId r r.cloudServiceId rfl
  simp only [hrows] at hperm
  refine ⟨pages.map (fun page => page.flatMap (Resource.edges table.toOntologyResource)), ?_, ?_⟩
  · apply followTokens_ok _ _ _ ?_ n 0 .empty pages hpages
    intro i t page next h
    simp only [listGraphEdges, h]
  · rw [List.flatten_eq_flatMap, List.flatMap_map]
    have hflat := hperm.flatMap_right (Resource.edges table.toOntologyResource)
    rw [List.flatten_eq_flatMap, List.flatMap_assoc] at hflat
    exact hflat

/-- The relationships that the edges show are all but those in lists. -/
theorem relationships_perm : (table.relationships a).Perm
    ((table.edges a).map GraphEdge.relationship ++ (table.accessible a).flatMap
      (fun r => ((table.resource r).flatMap listReferences).map (r.id, ·))) := by
  have hedges : (table.edges a).map GraphEdge.relationship = (table.accessible a).flatMap
      (fun r => (related (table.resource r).reflected).map (r.id, ·)) := by
    simp only [GraphTable.edges, List.map_flatMap, edges_eq, List.map_map]
    rfl
  rw [hedges]
  refine List.Perm.trans ?_ (List.flatMap_append_perm _ _ _).symm
  apply List.Perm.flatMap_left
  intro r _
  rw [← List.map_append]
  exact (references_perm (table.resource r)).map _

/-- Texts that are the same although they are cut at different dashes. -/
theorem cut_overlap {α : Type} (c : α) (s v s' v' : List α) (h : s ++ c :: v = s' ++ c :: v') :
    (s = s' ∧ v = v') ∨ (∃ x, s' = s ++ c :: x ∧ v = x ++ c :: v') ∨
      ∃ x, s = s' ++ c :: x ∧ v' = x ++ c :: v := by
  rcases List.append_eq_append_iff.mp h with ⟨x,hs,hv⟩ | ⟨x,hs,hv⟩
  · cases x with
    | nil => exact .inl ⟨by simpa using hs.symm, by simpa using hv⟩
    | cons d x =>
      obtain ⟨rfl,hrest⟩ := List.cons.inj hv
      exact .inr (.inl ⟨x, hs, hrest⟩)
  · cases x with
    | nil => exact .inl ⟨by simpa using hs, by simpa using hv.symm⟩
    | cons d x =>
      obtain ⟨rfl,hrest⟩ := List.cons.inj hv
      exact .inr (.inr ⟨x, hs, hrest⟩)

theorem dashed_eq_iff (s v s' v' : String) : s ++ "-" ++ v = s' ++ "-" ++ v' ↔
    (s = s' ∧ v = v') ∨ (∃ x, s' = s ++ "-" ++ x ∧ v = x ++ "-" ++ v') ∨
      ∃ x, s = s' ++ "-" ++ x ∧ v' = x ++ "-" ++ v := by
  have htext (t u w : String) : t = u ++ "-" ++ w ↔ t.toList = u.toList ++ '-' :: w.toList := by
    rw [← String.toList_inj]
    simp
  constructor
  · intro h
    rw [htext, String.toList_append, String.toList_append, List.append_assoc] at h
    rcases cut_overlap '-' _ _ _ _ h with ⟨hs,hv⟩ | ⟨x,hs,hv⟩ | ⟨x,hs,hv⟩
    · exact .inl ⟨String.toList_inj.mp hs, String.toList_inj.mp hv⟩
    · refine .inr (.inl ⟨String.ofList x, (htext _ _ _).mpr ?_, (htext _ _ _).mpr ?_⟩) <;> simpa
    · refine .inr (.inr ⟨String.ofList x, (htext _ _ _).mpr ?_, (htext _ _ _).mpr ?_⟩) <;> simpa
  · rintro (⟨rfl,rfl⟩ | ⟨x,rfl,rfl⟩ | ⟨x,rfl,rfl⟩) <;> simp [String.append_assoc]

/-- Each resource refers to an id through one property only, and no id of a resource continues
another one in the way the text of an edge id does. -/
def GraphTable.Separate : Prop :=
  ∀ p ∈ table.relationships a, ∀ p' ∈ table.relationships a,
    (p.1 = p'.1 → p.2.value = p'.2.value → p.2.property = p'.2.property) ∧
      ∀ x, p'.1 = p.1 ++ "-" ++ x → p.2.value ≠ x ++ "-" ++ p'.2.value

theorem edgeOf_relationship (e : GraphEdge) (he : e ∈ table.edges a) :
    edgeOf e.relationship.1 e.relationship.2 = e := by
  obtain ⟨r,_,hr⟩ := List.mem_flatMap.mp he
  rw [edges_eq] at hr
  obtain ⟨rel,_,rfl⟩ := List.mem_map.mp hr
  rfl

/-- The ids tell the edges apart if no two relationships are joined to one text. -/
theorem separate_iff (h : ((table.edges a).map GraphEdge.relationship).Perm
    (table.relationships a)) :
    (∀ e ∈ table.edges a, ∀ e' ∈ table.edges a, e.id = e'.id → e = e') ↔ table.Separate a := by
  have hids : (∀ e ∈ table.edges a, ∀ e' ∈ table.edges a, e.id = e'.id → e = e') ↔
      ∀ p ∈ table.relationships a, ∀ p' ∈ table.relationships a,
        (edgeOf p.1 p.2).id = (edgeOf p'.1 p'.2).id → p = p' := by
    simp only [← h.mem_iff, List.forall_mem_map]
    apply forall₂_congr
    intro e he
    apply forall₂_congr
    intro e' he'
    rw [edgeOf_relationship table a e he, edgeOf_relationship table a e' he']
    apply imp_congr_right
    intro _
    constructor
    · intro heq
      rw [heq]
    · intro heq
      rw [← edgeOf_relationship table a e he, heq, edgeOf_relationship table a e' he']
  rw [hids]
  constructor
  · intro hinj p hp p' hp'
    constructor
    · intro hs hv
      have heq := hinj p hp p' hp' (by simp only [edgeOf, hs, hv])
      rw [heq]
    · intro x hs hv
      have heq := hinj p hp p' hp' ((dashed_eq_iff _ _ _ _).mpr (.inr (.inl ⟨x, hs, hv⟩)))
      -- an id is not longer than itself
      rw [heq] at hs
      have hlen := congrArg String.length hs
      simp only [String.length_append, show "-".length = 1 from rfl] at hlen
      omega
  · intro hsep p hp p' hp' hid
    rcases (dashed_eq_iff _ _ _ _).mp hid with ⟨hs,hv⟩ | ⟨x,hs,hv⟩ | ⟨x,hs,hv⟩
    · have hprop := (hsep p hp p' hp').1 hs hv
      obtain ⟨source,property,value⟩ := p
      obtain ⟨source',property',value'⟩ := p'
      cases hs
      cases hv
      cases hprop
      rfl
    · exact absurd hv ((hsep p hp p' hp').2 x hs)
    · exact absurd hv ((hsep p' hp' p hp).2 x hs)

theorem shows_iff : table.Shows a (table.edges a) ↔
    (∀ r ∈ table.accessible a, (table.resource r).NoLists) ∧ table.Separate a := by
  have hlists : ((table.edges a).map GraphEdge.relationship).Perm (table.relationships a) ↔
      ∀ r ∈ table.accessible a, (table.resource r).NoLists := by
    rw [perm_append_self_iff _ _ _ (relationships_perm table a)]
    simp only [List.flatMap_eq_nil_iff, List.map_eq_nil_iff, OntologyFields.NoLists]
  rw [GraphTable.Shows, ← hlists]
  exact and_congr_right (separate_iff table a)

theorem shows_perm {edges edges' : List GraphEdge} (h : edges.Perm edges') :
    table.Shows a edges ↔ table.Shows a edges' := by
  unfold GraphTable.Shows
  simp only [h.mem_iff]
  exact and_congr_left (fun _ => ⟨((h.map _).symm.trans ·), ((h.map _).trans ·)⟩)

/-- All pages of edges together show the relationships. -/
def GraphTable.Exact (E : SQL.Engine Resource (fun _ => none)) (sizes : ℕ → ℤ) (orderBy : String)
    (asc : Bool) : Prop :=
  ∀ n, table.rows.length < n → ∃ pages,
    followTokens (fun i t => listGraphEdges table.toOntologyResource E a table.rows
      ⟨sizes i, t, orderBy, asc⟩) n 0 .empty = some (.ok pages) ∧ table.Shows a pages.flatten

theorem exact_iff_shows (E : SQL.Engine Resource (fun _ => none)) (sizes : ℕ → ℤ)
    (orderBy : String) (asc : Bool) (f : List Resource → List Resource)
    (hf : E.sort (orderStmt orderBy asc) = some f) :
    table.Exact a E sizes orderBy asc ↔ table.Shows a (table.edges a) := by
  have hpages := listGraphEdges_pages table a E orderBy asc f hf sizes
  constructor
  · intro h
    obtain ⟨pages,hfollow,hperm⟩ := hpages (table.rows.length + 1) (by omega)
    obtain ⟨pages',hfollow',hshows⟩ := h (table.rows.length + 1) (by omega)
    have heq : pages = pages' := by
      have hsame := hfollow.symm.trans hfollow'
      simpa using hsame
    exact (shows_perm table a hperm).mp (heq ▸ hshows)
  · intro h n hn
    obtain ⟨pages,hfollow,hperm⟩ := hpages n hn
    exact ⟨pages, hfollow, (shows_perm table a hperm).mpr h⟩

/-- References in lists are lost, and the ids of edges are only as good as the texts they are
joined from. -/
theorem relationships_exact_iff (E : SQL.Engine Resource (fun _ => none)) (sizes : ℕ → ℤ)
    (orderBy : String) (asc : Bool) (f : List Resource → List Resource)
    (hf : E.sort (orderStmt orderBy asc) = some f) :
    (∀ m : OntologyFields, (related m.reflected).Perm m.references ↔ m.NoLists) ∧
      (table.Exact a E sizes orderBy asc ↔
        (∀ r ∈ table.accessible a, (table.resource r).NoLists) ∧ table.Separate a) := by
  refine ⟨related_perm_iff, ?_⟩
  rw [exact_iff_shows table a E sizes orderBy asc f hf]
  exact shows_iff table a

/-- A virtual machine in a resource group. -/
def oneMachine : GraphTable :=
  ⟨[⟨⟨"vm", "VirtualMachine,Resource", some "any"⟩, "service"⟩],
    fun _ => some [("name", .string "vm"), ("parent_id", .string "group")]⟩

theorem oneMachine_exact : oneMachine.Exact .allowAll
    (SQL.Engine.inTableOrder true (fun _ => none)) (fun _ => 0) "" true := by
  apply ((relationships_exact_iff oneMachine .allowAll
    (SQL.Engine.inTableOrder true (fun _ => none)) (fun _ => 0) "" true id rfl).2).mpr
  have hrel : oneMachine.relationships .allowAll = [("vm", ⟨"parent", "group"⟩)] := by decide
  constructor
  · intro r hr field hfield
    have hmem : field ∈ [("name", ProtoValue.string "vm"), ("parent_id", .string "group")] := by
      cases List.mem_singleton.mp (List.mem_of_mem_filter hr)
      exact hfield
    rcases List.mem_pair.mp hmem with rfl | rfl
    · decide
    · decide
  · intro p hp p' hp'
    rw [hrel, List.mem_singleton] at hp hp'
    subst hp
    subst hp'
    refine ⟨fun _ _ => rfl, fun x hs => ?_⟩
    have hlen := congrArg String.length hs
    simp only [String.length_append, show "-".length = 1 from rfl] at hlen
    omega

/-- Two resources that refer to others by ids with dashes. -/
def dashedTable : GraphTable :=
  ⟨[⟨⟨"a", "Resource", some "b-c"⟩, "service"⟩, ⟨⟨"a-b", "Resource", some "c"⟩, "service"⟩],
    fun text => some [("parent_id", .string text)]⟩

/-- The disks of a machine are not among its relationships, and the two resources with dashes in
their ids get one edge id. -/
theorem relationships_lost :
    (¬ (related (OntologyFields.reflected [("block_storage_ids", .strings ["disk"])])).Perm
      (OntologyFields.references [("block_storage_ids", .strings ["disk"])])) ∧
    ¬ dashedTable.Exact .allowAll (SQL.Engine.inTableOrder true (fun _ => none)) (fun _ => 0) ""
      true := by
  constructor
  · intro h
    exact absurd h.length_eq (by decide)
  · intro h
    have hsep := ((shows_iff dashedTable .allowAll).mp
      ((exact_iff_shows dashedTable .allowAll _ _ "" true id rfl).mp h)).2
    have hrel : dashedTable.relationships .allowAll =
        [("a", ⟨"parent", "b-c"⟩), ("a-b", ⟨"parent", "c"⟩)] := by decide
    rw [GraphTable.Separate, hrel] at hsep
    have hpair := hsep _ (List.mem_cons_self) _ (List.mem_cons_of_mem _ (List.mem_cons_self))
    exact hpair.2 "b" (by decide) (by decide)

end Edges
end Clouditor
