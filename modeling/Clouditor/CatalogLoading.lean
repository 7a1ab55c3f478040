import Clouditor.KeyedRows
import Clouditor.Requests
import Mathlib.Data.List.Induction

/-! The catalogs that the orchestrator loads from a folder at start-up: the loop over its files,
the completion of sub-controls, and what is left in the catalog table. -/
namespace Clouditor
set_option autoImplicit false

section Files

/-- A control in a catalog file. An entry of a list in JSON may be `null`. -/
structure FileControl where
  id : String
  categoryName : String
  categoryCatalogId : String
  parentControlId : Option String
  parentControlCategoryName : Option String
  parentControlCategoryCatalogId : Option String
  controls : List (Option FileControl)

structure FileCategory where
  name : String
  controls : List (Option FileControl)

structure FileCatalog where
  id : String
  categories : List (Option FileCategory)

/-- What reading and decoding a file gives. -/
inductive FileContent where
  | unreadable (e : Err)
  | malformed (e : Err)
  | catalogs (entries : List (Option FileCatalog))

/-- The entries of a folder in the order of its listing, if it can be listed. -/
abbrev Folder := Except Err (List (String × FileContent))

/-- `GetJSONFilenames`, with the contents in place of the names. -/
def jsonFiles (entries : List (String × FileContent)) : List FileContent :=
  (entries.filter (fun entry => ".json".toList.isSuffixOf entry.1.toList)).map Prod.snd

/-- One turn of the loop: the catalogs so far, and the variable `err`. -/
def loadFile (acc : List (Option FileCatalog) × Option Err) :
    FileContent → List (Option FileCatalog) × Option Err
  | .unreadable e => (acc.1, some e)
  | .malformed e => (acc.1, some e)
  | .catalogs entries => (acc.1 ++ entries, none)

/-- A sub-control with what it takes over from its catalog, its category and its parent. -/
def completeSub (catalogId categoryName : String) (control sub : FileControl) : FileControl :=
  { sub with
    categoryName := categoryName
    categoryCatalogId := catalogId
    parentControlCategoryCatalogId := some control.categoryCatalogId
    parentControlCategoryName := some control.categoryName
    parentControlId := some control.id }

/-- The innermost loop. An entry that is `null` is dereferenced, which faults. -/
def completeControl (catalogId categoryName : String) (control : FileControl) :
    Option FileControl :=
  (control.controls.mapM (Option.map (completeSub catalogId categoryName control))).map
    (fun subs => { control with controls := subs.map some })

def completeCategory (catalogId : String) (category : FileCategory) : Option FileCategory :=
  (category.controls.mapM (Option.bind · (completeControl catalogId category.name))).map
    (fun controls => { category with controls := controls.map some })

def completeCatalog (catalog : FileCatalog) : Option FileCatalog :=
  (catalog.categories.mapM (Option.bind · (completeCategory catalog.id))).map
    (fun categories => { catalog with categories := categories.map some })

/-- The loops over all catalogs, `none` if they fault. -/
def completeAll (entries : List (Option FileCatalog)) : Option (List FileCatalog) :=
  entries.mapM (Option.bind · completeCatalog)

/-- The catalogs and the error that `loadEmbeddedCatalogs` returns. -/
def loadEmbeddedCatalogs (folder : Folder) : Option (List FileCatalog × Option Err) :=
  let loaded := match folder with
    | .error e => ([], some e)
    | .ok entries => (jsonFiles entries).foldl loadFile ([], none)
  (completeAll loaded.1).map (fun catalogs => (catalogs, loaded.2))

def errEmptySlice : Err := ⟨none, "empty slice found"⟩

/-- `loadCatalogs`: the table it leaves and the error it returns, given the answer of the database
to a save. -/
def loadCatalogs (rows : Keyed.Rows FileCatalog.id) (folder : Folder) (saved : Option Err) :
    Option (Keyed.Rows FileCatalog.id × Option Err) :=
  (loadEmbeddedCatalogs folder).map (fun loaded =>
    match loaded with
    | (_, some e) => (rows, some (e.wrap "could not load catalogs"))
    | ([], none) => (rows, some errEmptySlice)
    | (catalogs, none) =>
      match saved with
      | some e => (rows, some e)
      | none => (rows.saveAll catalogs, none))

end Files

section Loop

/-- What a file has for the loop. -/
def FileContent.entries : FileContent → List (Option FileCatalog)
  | .unreadable _ => []
  | .malformed _ => []
  | .catalogs entries => entries

def FileContent.error : FileContent → Option Err
  | .unreadable e => some e
  | .malformed e => some e
  | .catalogs _ => none

theorem loadFile_eq (acc : List (Option FileCatalog) × Option Err) (file : FileContent) :
    loadFile acc file = (acc.1 ++ file.entries, file.error) := by
  cases file <;> simp [loadFile, FileContent.entries, FileContent.error]

/-- The loop collects the catalogs of all files, and the error is the one of the last. -/
theorem loadFiles_eq (files : List FileContent) :
    files.foldl loadFile ([], none) =
      (files.flatMap FileContent.entries, files.getLast?.bind FileContent.error) := by
  induction files using List.reverseRecOn with
  | nil => rfl
  | append_singleton files file ih =>
    rw [List.foldl_append, ih, List.foldl_cons, List.foldl_nil, loadFile_eq]
    simp

/-- A file that decodes to catalogs without `null` entries, with the catalogs. -/
def FileContent.wellFormed : FileContent → Option (List FileCatalog)
  | .unreadable _ => none
  | .malformed _ => none
  | .catalogs entries => completeAll entries

/-- The catalogs of the well-formed files. -/
def catalogsOf (files : List FileContent) : List FileCatalog :=
  files.flatMap (fun file => file.wellFormed.getD [])

def FileControl.HasNull (control : FileControl) : Prop := none ∈ control.controls

def FileCategory.HasNull (category : FileCategory) : Prop :=
  none ∈ category.controls ∨ ∃ control, some control ∈ category.controls ∧ control.HasNull

def FileCatalog.HasNull (catalog : FileCatalog) : Prop :=
  none ∈ catalog.categories ∨ ∃ category, some category ∈ catalog.categories ∧ category.HasNull

/-- A file that decodes, but to a list with a `null` where the loops look. -/
def FileContent.HasNull (file : FileContent) : Prop :=
  none ∈ file.entries ∨ ∃ catalog, some catalog ∈ file.entries ∧ catalog.HasNull

theorem mapM_bind_eq_none_iff {α β : Type} (f : α → Option β) (l : List (Option α)) :
    l.mapM (Option.bind · f) = none ↔ none ∈ l ∨ ∃ a, some a ∈ l ∧ f a = none := by
  induction l with
  | nil => simp
  | cons o l ih =>
    rw [List.mapM_cons]
    cases o with
    | none => simp
    | some a =>
      cases ha : f a with
      | none => exact ⟨fun _ => .inr ⟨a, List.mem_cons_self, ha⟩, fun _ => by simp [ha]⟩
      | some b =>
        have hrest : (∃ x, some x ∈ some a :: l ∧ f x = none) ↔ ∃ x, some x ∈ l ∧ f x = none := by
          constructor
          · intro h
            obtain ⟨x,hx,hfx⟩ := h
            rcases List.mem_cons.mp hx with hx | hx
            · cases hx
              cases ha.symm.trans hfx
            · exact ⟨x, hx, hfx⟩
          · intro h
            obtain ⟨x,hx,hfx⟩ := h
            exact ⟨x, List.mem_cons_of_mem _ hx, hfx⟩
        rw [hrest]
        simp only [List.mem_cons, reduceCtorEq, false_or, ← ih]
        cases hl : l.mapM (Option.bind · f) <;> simp [ha]

theorem completeControl_eq_none_iff (catalogId categoryName : String) (control : FileControl) :
    completeControl catalogId categoryName control = none ↔ control.HasNull := by
  have hmap : (Option.map (completeSub catalogId categoryName control)) =
      (Option.bind · (fun sub => some (completeSub catalogId categoryName control sub))) := by
    funext o
    cases o <;> rfl
  rw [completeControl, Option.map_eq_none_iff, hmap, mapM_bind_eq_none_iff]
  simp [FileControl.HasNull]

theorem completeCategory_eq_none_iff (catalogId : String) (category : FileCategory) :
    completeCategory catalogId category = none ↔ category.HasNull := by
  rw [completeCategory, Option.map_eq_none_iff, mapM_bind_eq_none_iff]
  simp only [completeControl_eq_none_iff, FileCategory.HasNull]

theorem completeCatalog_eq_none_iff (catalog : FileCatalog) :
    completeCatalog catalog = none ↔ catalog.HasNull := by
  rw [completeCatalog, Option.map_eq_none_iff, mapM_bind_eq_none_iff]
  simp only [completeCategory_eq_none_iff, FileCatalog.HasNull]

/-- The loops fault exactly on the files with a `null`. -/
theorem completeAll_eq_none_iff (file : FileContent) :
    completeAll file.entries = none ↔ file.HasNull := by
  rw [completeAll, mapM_bind_eq_none_iff]
  simp only [completeCatalog_eq_none_iff, FileContent.HasNull]

theorem completeAll_append (entries entries' : List (Option FileCatalog)) :
    completeAll (entries ++ entries') = (completeAll entries).bind (fun catalogs =>
      (completeAll entries').map (catalogs ++ ·)) := by
  unfold completeAll
  rw [List.mapM_append]
  cases entries.mapM (Option.bind · completeCatalog) <;>
    cases entries'.mapM (Option.bind · completeCatalog) <;> rfl

theorem wellFormed_getD (file : FileContent) (h : ¬ file.HasNull) :
    completeAll file.entries = some (file.wellFormed.getD []) := by
  cases file with
  | unreadable e => rfl
  | malformed e => rfl
  | catalogs entries =>
    rw [← completeAll_eq_none_iff] at h
    obtain ⟨catalogs,hcatalogs⟩ := Option.ne_none_iff_exists'.mp h
    change completeAll entries = some catalogs at hcatalogs
    simp [FileContent.entries, FileContent.wellFormed, hcatalogs]

/-- The completion faults if a file has a `null`; else it gives the catalogs of all files. -/
theorem completeAll_flatMap (files : List FileContent) :
    ((∃ file ∈ files, file.HasNull) ∧ completeAll (files.flatMap FileContent.entries) = none) ∨
      ((∀ file ∈ files, ¬ file.HasNull) ∧
        completeAll (files.flatMap FileContent.entries) = some (catalogsOf files)) := by
  induction files with
  | nil => exact .inr ⟨by simp, rfl⟩
  | cons file files ih =>
    rw [List.flatMap_cons, completeAll_append]
    by_cases hnull : file.HasNull
    · refine .inl ⟨⟨file, List.mem_cons_self, hnull⟩, ?_⟩
      rw [(completeAll_eq_none_iff file).mpr hnull]
      rfl
    · rw [wellFormed_getD file hnull]
      rcases ih with ⟨⟨file',hmem,hnull'⟩,hnone⟩ | ⟨hall,hsome⟩
      · refine .inl ⟨⟨file', List.mem_cons_of_mem _ hmem, hnull'⟩, ?_⟩
        rw [hnone]
        rfl
      · refine .inr ⟨List.forall_mem_cons.mpr ⟨hnull, hall⟩, ?_⟩
        rw [hsome]
        simp [catalogsOf]

end Loop

section Stored

/-- The table holds the wanted catalogs, and else what it held before. -/
def HoldsExactly (rows : Keyed.Rows FileCatalog.id) (wanted : List FileCatalog)
    (rows' : Keyed.Rows FileCatalog.id) : Prop :=
  (∀ c ∈ wanted, rows'.find c.id = some c) ∧
    ∀ id, (∀ c ∈ wanted, c.id ≠ id) → rows'.find id = rows.find id

/-- Start-up stores exactly the catalogs of the well-formed files. -/
def StoresExactly (rows : Keyed.Rows FileCatalog.id) (entries : List (String × FileContent))
    (saved : Option Err) : Prop :=
  ∃ rows' err, loadCatalogs rows (.ok entries) saved = some (rows', err) ∧
    HoldsExactly rows (catalogsOf (jsonFiles entries)) rows'

variable (rows : Keyed.Rows FileCatalog.id)

theorem holdsExactly_self_iff (wanted : List FileCatalog) :
    HoldsExactly rows wanted rows ↔ ∀ c ∈ wanted, rows.find c.id = some c := by
  simp [HoldsExactly]

theorem holdsExactly_saveAll_iff (wanted : List FileCatalog) :
    HoldsExactly rows wanted (rows.saveAll wanted) ↔
      ∀ c ∈ wanted, ∀ c' ∈ wanted, c.id = c'.id → c = c' := by
  rw [← Keyed.saveAll_keeps_iff rows wanted]
  apply and_iff_left
  intro id hid
  have hnone : wanted.reverse.find? (fun c => c.id = id) = none := by
    rw [List.find?_eq_none]
    intro c hc
    simpa using hid c (List.mem_reverse.mp hc)
  rw [Keyed.find_saveAll, hnone, Option.none_or]

/-- What is there after the catalogs were saved or not. -/
theorem holdsExactly_saved_iff (wanted : List FileCatalog) (saves : Prop) [Decidable saves] :
    HoldsExactly rows wanted (if saves then rows.saveAll wanted else rows) ↔
      (∀ c ∈ wanted, rows.find c.id = some c) ∨
        saves ∧ ∀ c ∈ wanted, ∀ c' ∈ wanted, c.id = c'.id → c = c' := by
  split_ifs with hsaves
  · rw [holdsExactly_saveAll_iff, and_iff_right hsaves]
    apply (or_iff_right_of_imp _).symm
    -- what is stored already under one id is one catalog
    intro hstored c hc c' hc' hid
    have hfind := hstored c hc
    rw [hid, hstored c' hc'] at hfind
    exact (Option.some.inj hfind).symm
  · rw [holdsExactly_self_iff]
    exact (or_iff_left (fun h => hsaves h.1)).symm

/-- Tables that hold the same catalogs in any order are the same. -/
theorem holdsExactly_unique (wanted wanted' : List FileCatalog) (hp : wanted.Perm wanted')
    (t t' : Keyed.Rows FileCatalog.id) (h : HoldsExactly rows wanted t)
    (h' : HoldsExactly rows wanted' t') (id : String) : t.find id = t'.find id := by
  by_cases hid : ∀ c ∈ wanted, c.id ≠ id
  · rw [h.2 id hid, h'.2 id (fun c hc => hid c (hp.mem_iff.mpr hc))]
  · push Not at hid
    obtain ⟨c,hc,rfl⟩ := hid
    rw [h.1 c hc, h'.1 c (hp.mem_iff.mp hc)]

theorem loadCatalogs_eq (entries : List (String × FileContent)) (saved : Option Err) :
    ((∃ file ∈ jsonFiles entries, file.HasNull) ∧ loadCatalogs rows (.ok entries) saved = none) ∨
      ((∀ file ∈ jsonFiles entries, ¬ file.HasNull) ∧
        ∃ err, loadCatalogs rows (.ok entries) saved =
          some (if (jsonFiles entries).getLast?.bind FileContent.error = none ∧ saved = none then
            rows.saveAll (catalogsOf (jsonFiles entries)) else rows, err)) := by
  have hloaded : loadEmbeddedCatalogs (.ok entries) =
      (completeAll ((jsonFiles entries).flatMap FileContent.entries)).map (fun catalogs =>
        (catalogs, (jsonFiles entries).getLast?.bind FileContent.error)) := by
    simp only [loadEmbeddedCatalogs, loadFiles_eq]
  rcases completeAll_flatMap (jsonFiles entries) with ⟨hnull,hnone⟩ | ⟨hall,hsome⟩
  · refine .inl ⟨hnull, ?_⟩
    rw [loadCatalogs, hloaded, hnone]
    rfl
  · refine .inr ⟨hall, ?_⟩
    rw [loadCatalogs, hloaded, hsome]
    cases hlast : (jsonFiles entries).getLast?.bind FileContent.error with
    | some e => exact ⟨some (e.wrap "could not load catalogs"), by simp⟩
    | none =>
      cases hcat : catalogsOf (jsonFiles entries) with
      | nil => exact ⟨some errEmptySlice, by simp [Keyed.Rows.saveAll]⟩
      | cons c cs =>
        cases saved with
        | none => exact ⟨none, by simp⟩
        | some e => exact ⟨some e, by simp⟩

/-- A folder with a good file and one that is no JSON. -/
def goodFile : String × FileContent := ("a.json", .catalogs [some ⟨"a", []⟩])

def badFile : String × FileContent := ("b.json", .malformed ⟨none, "unexpected end of JSON input"⟩)

end Stored
end Clouditor
