import Clouditor.AzureBackups

/-! The parts of Azure resource ids: what the helpers of the discoverer read from well-formed ids,
and for which texts they fault. -/
namespace Clouditor
set_option autoImplicit false
open Paged

/-- What stands between two slashes of an id. -/
def Segment := { text : String // '/' ∉ text.toList }

/-- A resource id `/subscriptions/S/resourceGroups/G/providers/P/T/N`, with `/T2/N2` behind it for
a resource inside of another one. -/
structure AzureId where
  subscription : Segment
  group : Segment
  provider : Segment
  type : Segment
  name : Segment
  child : Option (Segment × Segment)

namespace AzureId

def parts (id : AzureId) : List String :=
  ["", "subscriptions", id.subscription.1, "resourceGroups", id.group.1, "providers",
    id.provider.1, id.type.1, id.name.1] ++
  match id.child with
  | none => []
  | some (type, name) => [type.1, name.1]

def text (id : AzureId) : String := "/".intercalate id.parts

/-- The name of the inner resource, empty if there is none. -/
def childName (id : AzureId) : String := (id.child.map (·.2.1)).getD ""

/-- The id of the resource group. -/
def groupText (id : AzureId) : String :=
  "/subscriptions/" ++ id.subscription.1 ++ "/resourceGroups/" ++ id.group.1

variable (id : AzureId)

theorem slash_not_mem_parts : ∀ part ∈ id.parts, '/' ∉ part.toList := by
  have hfixed : ∀ part ∈ ["", "subscriptions", "resourceGroups", "providers"],
      '/' ∉ part.toList := by decide
  have hgiven (segment : Segment) : '/' ∉ segment.1.toList := segment.2
  obtain ⟨subscription, group, provider, type, name, child⟩ := id
  cases child with
  | none => simp_all [parts]
  | some child => simp_all [parts]

/-- Part 10 is there exactly for an inner resource, and then it is the last one. -/
theorem parts_cases : (id.parts.length = 9 ∧ id.childName = "") ∨
    (id.parts.length = 11 ∧ id.parts[10]? = some id.childName) := by
  obtain ⟨subscription, group, provider, type, name, child⟩ := id
  cases child with
  | none => exact .inl ⟨rfl, rfl⟩
  | some child => exact .inr ⟨rfl, rfl⟩

theorem split_text : split id.text '/' = id.parts :=
  (split_eq_iff (by simp [parts]) id.slash_not_mem_parts id.text).mpr rfl

theorem text_ne_empty : id.text ≠ "" := by
  intro hempty
  have hsplit := id.split_text
  rw [hempty] at hsplit
  have hlength := congrArg List.length hsplit
  simp [parts, split, splitChars] at hlength

end AzureId

section Helpers
variable {s : String}

theorem length_split : (split s '/').length = s.toList.count '/' + 1 := by
  rw [split, splitChars_eq_splitOn, List.length_map, Separated.length_splitOn]

theorem idPart_eq_ok_iff {n : ℕ} {r : String} :
    idPart s n = .ok r ↔ (split s '/')[n]? = some r := deref_eq_ok_iff

/-- A part is there if there are as many slashes before it. -/
theorem exists_idPart_iff (n : ℕ) : (∃ r, idPart s n = .ok r) ↔ n ≤ s.toList.count '/' := by
  have hlength := length_split (s := s)
  constructor
  · intro ⟨r, hr⟩
    obtain ⟨hlong, _⟩ := List.getElem?_eq_some_iff.mp (idPart_eq_ok_iff.mp hr)
    omega
  · intro hslashes
    have hlong : n < (split s '/').length := by omega
    exact ⟨_, idPart_eq_ok_iff.mpr (List.getElem?_eq_getElem hlong)⟩

/-- The helper does not fault, and if the text is a well-formed id, it returns that part of it. -/
def ReadsPart (helper : String → Outcome Err String) (part : AzureId → String) (s : String) :
    Prop :=
  ∃ r, helper s = .ok r ∧ ∀ id : AzureId, s = id.text → r = part id

/-- A part that every well-formed id has is read from all texts with as many slashes. -/
theorem readsPart_idPart_iff {n : ℕ} {part : AzureId → String}
    (hpart : ∀ id : AzureId, id.parts[n]? = some (part id)) :
    ReadsPart (idPart · n) part s ↔ n ≤ s.toList.count '/' := by
  rw [← exists_idPart_iff]
  constructor
  · exact fun ⟨r, hr, _⟩ => ⟨r, hr⟩
  · intro ⟨r, hr⟩
    refine ⟨r, hr, ?_⟩
    intro id htext
    rw [idPart_eq_ok_iff, htext, id.split_text, hpart id] at hr
    exact (Option.some.inj hr).symm

/-- The helpers for names give back the empty text as it is. -/
theorem readsPart_getName_iff :
    ReadsPart getName (·.name.1) s ↔ s = "" ∨ 8 ≤ s.toList.count '/' := by
  by_cases hempty : s = ""
  · refine iff_of_true ⟨"", by rw [getName, if_pos hempty], ?_⟩ (.inl hempty)
    intro id htext
    exact absurd (htext.symm.trans hempty) id.text_ne_empty
  · have hpart : ReadsPart getName (·.name.1) s ↔ ReadsPart (idPart · 8) (·.name.1) s := by
      simp only [ReadsPart, getName, if_neg hempty]
    rw [hpart, readsPart_idPart_iff (fun id => rfl), or_iff_right hempty]

/-- The check lets a text with ten parts through, although there is no part 10 then. -/
theorem readsPart_backupPolicyName_iff :
    ReadsPart backupPolicyName AzureId.childName s ↔ s.toList.count '/' ≠ 9 := by
  have hlength := length_split (s := s)
  have hparts (id : AzureId) (htext : s = id.text) : split s '/' = id.parts := by
    rw [htext, id.split_text]
  by_cases hshort : (split s '/').length < 10
  · refine iff_of_true ⟨"", by rw [backupPolicyName, if_pos hshort], ?_⟩ (by omega)
    intro id htext
    rw [hparts id htext] at hshort
    obtain ⟨_, hchild⟩ | ⟨hlong, _⟩ := id.parts_cases
    · exact hchild.symm
    · omega
  · have hname : backupPolicyName s = idPart s 10 := by rw [backupPolicyName, if_neg hshort]
    have hslashes : s.toList.count '/' ≠ 9 ↔ 10 ≤ s.toList.count '/' := by omega
    rw [hslashes, ← exists_idPart_iff, ← hname]
    constructor
    · exact fun ⟨r, hr, _⟩ => ⟨r, hr⟩
    · intro ⟨r, hr⟩
      refine ⟨r, hr, ?_⟩
      intro id htext
      rw [hname, idPart_eq_ok_iff, hparts id htext] at hr
      rw [hparts id htext] at hshort
      obtain ⟨hnine, _⟩ | ⟨_, hchild⟩ := id.parts_cases
      · omega
      · exact Option.some.inj (hr.symm.trans hchild)

theorem resourceGroupID_text (lower : String → String) (id : AzureId) :
    resourceGroupID lower (some id.text) = some (lower id.groupText) := by
  have hlength : ¬ id.parts.length < 5 := by
    obtain ⟨h, _⟩ | ⟨h, _⟩ := id.parts_cases <;> omega
  have hfirst : "" ++ "/" ++ "subscriptions" ++ "/" = "/subscriptions/" := by decide
  have hsecond : "/" ++ "resourceGroups" ++ "/" = "/resourceGroups/" := by decide
  have hfront : "/".intercalate (id.parts.take 5) = id.groupText := by
    calc "/".intercalate (id.parts.take 5)
        = ("" ++ "/" ++ "subscriptions" ++ "/") ++ id.subscription.1 ++ "/" ++ "resourceGroups" ++
            "/" ++ id.group.1 := rfl
      _ = "/subscriptions/" ++ id.subscription.1 ++ ("/" ++ "resourceGroups" ++ "/") ++
            id.group.1 := by
          rewrite [hfirst]
          simp only [String.append_assoc]
      _ = id.groupText := congrArg (_ ++ · ++ _) hsecond
  rw [resourceGroupID, id.split_text, if_neg hlength, hfront]

variable (s) in
/-- The helpers read the parts of every well-formed id. Of all other texts, those for names fault
if there are less than eight slashes, but not for the empty text; `resourceGroupName` if there
are less than four, also for the empty text; `backupPolicyName` if there are nine; and
`resourceGroupID` never faults. -/
theorem idHelpers_exact_iff (lower : String → String) :
    (ReadsPart getName (·.name.1) s ↔ s = "" ∨ 8 ≤ s.toList.count '/') ∧
      (ReadsPart accountName (·.name.1) s ↔ s = "" ∨ 8 ≤ s.toList.count '/') ∧
      (ReadsPart resourceGroupName (·.group.1) s ↔ 4 ≤ s.toList.count '/') ∧
      (ReadsPart diskEncryptionSetName (·.name.1) s ↔ s = "" ∨ 8 ≤ s.toList.count '/') ∧
      (ReadsPart backupPolicyName AzureId.childName s ↔ s.toList.count '/' ≠ 9) ∧
      ∀ id : AzureId, s = id.text →
        resourceGroupID lower (some s) = some (lower id.groupText) := by
  have hgroup : ReadsPart resourceGroupName (·.group.1) s ↔ 4 ≤ s.toList.count '/' :=
    readsPart_idPart_iff (fun id => rfl)
  -- the three helpers for names have one body
  refine ⟨readsPart_getName_iff, readsPart_getName_iff, hgroup, readsPart_getName_iff,
    readsPart_backupPolicyName_iff, ?_⟩
  intro id htext
  rw [htext]
  exact resourceGroupID_text lower id

/-- An id that ends early, the empty one, and one that ends behind the type of an inner
resource. -/
theorem short_id_faults :
    getName "/subscriptions/s/resourceGroups/g" = .error .fault ∧
      accountName "store" = .error .fault ∧
      diskEncryptionSetName "/subscriptions/s" = .error .fault ∧
      resourceGroupName "" = .error .fault ∧
      backupPolicyName "/subscriptions/s/resourceGroups/g/providers/p/t/n/t2" =
        .error .fault := by
  decide

end Helpers
end Clouditor
